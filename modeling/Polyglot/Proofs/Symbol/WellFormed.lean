import Polyglot.Proofs.Lexer.Places
import Polyglot.Proofs.Support.Sort
import Polyglot.Proofs.Symbol.Claims
import Polyglot.Proofs.Symbol.Extents

/-!
# `Polyglot.Proofs.Symbol.WellFormed`: symbols are well formed

`detect_wellFormed`: over the tokens of a source and their blocks, every match of a run has its
symbol, and the symbol is where the match is. It starts at the first token that was bound and ends
at a token that is not in front of the last one; its lines are those of these tokens; and its name
is the text of a bound token, which lies inside it. The answer has these symbols by start line,
those on one line in the order of their matches.

Two numberings meet here. Patterns are matched over the tokens that are looked at, and extents
and ranges are about all tokens. `Over` says what a detector has to know of the two: a token that
is looked at is found among all tokens under its index, and the indices grow with the places. So
the end of an extent, which is an index, can be compared with the places that were bound, and by
`Lexer.upto_of_le` the order of indices is the order of positions.
-/

set_option autoImplicit false

namespace Polyglot

namespace Detector

/-- A detector over the tokens of a source: the tokens that are looked at are found among all
tokens, in their order, and blocks close at tokens. -/
structure Over (d : Detector) (lexer : Lexer) (source : String) : Prop where
  /-- All tokens are those of the source. -/
  tokens : d.tokens.toList = lexer.tokenize source
  /-- A token that is looked at is found under its index. -/
  index : ∀ {place : Nat} {token : Token}, d.view[place]? = some token →
    ∃ index, d.significant[place]? = some index ∧ d.tokens[index]? = some token
  /-- The indices are in the order of the places. -/
  order : ∀ {place place' index index' : Nat}, place ≤ place' →
    d.significant[place]? = some index → d.significant[place']? = some index' → index ≤ index'
  /-- Extents are found among all tokens. -/
  extent : d.extent.tokens = d.tokens
  /-- A block closes behind its opening token, at one of the tokens. -/
  spans : ∀ span ∈ d.extent.spans,
    span.openIndex < span.closeIndex ∧ span.closeIndex < d.extent.tokens.size

/-- A symbol that fits to the match that it was made of. -/
structure WellFormed (d : Detector) (source : String) (hit : Hit) (symbol : Symbol) : Prop where
  /-- The kind is the one of the rule. -/
  kind : symbol.kind = hit.rule.kind
  /-- It starts where the first bound token starts. -/
  start : ∃ token, d.view[hit.first]? = some token ∧
    symbol.contentRange.start = token.range.start
  /-- It ends where a token ends that is not before the last bound one. -/
  stop : ∃ last stop token, d.significant[hit.last]? = some last ∧
    d.tokens[last]? = d.view[hit.last]? ∧ last ≤ stop ∧ d.tokens[stop]? = some token ∧
    symbol.contentRange.stop = token.range.stop
  /-- The first line is the one where it starts. -/
  startLine : symbol.startLine = symbol.contentRange.start.line
  /-- The last line is the one where it ends. -/
  stopLine : symbol.stopLine = symbol.contentRange.stop.line
  /-- The lines are in order. -/
  lines : symbol.startLine ≤ symbol.stopLine
  /-- The range of the name is the one of a bound token. -/
  nameBound : ∀ range ∈ symbol.nameRange, ∃ b ∈ hit.bound, ∃ token,
    d.view[b.index]? = some token ∧ token.range = range
  /-- The name is the text in its range. -/
  nameText : ∀ range ∈ symbol.nameRange, range.Spells source symbol.name
  /-- The name stands inside the symbol. -/
  nameInside : ∀ range ∈ symbol.nameRange, symbol.contentRange.start.Upto range.start ∧
    range.stop.Upto symbol.contentRange.stop
  /-- Without a range, no token was remembered and the name is the one of the rule. -/
  unnamed : symbol.nameRange = none → hit.found.captures = [] ∧ symbol.name = hit.rule.name

/-! ### The two numberings -/

/-- The tokens that are looked at, with their indices. -/
def kept (tokens : List Token) (lexer : Lexer) : List (Token × Nat) :=
  tokens.zipIdx.filter fun t => !lexer.isSkipped t.1.type

/-- The indices of the tokens that are looked at increase. Tokens are left out, but those that stay
keep the numbers that they had among all tokens. -/
theorem pairwise_kept (tokens : List Token) (lexer : Lexer) :
    ((kept tokens lexer).map (·.2)).Pairwise (· < ·) := by
  have hsublist : ((kept tokens lexer).map (·.2)).Sublist (tokens.zipIdx.map (·.2)) :=
    List.filter_sublist.map _
  refine List.Pairwise.sublist hsublist ?_
  rw [List.zipIdx_map_snd]
  exact List.pairwise_lt_range'

/-- A token that is looked at stands under its index. -/
theorem getElem?_of_mem_kept {tokens : List Token} {lexer : Lexer} {token : Token} {index : Nat}
    (h : (token, index) ∈ kept tokens lexer) : tokens[index]? = some token :=
  List.mem_zipIdx_iff_getElem?.mp (List.mem_filter.mp h).1

/-- A detector that is made of the tokens of a source and their blocks is one over the source. This
is where its two lists of tokens are opened. All else about symbols goes through the fields of
`Over`. -/
theorem over_new (source : String) (lexer : Lexer) (blocks : List BlockRule)
    (defaultSkip defaultTabWidth : Nat) :
    (new source (lexer.tokenize source) (blockSpans (lexer.tokenize source) blocks) lexer
      defaultSkip defaultTabWidth).Over lexer source where
  tokens := rfl
  index := by
    intro place token hplace
    change ((kept (lexer.tokenize source) lexer).map (·.1)).toArray[place]? = some token at hplace
    rw [List.getElem?_toArray, List.getElem?_map] at hplace
    obtain ⟨⟨token, index⟩, hkept, rfl⟩ := Option.map_eq_some_iff.mp hplace
    refine ⟨index, ?_, ?_⟩
    · show ((kept (lexer.tokenize source) lexer).map (·.2)).toArray[place]? = some index
      rw [List.getElem?_toArray, List.getElem?_map, hkept]
      rfl
    · show (lexer.tokenize source).toArray[index]? = some token
      rw [List.getElem?_toArray]
      exact getElem?_of_mem_kept (List.mem_of_getElem? hkept)
  order := by
    -- the tokens that are kept are in the order of the text
    intro place place' index index' hle hplace hplace'
    change ((kept (lexer.tokenize source) lexer).map (·.2)).toArray[place]? = some index at hplace
    change ((kept (lexer.tokenize source) lexer).map (·.2)).toArray[place']? = some index'
      at hplace'
    rw [List.getElem?_toArray] at hplace hplace'
    rcases Nat.eq_or_lt_of_le hle with rfl | hlt
    · rw [hplace] at hplace'
      exact Nat.le_of_eq (Option.some.inj hplace')
    · obtain ⟨hbound, rfl⟩ := List.getElem?_eq_some_iff.mp hplace
      obtain ⟨hbound', rfl⟩ := List.getElem?_eq_some_iff.mp hplace'
      have hsorted := pairwise_kept (lexer.tokenize source) lexer
      exact Nat.le_of_lt (List.pairwise_iff_getElem.mp hsorted _ _ hbound hbound' hlt)
  extent := rfl
  spans := fun span hspan => closeIndex_of_mem_blockSpans hspan

variable {d : Detector} {lexer : Lexer} {source : String} {claims : List (Nat × Nat)} {hit : Hit}

/-- A place that is looked at has its token, under its index. Patterns speak of places and extents
of indices, so most of what follows starts with this lemma. -/
theorem Over.exists_index (h : d.Over lexer source) {place : Nat} (hplace : place < d.view.size) :
    ∃ index token, d.view[place]? = some token ∧ d.significant[place]? = some index ∧
      d.tokens[index]? = some token := by
  have htoken := Array.getElem?_eq_getElem hplace
  obtain ⟨index, hindex, hat⟩ := h.index htoken
  exact ⟨index, _, htoken, hindex, hat⟩

/-- A token that is found under an index is the one of the source. -/
theorem Over.getElem?_tokenize (h : d.Over lexer source) {index : Nat} {token : Token}
    (hindex : d.tokens[index]? = some token) : (lexer.tokenize source)[index]? = some token := by
  rw [← h.tokens, Array.getElem?_toList]
  exact hindex

/-! ### Names -/

/-- A match is named by a bound token, if it remembers any. The capture called `name` comes first,
and any first capture is taken otherwise. In both cases the token was bound by the pattern, so it
lies between the first and the last one. -/
theorem Over.nameToken?_cases (h : d.Over lexer source) (hfits : hit.Fits d claims) :
    (hit.found.captures = [] ∧ d.nameToken? hit.found = none) ∨
    ∃ b ∈ hit.bound, ∃ index token, d.view[b.index]? = some token ∧
      d.significant[b.index]? = some index ∧ d.tokens[index]? = some token ∧
      d.nameToken? hit.found = some token := by
  cases hnamed : hit.found.captures.find? (·.1 == "name") <|> hit.found.captures.head? with
  | none =>
    refine .inl ⟨?_, ?_⟩
    · rw [Option.orElse_eq_orElse, Option.orElse_eq_or, Option.or_eq_none_iff] at hnamed
      exact List.head?_eq_none_iff.mp hnamed.2
    · unfold nameToken?
      rw [hnamed]
      rfl
  | some named =>
    have hmem : named ∈ hit.found.captures := by
      rw [Option.orElse_eq_orElse, Option.orElse_eq_or, Option.or_eq_some_iff] at hnamed
      rcases hnamed with hfound | ⟨-, hhead⟩
      · exact List.mem_of_find?_eq_some hfound
      · exact List.mem_of_head? hhead
    -- a capture belongs to a token that was bound, and only such tokens are looked at
    obtain ⟨b, hb, hcapture⟩ := List.mem_filterMap.mp hmem
    obtain ⟨name, -, rfl⟩ := Option.map_eq_some_iff.mp hcapture
    obtain ⟨index, token, hview, hindex, htoken⟩ := h.exists_index (hfits.lt_size b hb)
    refine .inr ⟨b, hb, index, token, hview, hindex, htoken, ?_⟩
    unfold nameToken?
    rw [hnamed]
    simp [hindex, htoken]

/-! ### Symbols -/

/-- The tokens at which the symbol of a match starts and ends. -/
structure Ends (d : Detector) (hit : Hit) where
  /-- The index of the first bound token. -/
  firstIndex : Nat
  /-- The index of the last bound token. -/
  lastIndex : Nat
  /-- The first bound token. -/
  first : Token
  /-- The token at the end of the extent. -/
  stop : Token
  /-- The first bound token has its index. -/
  significant_first : d.significant[hit.first]? = some firstIndex
  /-- The last bound token has its index. -/
  significant_last : d.significant[hit.last]? = some lastIndex
  /-- The first bound token is looked at. -/
  view_first : d.view[hit.first]? = some first
  /-- The first bound token is found under its index. -/
  tokens_first : d.tokens[firstIndex]? = some first
  /-- The last bound token is found under its index. -/
  tokens_last : d.tokens[lastIndex]? = d.view[hit.last]?
  /-- The extent ends at a token. -/
  tokens_stop : d.tokens[d.extent.endOf hit.rule firstIndex lastIndex]? = some stop
  /-- The first bound token is not behind the last one. -/
  first_le_last : firstIndex ≤ lastIndex
  /-- The last bound token is not behind the end of the extent. -/
  last_le_stop : lastIndex ≤ d.extent.endOf hit.rule firstIndex lastIndex

/-- A match has a token at which its symbol starts and one at which it ends. The detector looks them
up among all tokens, and gives no symbol if one of them is missing. By the bounds of the extent that
does not happen. -/
theorem Over.exists_ends (h : d.Over lexer source) (hfits : hit.Fits d claims) :
    Nonempty (d.Ends hit) := by
  obtain ⟨firstIndex, first, hfirstView, hfirstIndex, hfirst⟩ :=
    h.exists_index (hfits.lt_size _ (List.head_mem hit.bound_ne_nil))
  obtain ⟨lastIndex, last, hlastView, hlastIndex, hlast⟩ :=
    h.exists_index (hfits.lt_size _ (List.getLast_mem hit.bound_ne_nil))
  have hlastLt : lastIndex < d.extent.tokens.size := by
    rw [h.extent]
    exact (Array.getElem?_eq_some_iff.mp hlast).1
  obtain ⟨hstopLe, hstopLt⟩ :=
    @Extent.endOf_bounds d.extent hit.rule firstIndex lastIndex h.spans hlastLt
  rw [h.extent] at hstopLt
  exact ⟨{
    firstIndex, lastIndex, first
    stop := d.tokens[d.extent.endOf hit.rule firstIndex lastIndex]
    significant_first := hfirstIndex
    significant_last := hlastIndex
    view_first := hfirstView
    tokens_first := hfirst
    tokens_last := hlast.trans hlastView.symm
    tokens_stop := Array.getElem?_eq_getElem hstopLt
    first_le_last := h.order hfits.first_le_last hfirstIndex hlastIndex
    last_le_stop := hstopLe }⟩

/-- The symbol between two ends. -/
def Ends.symbol (ends : d.Ends hit) : Symbol where
  name := ((d.nameToken? hit.found).map (·.value)).getD hit.rule.name
  kind := hit.rule.kind
  startLine := ends.first.range.start.line
  stopLine := ends.stop.range.stop.line
  nameRange := (d.nameToken? hit.found).map (·.range)
  contentRange := ⟨ends.first.range.start, ends.stop.range.stop⟩

/-- The symbol of a match is the one between its ends. All lookups on the way are those that the
ends have answered. -/
theorem Ends.symbolOf?_eq (ends : d.Ends hit) : d.symbolOf? hit = some ends.symbol := by
  have hstop := ends.tokens_stop
  unfold symbolOf? symbol?
  simp [Hit.found, ends.significant_first, ends.significant_last, ends.tokens_first, hstop,
    Ends.symbol]

/-- A token that names a match is bound, and stands between the ends. Tokens follow each other in
the text, so the order of their indices is the order of their ranges. -/
theorem Over.named (h : d.Over lexer source) (ends : d.Ends hit)
    (hfits : hit.Fits d claims) {token : Token}
    (htoken : d.nameToken? hit.found = some token) :
    ∃ b ∈ hit.bound, d.view[b.index]? = some token ∧ token.range.Spells source token.value ∧
      ends.first.range.start.Upto token.range.start ∧
      token.range.stop.Upto ends.stop.range.stop := by
  rcases h.nameToken?_cases hfits with
    ⟨-, hnone⟩ | ⟨b, hb, index, named, hview, hindex, hat, hnamed⟩
  · rw [hnone] at htoken
    cases htoken
  · rw [hnamed] at htoken
    obtain rfl := Option.some.inj htoken
    obtain ⟨hfirst, hlast⟩ := hfits.mem_claim b hb
    have hat := h.getElem?_tokenize hat
    have hbehind := Lexer.upto_of_le (h.getElem?_tokenize ends.tokens_first) hat
      (h.order hfirst ends.significant_first hindex)
    have hbefore := Lexer.upto_of_le hat (h.getElem?_tokenize ends.tokens_stop)
      (Nat.le_trans (h.order hlast hindex ends.significant_last) ends.last_le_stop)
    exact ⟨b, hb, hview, Lexer.spells_of_getElem? hat, hbehind.1, hbefore.2.2⟩

/-- The symbol between the ends of a match is well formed. Kind and lines are copied from the rule
and the tokens. What needs the text is the order of the ranges, and that the name is what stands
there. -/
theorem Over.wellFormed (h : d.Over lexer source) (ends : d.Ends hit)
    (hfits : hit.Fits d claims) : d.WellFormed source hit ends.symbol where
  kind := rfl
  start := ⟨ends.first, ends.view_first, rfl⟩
  stop := ⟨_, _, ends.stop, ends.significant_last, ends.tokens_last, ends.last_le_stop,
    ends.tokens_stop, rfl⟩
  startLine := rfl
  stopLine := rfl
  lines := by
    have hfirst := h.getElem?_tokenize ends.tokens_first
    have hstop := h.getElem?_tokenize ends.tokens_stop
    exact (Lexer.upto_of_le hfirst hstop
      (Nat.le_trans ends.first_le_last ends.last_le_stop)).2.1.line
  nameBound := by
    intro range hrange
    obtain ⟨token, htoken, rfl⟩ := Option.map_eq_some_iff.mp hrange
    obtain ⟨b, hb, hview, -⟩ := h.named ends hfits htoken
    exact ⟨b, hb, token, hview, rfl⟩
  nameText := by
    intro range hrange
    obtain ⟨token, htoken, rfl⟩ := Option.map_eq_some_iff.mp hrange
    obtain ⟨-, -, -, hspells, -⟩ := h.named ends hfits htoken
    rw [Ends.symbol, htoken]
    exact hspells
  nameInside := by
    intro range hrange
    obtain ⟨token, htoken, rfl⟩ := Option.map_eq_some_iff.mp hrange
    obtain ⟨-, -, -, -, hinside⟩ := h.named ends hfits htoken
    exact hinside
  unnamed := by
    intro hnone
    have hnone : d.nameToken? hit.found = none := Option.map_eq_none_iff.mp hnone
    rcases h.nameToken?_cases hfits with ⟨hcaptures, -⟩ | ⟨_, _, _, _, _, _, _, hnamed⟩
    · rw [Ends.symbol, hnone]
      exact ⟨hcaptures, rfl⟩
    · rw [hnamed] at hnone
      cases hnone

/-- The symbols of matches that all have one are one for each, in order. Filtering drops nothing
then, so the list of symbols stays in step with the list of matches. -/
theorem forall₂_symbolOf? {hits : List Hit} {P : Hit → Symbol → Prop}
    (h : ∀ hit ∈ hits, ∃ symbol, d.symbolOf? hit = some symbol ∧ P hit symbol) :
    List.Forall₂ (fun hit symbol => d.symbolOf? hit = some symbol ∧ P hit symbol) hits
      (hits.filterMap d.symbolOf?) := by
  induction hits with
  | nil => exact .nil
  | cons hit rest ih =>
    obtain ⟨hhit, hrest⟩ := List.forall_mem_cons.mp h
    obtain ⟨symbol, hsymbol, hP⟩ := hhit
    rw [List.filterMap_cons, hsymbol]
    exact .cons ⟨hsymbol, hP⟩ (ih hrest)

/-- Over the tokens of a source and their blocks, every match of a run has one symbol, which is
well formed. The answer has these symbols by start line, those on one line in the order in which
they were found. -/
theorem detect_wellFormed (lexer : Lexer) (source : String) (blocks : List BlockRule)
    (settings : Settings) (rules : List SymbolRule) :
    let tokens := lexer.tokenize source
    let d := new source tokens (blockSpans tokens blocks) lexer settings.maxSkipLookahead
      settings.defaultTabWidth
    ∃ found : List Symbol,
      d.Makes rules (d.hits rules) ∧
      List.Forall₂ (fun hit symbol => d.symbolOf? hit = some symbol ∧
        d.WellFormed source hit symbol) (d.hits rules) found ∧
      (rules.foldl d.tryRule {}).symbols = found.reverse ∧
      (d.detect rules).Perm found ∧
      ((d.detect rules).Pairwise fun s t => s.startLine ≤ t.startLine) ∧
      ∀ line, ((d.detect rules).filter fun s => s.startLine = line) =
        found.filter fun s => s.startLine = line := by
  intro tokens d
  have hover : d.Over lexer source := over_new source lexer blocks _ _
  have hsymbols : ∀ hit ∈ d.hits rules,
      ∃ symbol, d.symbolOf? hit = some symbol ∧ d.WellFormed source hit symbol := by
    intro hit hhit
    have hfits := fits_of_mem_hitsOf hhit
    obtain ⟨ends⟩ := hover.exists_ends hfits
    exact ⟨ends.symbol, ends.symbolOf?_eq, hover.wellFormed ends hfits⟩
  refine ⟨(d.hits rules).filterMap d.symbolOf?, makes_hits d rules, forall₂_symbolOf? hsymbols,
    ?_, ?_, ?_, ?_⟩
  · rw [run_eq]
  · rw [detect_eq]
    exact List.mergeSort_perm _ _
  · rw [detect_eq]
    exact pairwise_mergeSort_key Symbol.startLine _
  · intro line
    rw [detect_eq]
    exact filter_mergeSort_key Symbol.startLine _ line

end Detector

end Polyglot
