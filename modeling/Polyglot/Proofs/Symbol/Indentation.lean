import Mathlib
import Polyglot.Proofs.Symbol.Scan
import Polyglot.Proofs.Symbol.WellFormed

/-!
# `Polyglot.Proofs.Symbol.Indentation`: where indented bodies end

`indentedEnd_extent`: an indented body goes on up to the first token that opens a line
(`Extent.OpensLine`) and is indented no deeper than the declaration (`Extent.Dedents`). A token
opens a line if it is not passed over and starts on a later line than all such tokens of the
declaration so far end on. So a line ends a body only with a token that is not passed over, and
never as the continuation of a token from an earlier line. The last line of a token that is passed
over counts as its own: every line would continue the line break in front of it otherwise.

The scan does not look at lines in this way. It carries one line number, which it raises to the line
that a token starts on if that opens a line, and to the line that it ends on. The number is the last
line that the declaration has reached so far, which is said by comparing it with any other line
(`BodyScan.line_lt_iff`).

`indented_nested`: bodies are nested. A declaration that starts behind the pattern of another one,
has its own pattern inside of the other one's body and is indented deeper ends no later than the
other one. Both scans carry their own line number and their own indentation. What carries the proof
is that the token that ends the outer body opens a line for the inner scan too, because all that the
inner scan has passed was passed by the outer one as well (`Dedents.of_deeper`).

The indentation of a line is the one that the scan measures, `Extent.indentOf`.
-/

set_option autoImplicit false

namespace Polyglot

namespace Extent

/-- A line that a declaration has not reached: token `last` and the tokens from there up to an index
that are not passed over end on earlier lines. -/
def NotReached (x : Extent) (last index line : Nat) : Prop :=
  ∀ i token, last ≤ i → i < index → x.tokens[i]? = some token →
    i = last ∨ x.isSkipped token = false → token.range.stop.line < line

/-- A token that opens a line behind token `last`: it is not passed over, and starts on a line that
was not reached. -/
structure OpensLine (x : Extent) (last index : Nat) (token : Token) : Prop where
  /-- It stands at the index. -/
  token_eq : x.tokens[index]? = some token
  /-- It stands behind token `last`. -/
  last_lt : last < index
  /-- It is not passed over. -/
  kept : x.isSkipped token = false
  /-- It starts on a line that was not reached. -/
  notReached : x.NotReached last index token.range.start.line

/-- A token that ends a body behind token `last`: it opens a line that is not indented deeper than
the declaration. -/
def Dedents (x : Extent) (base : UInt32) (last index : Nat) : Prop :=
  ∃ token, x.OpensLine last index token ∧ x.indentOf token.range.start.line ≤ base

/-- How far an indented body goes behind token `last` of a declaration: `limit` is the token that
ends it, or the number of tokens, and `stop` is its last token. -/
structure IndentedExtent (x : Extent) (base : UInt32) (last limit stop : Nat) : Prop where
  /-- The limit is the first token that ends the body. -/
  isFirst : x.FirstOrSize (x.Dedents base last) limit
  /-- The body ends with the last token in front of it that is not passed over. -/
  lastKept : x.LastKept last limit stop
  /-- A line on which only tokens start that are passed over, or none, does not end the body. -/
  blank : ∀ line, (∀ (i : Nat) token, x.tokens[i]? = some token →
      token.range.start.line = line → x.isSkipped token = true) →
    ∀ opener, x.tokens[limit]? = some opener → opener.range.start.line ≠ line
  /-- A line that continues a token does not end the body, unless it is the last line of a token that
  is passed over, such as the line behind a line break. -/
  continuation : ∀ (i : Nat) token, x.tokens[i]? = some token → ∀ line,
    token.range.start.line < line → line ≤ token.range.stop.line →
    (line = token.range.stop.line → x.isSkipped token = false) →
    ∀ opener, x.tokens[limit]? = some opener → opener.range.start.line ≠ line

/-- Tokens that stand in the order of their lines. -/
structure InOrder (x : Extent) : Prop where
  /-- A token ends no earlier than it starts. -/
  start_le_stop : ∀ {i : Nat} {token : Token}, x.tokens[i]? = some token →
    token.range.start.line ≤ token.range.stop.line
  /-- A token ends no later than those behind it start. -/
  stop_le_start : ∀ {i j : Nat} {s t : Token}, x.tokens[i]? = some s → x.tokens[j]? = some t →
    i < j → s.range.stop.line ≤ t.range.start.line

variable {x : Extent} {base : UInt32} {first last line limit stop index : Nat} {token : Token}
  {rest : List Token}

/-! ### Lines -/

/-- Directly behind token `last`, the lines behind the one that it ends on were not reached. It
counts even if it is passed over, because it belongs to the declaration. -/
theorem notReached_self (htoken : x.tokens[last]? = some token) :
    x.NotReached last (last + 1) line ↔ token.range.stop.line < line := by
  constructor
  · intro h
    exact h last token (Nat.le_refl _) (Nat.lt_succ_self _) htoken (.inl rfl)
  · intro hline i token' hlast hi htoken' _
    obtain rfl : i = last := by omega
    rw [htoken] at htoken'
    obtain rfl := Option.some.inj htoken'
    exact hline

/-- A token reaches the lines up to the one that it ends on, unless it is passed over. A token that
is passed over reaches nothing, so the line behind a comment is open for whatever comes next. -/
theorem notReached_succ (hlast : last < index) (htoken : x.tokens[index]? = some token) :
    x.NotReached last (index + 1) line ↔ x.NotReached last index line ∧
      (x.isSkipped token = false → token.range.stop.line < line) := by
  constructor
  · intro h
    refine ⟨fun i token' hle hi => h i token' hle (Nat.lt_succ_of_lt hi), fun hkept => ?_⟩
    exact h index token (Nat.le_of_lt hlast) (Nat.lt_succ_self _) htoken (.inr hkept)
  · rintro ⟨hbefore, hhere⟩ i token' hle hi htoken' hcounts
    rcases Nat.lt_succ_iff_lt_or_eq.mp hi with hi | rfl
    · exact hbefore i token' hle hi htoken' hcounts
    · obtain rfl := Option.some.inj (htoken.symm.trans htoken')
      exact hhere (hcounts.resolve_left (Nat.ne_of_gt hlast))

/-- A token that ends the body is there. -/
theorem Dedents.lt_size (h : x.Dedents base last index) : index < x.tokens.size := by
  obtain ⟨token, hopens, -⟩ := h
  exact (Array.getElem?_eq_some_iff.mp hopens.token_eq).1

/-! ### The scan -/

/-- The scan for the end of an indented body in its middle: it carries the last line that was
reached. -/
structure BodyScan (x : Extent) (base : UInt32) (last line stop index : Nat)
    (rest : List Token) : Prop extends
    x.Scan (x.Dedents base last) last stop index rest where
  /-- The lines behind the one that is carried were not reached. -/
  line_lt_iff : ∀ n, line < n ↔ x.NotReached last index n

namespace BodyScan

/-- A token that is not passed over ends the body if it starts behind the line that is carried and
is not indented deeper. This is the test of the scan, with a line number in place of all the tokens
in front. -/
theorem dedents_iff (h : x.BodyScan base last line stop index (token :: rest)) :
    x.Dedents base last index ↔ x.isSkipped token = false ∧ line < token.range.start.line ∧
      x.indentOf token.range.start.line ≤ base := by
  constructor
  · rintro ⟨token', hopens, hindent⟩
    obtain rfl := Option.some.inj (h.token_eq.symm.trans hopens.token_eq)
    exact ⟨hopens.kept, (h.line_lt_iff _).mpr hopens.notReached, hindent⟩
  · rintro ⟨hkept, hline, hindent⟩
    exact ⟨token, ⟨h.token_eq, h.last_lt, hkept, (h.line_lt_iff _).mp hline⟩, hindent⟩

/-- A token that does not end the body leads on to the next one; if it is not passed over, the line
that it ends on is reached. The new line number is given by what lies behind it. In this way the two
cases in which the scan raises its number, and the one in which it does not, are one. -/
theorem next (h : x.BodyScan base last line stop index (token :: rest))
    (hnot : ¬ x.Dedents base last index) {line' : Nat}
    (hline : ∀ n, line' < n ↔
      line < n ∧ (x.isSkipped token = false → token.range.stop.line < n)) :
    x.BodyScan base last line' (if x.isSkipped token then stop else index) (index + 1) rest where
  toScan := h.toScan.next hnot
  line_lt_iff := by
    intro n
    rw [hline, h.line_lt_iff, notReached_succ h.last_lt h.token_eq]

end BodyScan

/-- What the scan does with a token: it passes over it, or ends in front of it, or goes on behind it
with the line that it ends on reached. -/
theorem indentedFrom_cases (x : Extent) (base : UInt32) (line stop index : Nat) (token : Token)
    (rest : List Token) (hlines : token.range.start.line ≤ token.range.stop.line) :
    ((x.isSkipped token = false ∧ line < token.range.start.line ∧
        x.indentOf token.range.start.line ≤ base) ∧
      x.indentedFrom base line stop index (token :: rest) = stop) ∨
    (¬ (x.isSkipped token = false ∧ line < token.range.start.line ∧
        x.indentOf token.range.start.line ≤ base) ∧ ∃ line',
      (∀ n, line' < n ↔ line < n ∧ (x.isSkipped token = false → token.range.stop.line < n)) ∧
      x.indentedFrom base line stop index (token :: rest) =
        x.indentedFrom base line' (if x.isSkipped token then stop else index) (index + 1) rest) := by
  rw [indentedFrom]
  dsimp only
  by_cases hskipped : x.isSkipped token = true
  · refine .inr ⟨by simp [hskipped], line, by simp [hskipped], by simp [hskipped]⟩
  · rw [Bool.not_eq_true] at hskipped
    by_cases hends : line < token.range.start.line ∧ x.indentOf token.range.start.line ≤ base
    · exact .inl ⟨⟨hskipped, hends⟩, by simp [hskipped, hends]⟩
    · refine .inr ⟨fun h => hends h.2, max (max line token.range.start.line) token.range.stop.line,
        ?_, ?_⟩
      · -- a token ends no earlier than it starts, so the line that it starts on does not count
        intro n
        simp only [hskipped, true_imp_iff]
        omega
      · simp [hskipped, hends]

/-- A scan in its middle finds the token that ends the body. The induction is on the tokens that are
left, for any line and any end so far. The tokens have to be in order, since a token that ended
before it starts could raise the line too far. -/
theorem exists_limit_indentedFrom (horder : x.InOrder)
    (h : x.BodyScan base last line stop index rest) :
    ∃ limit, x.FirstOrSize (x.Dedents base last) limit ∧
      x.LastKept last limit (x.indentedFrom base line stop index rest) := by
  induction rest generalizing line stop index with
  | nil => exact ⟨_, h.finish fun _ hends => hends.lt_size⟩
  | cons token rest ih =>
    have hlines := horder.start_le_stop h.token_eq
    rcases x.indentedFrom_cases base line stop index token rest hlines with
      ⟨hends, hrun⟩ | ⟨hnot, line', hline, hrun⟩
    · rw [hrun]
      exact ⟨index, h.firstOrSize (h.dedents_iff.mpr hends), h.lastKept⟩
    · rw [hrun]
      exact ih (h.next (fun hends => hnot (h.dedents_iff.mp hends)) hline)

/-- The scan behind a declaration finds the token that ends its body. It starts with the line on
which the last token of the declaration ends, and measures against the line on which the first one
starts. These are different lines if the pattern goes over several. -/
theorem exists_limit_indentedEnd {start : Token} (horder : x.InOrder)
    (hfirst : x.tokens[first]? = some start) (hlast : last < x.tokens.size) :
    ∃ limit, x.FirstOrSize (x.Dedents (x.indentOf start.range.start.line) last) limit ∧
      x.LastKept last limit (x.indentedEnd first last) := by
  have htoken := Array.getElem?_eq_getElem hlast
  unfold indentedEnd
  rw [hfirst, htoken]
  refine exists_limit_indentedFrom horder ⟨scan_start ?_, fun n => (notReached_self htoken).symm⟩
  rintro i ⟨token, hopens, -⟩
  exact hopens.last_lt

/-! ### Bodies inside of bodies -/

/-- What was not reached behind a token of a declaration was not reached behind a later token that
is not passed over. Fewer tokens are looked at then, and the later token itself is one of those that
counted before. -/
theorem NotReached.of_later {last' : Nat} (h : x.NotReached last index line) (hlast : last < last')
    (hkept : x.Kept last') : x.NotReached last' index line := by
  intro i token hle hi htoken hcounts
  refine h i token (by omega) hi htoken (.inr ?_)
  rcases hcounts with rfl | hcounts
  · exact (kept_iff htoken).mp hkept
  · exact hcounts

/-- A token that ends a body ends any deeper body inside of it. It opens a line for the inner scan
too, as that has passed fewer tokens. An indentation that is not deeper than the outer one is not
deeper than the inner one either. -/
theorem Dedents.of_deeper {base' : UInt32} {last' : Nat} (h : x.Dedents base last index)
    (hlast : last < last') (hkept : x.Kept last') (hindex : last' < index) (hbase : base ≤ base') :
    x.Dedents base' last' index := by
  obtain ⟨token, ⟨htoken, -, htokenKept, hline⟩, hindent⟩ := h
  exact ⟨token, ⟨htoken, hindex, htokenKept, hline.of_later hlast hkept⟩,
    UInt32.le_trans hindent hbase⟩

/-- A body that starts inside of another one and is deeper ends no later. The token that ends the
outer body ends the inner one as well (`Dedents.of_deeper`), so the inner limit is not behind it.
Both ends are the last kept tokens in front of their limits. -/
theorem stop_le_of_deeper {base' : UInt32} {last' limit' stop' : Nat}
    (hlimit : x.FirstOrSize (x.Dedents base last) limit) (hstop : x.LastKept last limit stop)
    (hlimit' : x.FirstOrSize (x.Dedents base' last') limit')
    (hstop' : x.LastKept last' limit' stop') (hlast : last < last') (hkept : x.Kept last')
    (hinside : last' ≤ stop) (hbase : base ≤ base') : stop' ≤ stop := by
  rcases hstop'.cases with rfl | ⟨hbehind, hbefore, hstopKept⟩
  · exact hinside
  · -- the inner body stops in front of the token that ends the outer one, because that ends it too
    have hlt : stop' < limit := by
      by_contra hge
      have hends := hlimit.holds (by have := hstopKept.lt_size; omega)
      have hlastLimit : last' < limit := by
        rcases hstop.cases with rfl | ⟨-, hstopLimit, -⟩
        · omega
        · omega
      have hle := hlimit'.le (hends.of_deeper hlast hkept hlastLimit hbase)
      omega
    exact hstop.2 (.inr ⟨by omega, hlt, hstopKept⟩)

/-! ### The extent of a body -/

/-- The token at the limit of a body opens a line. -/
theorem opensLine_of_limit (hlimit : x.FirstOrSize (x.Dedents base last) limit)
    (htoken : x.tokens[limit]? = some token) : x.OpensLine last limit token := by
  obtain ⟨token', hopens, -⟩ := hlimit.holds (Array.getElem?_eq_some_iff.mp htoken).1
  obtain rfl := Option.some.inj (htoken.symm.trans hopens.token_eq)
  exact hopens

/-- The body of a declaration among tokens in order ends neither on a line where nothing starts that
is kept, nor on one that continues a token. Both follow from what the token at the limit is: it is
kept and starts on a line that nothing kept has reached. The order is needed for a token that stands
in front of the declaration, or behind the limit. -/
theorem InOrder.indentedExtent (horder : x.InOrder)
    (hlimit : x.FirstOrSize (x.Dedents base last) limit) (hstop : x.LastKept last limit stop) :
    x.IndentedExtent base last limit stop where
  isFirst := hlimit
  lastKept := hstop
  blank := by
    intro line hblank opener hopener heq
    have hskipped := hblank limit opener hopener heq
    rw [(opensLine_of_limit hlimit hopener).kept] at hskipped
    cases hskipped
  continuation := by
    intro i token htoken line hstart hstop hkept opener hopener heq
    have hopens := opensLine_of_limit hlimit hopener
    have hsize := (Array.getElem?_eq_some_iff.mp hopener).1
    rcases Nat.lt_trichotomy i limit with hi | rfl | hi
    · -- the opener starts where the token ends or later, so this is the last line of the token
      have hle := horder.stop_le_start htoken hopener hi
      have hkept := hkept (by omega)
      rcases Nat.lt_or_ge i last with hbefore | hbehind
      · have hlast := Array.getElem?_eq_getElem (Nat.lt_trans hopens.last_lt hsize)
        have hle := horder.stop_le_start htoken hlast hbefore
        have hlines := horder.start_le_stop hlast
        have hlt := hopens.notReached last _ (Nat.le_refl _) hopens.last_lt hlast (.inl rfl)
        omega
      · have hlt := hopens.notReached i token hbehind hi htoken (.inr hkept)
        omega
    · obtain rfl := Option.some.inj (hopener.symm.trans htoken)
      omega
    · have hle := horder.stop_le_start hopener htoken hi
      have hlines := horder.start_le_stop hopener
      omega

/-- The tokens of a text stand in order. Their ranges follow each other in the text, and a position
that is not in front of another one is on no earlier line. -/
theorem inOrder_new (lexer : Lexer) (source : String) (spans : List BlockSpan)
    (skipTypes : List String) (tabWidth : Nat) :
    (new source (lexer.tokenize source).toArray spans skipTypes tabWidth).InOrder := by
  have htokens : ∀ {i : Nat} {token : Token},
      (new source (lexer.tokenize source).toArray spans skipTypes tabWidth).tokens[i]? =
        some token → (lexer.tokenize source)[i]? = some token := by
    intro i token h
    rwa [← List.getElem?_toArray]
  refine ⟨fun h => ?_, fun hs ht hij => ?_⟩
  · exact (Lexer.upto_of_le (htokens h) (htokens h) (Nat.le_refl _)).2.1.line
  · exact (Lexer.upto_of_lt (htokens hs) (htokens ht) hij).line

/-- The body behind the tokens `first` to `last` of a text has the extent that `IndentedExtent` says,
for the indentation of the line on which token `first` starts. -/
theorem indentedEnd_extent (lexer : Lexer) (source : String) (spans : List BlockSpan)
    (skipTypes : List String) (tabWidth : Nat) {first last : Nat} {start : Token}
    (hfirst : (lexer.tokenize source)[first]? = some start)
    (hlast : last < (lexer.tokenize source).length) :
    let x := new source (lexer.tokenize source).toArray spans skipTypes tabWidth
    ∃ limit, x.IndentedExtent (x.indentOf start.range.start.line) last limit
      (x.indentedEnd first last) := by
  intro x
  have horder : x.InOrder := inOrder_new lexer source spans skipTypes tabWidth
  have hstart : x.tokens[first]? = some start := by
    show (lexer.tokenize source).toArray[first]? = some start
    rwa [List.getElem?_toArray]
  obtain ⟨limit, hlimit, hstop⟩ := exists_limit_indentedEnd horder hstart hlast
  exact ⟨limit, horder.indentedExtent hlimit hstop⟩

/-- Three ways in which a line goes on behind a declaration `d`. The word `x` stands on the last line
of a text that is kept, so it opens no line. The blank line ends nothing. The word `y` stands on the
last line of a comment that is passed over, so it does open a line, and because that is not
indented the body ends in front of it, with the word `a`. -/
theorem indentedEnd_extent_long_token :
    ∃ (lexer : Lexer) (source : String) (start : Token), lexer = {
        language := "sample"
        states := #[⟨"default", [⟨.literal [['"', '\n', '"']], "text", .string, false, none, none⟩,
          ⟨.literal [['/', '*', '\n', '*', '/']], "comment", .comment, false, none, none⟩,
          ⟨.literal [['\n'], [' ']], "blank", .whitespace, false, none, none⟩]⟩]
        initial := 0
        skipTypes := ["blank", "comment"]
        tabWidth := none } ∧
      source = "d\n \"\n\"x\n\n a /*\n*/ y" ∧
      (lexer.tokenize source).map (·.value) =
        ["d", "\n", " ", "\"\n\"", "x", "\n", "\n", " ", "a", " ", "/*\n*/", " ", "y"] ∧
      (lexer.tokenize source)[0]? = some start ∧ 0 < (lexer.tokenize source).length ∧
      ((lexer.tokenize source)[10]?.map fun comment => comment.range.stop.line) = some 6 ∧
      ((lexer.tokenize source)[12]?.map fun y => y.range.start.line) = some 6 ∧
      let x := new source (lexer.tokenize source).toArray [] lexer.skipTypes 4
      x.indentedEnd 0 0 = 8 ∧
      ∃ limit, x.IndentedExtent (x.indentOf start.range.start.line) 0 limit
        (x.indentedEnd 0 0) := by
  refine ⟨_, _, ⟨"error", "d", .error, ⟨⟨1, 0, 0⟩, ⟨1, 1, 1⟩⟩⟩, rfl, rfl, ?_, ?first, ?last, ?_, ?_,
    ?_, indentedEnd_extent _ _ [] _ 4 ?first ?last⟩
  case first => cbv
  case last => cbv
  · cbv
  · cbv
  · cbv
  · cbv

end Extent

namespace Detector

/-! ### Matches -/

/-- A match of a rule with an indented body, with its first and its last token among all tokens. -/
structure IndentedMatch (d : Detector) where
  /-- The match. -/
  hit : Hit
  /-- The rule matches where it was tried, over some claims. -/
  made : ∃ claims, d.hit? claims hit.rule hit.start = some hit
  /-- The rule has a body. -/
  hasBody : hit.rule.hasBody = true
  /-- The body is indented. -/
  bodyStyle : hit.rule.bodyStyle = some .indentation
  /-- The index of the first token. -/
  first : Nat
  /-- The index of the last token. -/
  last : Nat
  /-- The first token. -/
  token : Token
  /-- The first token has its index. -/
  significant_first : d.significant[hit.first]? = some first
  /-- The last token has its index. -/
  significant_last : d.significant[hit.last]? = some last
  /-- The first token is found under its index. -/
  tokens_first : d.tokens[first]? = some token

namespace IndentedMatch

variable {d : Detector}

/-- The last token of the declaration. -/
def stop (m : d.IndentedMatch) : Nat := d.extent.endOf m.hit.rule m.first m.last

/-- The indentation of the line on which the declaration starts. -/
def indent (m : d.IndentedMatch) : UInt32 := d.extent.indentOf m.token.range.start.line

/-- The declaration ends with its indented body. -/
theorem stop_eq (m : d.IndentedMatch) : m.stop = d.extent.indentedEnd m.first m.last := by
  unfold stop Extent.endOf
  rw [m.hasBody, m.bodyStyle]
  rfl

/-- The first token of the declaration is not behind its last one. A match knows this of the places
that are looked at, and the indices of all tokens are in the same order. -/
theorem first_le_last {lexer : Lexer} {source : String} (m : d.IndentedMatch)
    (hover : d.Over lexer source) : m.first ≤ m.last := by
  obtain ⟨claims, hmade⟩ := m.made
  exact hover.order (fits_of_hit? hmade).first_le_last m.significant_first m.significant_last

end IndentedMatch

/-- A match of a run whose rule has an indented body has its tokens among all tokens. The match
itself only says at which of the significant tokens it starts and ends. -/
theorem exists_indentedMatch {d : Detector} {lexer : Lexer} {source : String}
    {rules : List SymbolRule} {hit : Hit} (hover : d.Over lexer source) (hhit : hit ∈ d.hits rules)
    (hbody : hit.rule.hasBody = true) (hstyle : hit.rule.bodyStyle = some .indentation) :
    ∃ m : d.IndentedMatch, m.hit = hit := by
  obtain ⟨earlier, later, hsplit⟩ := List.append_of_mem hhit
  obtain ⟨ends⟩ := hover.exists_ends (fits_of_mem_hitsOf hhit)
  exact ⟨{
    hit
    made := ⟨_, (hitsOf_split hsplit).2⟩
    hasBody := hbody
    bodyStyle := hstyle
    first := ends.firstIndex
    last := ends.lastIndex
    token := ends.first
    significant_first := ends.significant_first
    significant_last := ends.significant_last
    tokens_first := ends.tokens_first }, rfl⟩

/-- A token that is looked at is not passed over. Patterns see only tokens of types that are not
skipped, and the scan for the end passes over just those of the skipped types. -/
theorem kept_of_significant {source : String} {tokens : List Token} {spans : List BlockSpan}
    {lexer : Lexer} {defaultSkip defaultTabWidth place index : Nat}
    (h : (new source tokens spans lexer defaultSkip defaultTabWidth).significant[place]? =
      some index) :
    (new source tokens spans lexer defaultSkip defaultTabWidth).extent.Kept index := by
  change ((kept tokens lexer).map (·.2)).toArray[place]? = some index at h
  rw [List.getElem?_toArray, List.getElem?_map] at h
  obtain ⟨⟨token, index⟩, hkept, rfl⟩ := Option.map_eq_some_iff.mp h
  have hmem := List.mem_of_getElem? hkept
  refine ⟨token, ?_, ?_⟩
  · show tokens.toArray[index]? = some token
    rw [List.getElem?_toArray]
    exact getElem?_of_mem_kept hmem
  · have hlooked := (List.mem_filter.mp hmem).2
    rwa [Bool.not_eq_true'] at hlooked

/-- Declarations with indented bodies are nested. If one starts behind the last token of another
one's pattern, has the last token of its own pattern inside of the other one, and starts on a line
that is indented deeper, it does not end behind the other one. All matches of a run by rules with
indented bodies are such declarations. -/
theorem indented_nested (lexer : Lexer) (source : String) (blocks : List BlockRule)
    (settings : Settings) :
    let tokens := lexer.tokenize source
    let d := new source tokens (blockSpans tokens blocks) lexer settings.maxSkipLookahead
      settings.defaultTabWidth
    (∀ rules, ∀ hit ∈ d.hits rules, hit.rule.hasBody = true →
      hit.rule.bodyStyle = some .indentation → ∃ m : d.IndentedMatch, m.hit = hit) ∧
    ∀ outer inner : d.IndentedMatch, outer.last < inner.first → inner.last ≤ outer.stop →
      outer.indent < inner.indent → inner.stop ≤ outer.stop := by
  intro tokens d
  have hover : d.Over lexer source := over_new source lexer blocks _ _
  have horder : d.extent.InOrder := Extent.inOrder_new lexer source _ _ _
  refine ⟨fun rules hit hhit => exists_indentedMatch hover hhit, ?_⟩
  intro outer inner hbehind hinside hdeeper
  -- each of the two has a limit of its own, found from its own indentation
  have hlimits : ∀ m : d.IndentedMatch, ∃ limit,
      d.extent.FirstOrSize (d.extent.Dedents m.indent m.last) limit ∧
      d.extent.LastKept m.last limit m.stop := by
    intro m
    rw [m.stop_eq]
    exact Extent.exists_limit_indentedEnd horder m.tokens_first
      (kept_of_significant m.significant_last).lt_size
  obtain ⟨limit, hlimit, hstop⟩ := hlimits outer
  obtain ⟨limit', hlimit', hstop'⟩ := hlimits inner
  have hlast : outer.last < inner.last := Nat.lt_of_lt_of_le hbehind (inner.first_le_last hover)
  exact Extent.stop_le_of_deeper hlimit hstop hlimit' hstop' hlast
    (kept_of_significant inner.significant_last) hinside (UInt32.le_of_lt hdeeper)

/-- A lexer for one word, blanks and line breaks; all else becomes error tokens. -/
def sampleLexer : Lexer where
  language := "sample"
  states := #[⟨"default", [⟨.literal [['d']], "word", .keyword, false, none, none⟩,
    ⟨.literal [['\n'], [' ']], "blank", .whitespace, false, none, none⟩]⟩]
  initial := 0
  skipTypes := ["blank"]
  tabWidth := none

/-- A declaration inside of another one, and a line behind each of the two bodies. -/
def sampleSource : String := "d\n d\n  x\n y\nz"

/-- A detector over these lines. -/
def sampleDetector : Detector :=
  let settings : Settings := {}
  let tokens := sampleLexer.tokenize sampleSource
  new sampleSource tokens (blockSpans tokens []) sampleLexer settings.maxSkipLookahead
    settings.defaultTabWidth

/-- A rule for the word, with an indented body. -/
def sampleRule : SymbolRule :=
  ⟨"declaration", "kind", [.token ⟨"word", none, none⟩], true, some .indentation⟩

/-- The outer body goes on behind the inner one. -/
theorem indented_nested_lines :
    ∃ outer inner : sampleDetector.IndentedMatch,
      outer.hit.rule = sampleRule ∧ inner.hit.rule = sampleRule ∧
      outer.last < inner.first ∧ inner.last ≤ outer.stop ∧ outer.indent < inner.indent ∧
      outer.stop = 10 ∧ inner.stop = 7 ∧ inner.stop ≤ outer.stop := by
  -- the declaration on the first line, and the one that is indented below it
  let outer : sampleDetector.IndentedMatch := {
    hit := ⟨sampleRule, 0, [⟨0, none⟩], List.cons_ne_nil _ _⟩
    made := ⟨[], by cbv⟩
    hasBody := rfl
    bodyStyle := rfl
    first := 0
    last := 0
    token := ⟨"word", "d", .keyword, ⟨⟨1, 0, 0⟩, ⟨1, 1, 1⟩⟩⟩
    significant_first := by cbv
    significant_last := by cbv
    tokens_first := by cbv }
  let inner : sampleDetector.IndentedMatch := {
    hit := ⟨sampleRule, 1, [⟨1, none⟩], List.cons_ne_nil _ _⟩
    made := ⟨[], by cbv⟩
    hasBody := rfl
    bodyStyle := rfl
    first := 3
    last := 3
    token := ⟨"word", "d", .keyword, ⟨⟨2, 1, 3⟩, ⟨2, 2, 4⟩⟩⟩
    significant_first := by cbv
    significant_last := by cbv
    tokens_first := by cbv }
  have houter : outer.stop = 10 := by
    show sampleDetector.extent.endOf sampleRule 0 0 = 10
    cbv
  have hinner : inner.stop = 7 := by
    show sampleDetector.extent.endOf sampleRule 3 3 = 7
    cbv
  have hinside : inner.last ≤ outer.stop := by
    rw [houter]
    decide
  have hdeeper : outer.indent < inner.indent := by
    show sampleDetector.extent.indentOf 1 < sampleDetector.extent.indentOf 2
    cbv
  exact ⟨outer, inner, rfl, rfl, by decide, hinside, hdeeper, houter, hinner,
    (indented_nested sampleLexer sampleSource [] {}).2 outer inner (by decide) hinside hdeeper⟩

end Detector

end Polyglot
