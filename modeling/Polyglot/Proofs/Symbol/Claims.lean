import Mathlib.Data.List.Nodup
import Mathlib.Data.List.Perm.Subperm
import Polyglot.Profile.Basic
import Polyglot.Proofs.Symbol.Hits

/-!
# `Polyglot.Proofs.Symbol.Claims`: claims keep matches apart, and nothing is missed

A match claims all tokens from the first to the last one that it bound, and later matches bind no
claimed token. Skips may jump over claimed tokens, so the intervals of two matches can overlap;
what they bind cannot. `detect_claims` says this of every run: what a match binds lies outside the
claims of those before it, so no token is bound twice, and there are no more symbols than tokens
that are looked at.

It also says that the run is thorough. A pattern that starts with a token to bind matches nowhere
over the claims that are left at the end. The run has tried it everywhere, but over fewer claims,
and claims are never given back. So what carries the proof is that a pattern which matches still
matches when less is claimed (`matches_of_subset`). The way that is found may then be another one,
but it binds the same first token, which is claimed from that try on.
-/

set_option autoImplicit false

namespace Polyglot

/-- A pattern whose first step binds a token. -/
inductive StartsBinding : List PatternStep → Prop where
  /-- It starts with a token. -/
  | token (step : TokenStep) (rest : List PatternStep) : StartsBinding (.token step :: rest)
  /-- It starts with one of several tokens. -/
  | anyOf (steps : List TokenStep) (rest : List PatternStep) : StartsBinding (.anyOf steps :: rest)

namespace Detector

variable {d : Detector} {claims claims' : List (Nat × Nat)}

/-! ### Fewer claims -/

/-- A token that is bound is bound too if less is claimed. Claims only forbid tokens, and the
conditions of the step do not look at them. -/
theorem binds_of_subset {step : TokenStep} {index : Nat} (hsub : claims ⊆ claims')
    (h : (d.viewOf claims').Binds step index) : (d.viewOf claims).Binds step index where
  free := fun claim hclaim => h.free claim (hsub hclaim)
  token := h.token

/-- The alternative that binds a token is the same one if less is claimed. An earlier alternative
cannot come in: a claim forbids the token to all of them alike, so what kept the earlier one away is
its own condition. -/
theorem firstBinds_of_subset {steps : List TokenStep} {step : TokenStep} {index : Nat}
    (hsub : claims ⊆ claims') (h : (d.viewOf claims').FirstBinds steps step index) :
    (d.viewOf claims).FirstBinds steps step index := by
  obtain ⟨hbinds, before, after, hsteps, hbefore⟩ := h
  refine ⟨binds_of_subset hsub hbinds, before, after, hsteps, fun other hother hbound => ?_⟩
  -- the token is free in both views, so what binds it in one binds it in the other
  exact hbefore other hother ⟨hbinds.free, hbound.token⟩

/-- A pattern that matches does so too, in the same way, if less is claimed. The induction is on the
way through the pattern, and every step of it can be kept. It need no longer be the first way, since
others may have become free. -/
theorem matches_of_subset {pattern : List PatternStep} {place : Nat} {choices : List Choice}
    {bound : List Binding} (hsub : claims ⊆ claims')
    (h : (d.viewOf claims').Matches pattern place choices bound) :
    (d.viewOf claims).Matches pattern place choices bound := by
  induction h with
  | nil place => exact .nil place
  | token h _ ih => exact .token (binds_of_subset hsub h) ih
  | take h _ ih => exact .take (binds_of_subset hsub h) ih
  | leave _ ih => exact .leave ih
  | anyOf h _ ih => exact .anyOf (firstBinds_of_subset hsub h) ih
  | lastSkip max place => exact .lastSkip max place
  | skip hmore hnear hfar _ ih => exact .skip hmore hnear hfar ih

end Detector

/-! ### What is bound and what is claimed -/

namespace Hit

/-- A match that fits to the tokens and claims of a view: it binds tokens in order, and none that
is claimed. -/
structure Fits (hit : Hit) (d : Detector) (claims : List (Nat × Nat)) : Prop where
  /-- The tokens are bound from left to right. -/
  sorted : (hit.bound.map (·.index)).Pairwise (· < ·)
  /-- There are such tokens. -/
  lt_size : ∀ b ∈ hit.bound, b.index < d.view.size
  /-- None of them is claimed. -/
  free : ∀ b ∈ hit.bound, ∀ claim ∈ claims, ¬ (claim.1 ≤ b.index ∧ b.index ≤ claim.2)

/-- A match that binds nothing of what an earlier one has claimed. -/
def Spares (later earlier : Hit) : Prop :=
  ∀ b ∈ later.bound, ¬ (earlier.first ≤ b.index ∧ b.index ≤ earlier.last)

variable {hit : Hit} {d : Detector} {claims : List (Nat × Nat)}

/-- All that is bound lies in the interval that is claimed. The claim is made of the first and the
last binding only, so this is where the order of the bindings comes in. -/
theorem Fits.mem_claim (h : hit.Fits d claims) :
    ∀ b ∈ hit.bound, hit.first ≤ b.index ∧ b.index ≤ hit.last := by
  intro b hb
  have hsorted := List.pairwise_map.mp h.sorted
  constructor
  · -- the first one of a sorted list is the least
    have hcons := List.cons_head_tail hit.bound_ne_nil
    rw [← hcons] at hsorted hb
    rcases List.mem_cons.mp hb with rfl | hb
    · exact Nat.le_refl _
    · exact Nat.le_of_lt (List.rel_of_pairwise_cons hsorted hb)
  · -- and the last one the greatest
    have hconcat := List.dropLast_append_getLast hit.bound_ne_nil
    rw [← hconcat] at hsorted hb
    rcases List.mem_append.mp hb with hb | hb
    · have hlast := List.mem_singleton_self (hit.bound.getLast hit.bound_ne_nil)
      exact Nat.le_of_lt ((List.pairwise_append.mp hsorted).2.2 b hb _ hlast)
    · rw [List.mem_singleton.mp hb]
      exact Nat.le_refl _

/-- The last token that is bound does not come before the first one. -/
theorem Fits.first_le_last (h : hit.Fits d claims) : hit.first ≤ hit.last :=
  (h.mem_claim _ (List.head_mem hit.bound_ne_nil)).2

end Hit

namespace Detector

variable {d : Detector} {claims : List (Nat × Nat)} {rule : SymbolRule} {start : Nat} {hit : Hit}

/-- A try makes a match that fits to the claims so far. What the search binds is in order and free,
whatever way it took through the pattern. -/
theorem fits_of_hit? (h : d.hit? claims rule start = some hit) : hit.Fits d claims := by
  obtain ⟨-, -, -, hbound⟩ := hit?_eq_some_iff.mp h
  obtain ⟨choices, hfirst⟩ := TokenView.bindings?_eq_some_iff.mp hbound
  have hfree := hfirst.matched.free
  exact ⟨hfirst.matched.sorted.1, fun b hb => (hfree b hb).1, fun b hb => (hfree b hb).2⟩

/-- The matches of tries fit to the claims before the tries. A match fits to the claims at its own
try, and these are more: claims are only ever added. -/
theorem fits_of_mem_hitsOf {tries : List (SymbolRule × Nat)} (h : hit ∈ d.hitsOf claims tries) :
    hit.Fits d claims := by
  obtain ⟨earlier, later, hsplit⟩ := List.append_of_mem h
  obtain ⟨hsorted, hsize, hfree⟩ := fits_of_hit? (hitsOf_split hsplit).2
  exact ⟨hsorted, hsize, fun b hb claim hclaim => hfree b hb claim (List.mem_append_right _ hclaim)⟩

/-- A match spares the claims of those before it. By the recursion of `hitsOf`, all later matches
are made over claims with the one of the match in front, so `fits_of_mem_hitsOf` gives this for all
of them at once. -/
theorem pairwise_hitsOf (d : Detector) (claims : List (Nat × Nat))
    (tries : List (SymbolRule × Nat)) :
    (d.hitsOf claims tries).Pairwise fun earlier later => later.Spares earlier := by
  induction tries generalizing claims with
  | nil => exact .nil
  | cons t rest ih =>
    rw [hitsOf]
    cases d.hit? claims t.1 t.2 with
    | none => exact ih claims
    | some hit =>
      refine List.pairwise_cons.mpr ⟨fun later hlater b hb => ?_, ih _⟩
      exact (fits_of_mem_hitsOf hlater).free b hb hit.claim List.mem_cons_self

/-- No token is bound twice. Within one match the bindings ascend. What an earlier match binds lies
in its claim, and a later one binds nothing there. -/
theorem nodup_bound (d : Detector) (rules : List SymbolRule) :
    ((d.hits rules).flatMap fun hit => hit.bound.map (·.index)).Nodup := by
  rw [List.nodup_flatMap]
  constructor
  · intro hit hhit
    exact (fits_of_mem_hitsOf hhit).sorted.imp Nat.ne_of_lt
  · refine (pairwise_hitsOf d [] _).imp_of_mem ?_
    intro earlier later hearlier _ hspares index hmem hmem'
    obtain ⟨b, hb, rfl⟩ := List.mem_map.mp hmem
    obtain ⟨b', hb', heq⟩ := List.mem_map.mp hmem'
    have hclaim := (fits_of_mem_hitsOf hearlier).mem_claim b hb
    exact hspares b' hb' (heq ▸ hclaim)

/-- There are no more matches than tokens that are looked at. The first tokens of the matches differ
from each other, because the first token of a match is claimed for all later ones. -/
theorem length_hits_le (d : Detector) (rules : List SymbolRule) :
    (d.hits rules).length ≤ d.view.size := by
  -- a match is known by the first token that it binds
  have hnodup : ((d.hits rules).map (·.first)).Nodup := by
    unfold List.Nodup
    rw [List.pairwise_map]
    refine (pairwise_hitsOf d [] _).imp_of_mem ?_
    intro earlier later hearlier _ hspares heq
    have hlast := (fits_of_mem_hitsOf hearlier).first_le_last
    exact hspares _ (List.head_mem later.bound_ne_nil)
      ⟨Nat.le_of_eq heq, Nat.le_trans (Nat.le_of_eq heq.symm) hlast⟩
  have hsubset : (d.hits rules).map (·.first) ⊆ List.range d.view.size := by
    intro index hindex
    obtain ⟨hit, hhit, rfl⟩ := List.mem_map.mp hindex
    exact List.mem_range.mpr
      ((fits_of_mem_hitsOf hhit).lt_size _ (List.head_mem hit.bound_ne_nil))
  have hlength := (hnodup.subperm hsubset).length_le
  rw [List.length_map, List.length_range] at hlength
  exact hlength

/-- There are no more symbols than matches. A match makes one symbol or none, and sorting neither
adds nor removes any. -/
theorem length_detect_le (d : Detector) (rules : List SymbolRule) :
    (d.detect rules).length ≤ (d.hits rules).length := by
  rw [detect_eq, List.length_mergeSort]
  exact List.length_filterMap_le _ _

/-- The tokens that are looked at are those that are not passed over, in order. The detector numbers
the tokens before it filters, to find its way back to them. The numbers do not matter here. -/
theorem toList_view_new (source : String) (tokens : List Token) (spans : List BlockSpan)
    (lexer : Lexer) (defaultSkip defaultTabWidth : Nat) :
    (new source tokens spans lexer defaultSkip defaultTabWidth).view.toList =
      tokens.filter fun token => !lexer.isSkipped token.type := by
  conv => rhs; rw [← List.zipIdx_map_fst 0 tokens]
  rw [List.filter_map]
  rfl

/-! ### Nothing is missed -/

/-- A claim is the one of a match. -/
theorem mem_claimsOf_iff {hits : List Hit} {claim : Nat × Nat} :
    claim ∈ claimsOf hits ↔ ∃ hit ∈ hits, hit.claim = claim := by
  simp [claimsOf]

/-- A pattern that starts with a token to bind binds the token where it is tried. So its first
binding does not depend on the way that the search takes. This is what makes it possible to compare
searches over different claims. -/
theorem exists_bound_eq {view : TokenView} {pattern : List PatternStep} {choices : List Choice}
    {bound : List Binding} (hstarts : StartsBinding pattern)
    (h : view.Matches pattern start choices bound) :
    ∃ capture more, bound = ⟨start, capture⟩ :: more := by
  cases hstarts with
  | token step rest =>
    cases h with
    | token _ _ => exact ⟨_, _, rfl⟩
  | anyOf steps rest =>
    cases h with
    | anyOf _ _ => exact ⟨_, _, rfl⟩

/-- A try makes a match that starts at its token, if the pattern starts with a token to bind and
matches there over more claims. With fewer claims the search may find another way through the
pattern. It still finds some way, and every way starts at the token. -/
theorem exists_hit? {claims' : List (Nat × Nat)} {choices : List Choice} {bound : List Binding}
    (hsub : claims ⊆ claims') (hstarts : StartsBinding rule.pattern)
    (h : (d.viewOf claims').Matches rule.pattern start choices bound) :
    ∃ hit, d.hit? claims rule start = some hit ∧ hit.first = start := by
  have hmatches := matches_of_subset hsub h
  have hfree : (d.viewOf claims).isClaimed start = false := by
    obtain ⟨capture, more, rfl⟩ := exists_bound_eq hstarts hmatches
    have hbound := (hmatches.free _ List.mem_cons_self).2
    simpa [TokenView.isClaimed] using hbound
  -- over fewer claims another way may come first, but it starts at the same token
  obtain ⟨bound', hbound'⟩ := Option.isSome_iff_exists.mp
    (TokenView.isSome_bindings?_iff.mpr ⟨choices, bound, hmatches⟩)
  obtain ⟨choices', hfirst⟩ := TokenView.bindings?_eq_some_iff.mp hbound'
  obtain ⟨capture, more, rfl⟩ := exists_bound_eq hstarts hfirst.matched
  exact ⟨⟨rule, start, _, List.cons_ne_nil _ _⟩,
    hit?_eq_some_iff.mpr ⟨hfree, rfl, rfl, hbound'⟩, rfl⟩

/-- A pattern that starts with a token to bind matches nowhere over the claims of a run that tries
it everywhere. If it did at some token, its try there would have made a match by `exists_hit?`,
since the claims were fewer then. That match has claimed the token, so the pattern cannot bind it at
the end. -/
theorem match?_claims_eq_none {rules : List SymbolRule} (hrule : rule ∈ rules)
    (hstarts : StartsBinding rule.pattern) (start : Nat) :
    (d.viewOf (claimsOf (d.hits rules))).match? rule.pattern start = none := by
  refine Option.not_isSome_iff_eq_none.mp fun hmatch => ?_
  obtain ⟨choices, bound, hfirst, -⟩ := TokenView.isSome_match?_iff.mp hmatch
  obtain ⟨capture, more, rfl⟩ := exists_bound_eq hstarts hfirst.matched
  obtain ⟨hstart, hfree⟩ := hfirst.matched.free _ List.mem_cons_self
  have htry : (rule, start) ∈ d.tries rules :=
    List.mem_flatMap.mpr ⟨rule, hrule, List.mem_map_of_mem (List.mem_range.mpr hstart)⟩
  obtain ⟨before, after, htries⟩ := List.append_of_mem htry
  -- the matches of the run: those before the try, and those from it on
  have hhits : d.hits rules = d.hitsOf [] before ++
      d.hitsOf (claimsOf (d.hitsOf [] before)) ((rule, start) :: after) := by
    rw [hits, htries, hitsOf_append, List.append_nil]
  have hsub : claimsOf (d.hitsOf [] before) ⊆ claimsOf (d.hits rules) := by
    intro claim hclaim
    obtain ⟨earlier, hearlier, hclaim⟩ := mem_claimsOf_iff.mp hclaim
    refine mem_claimsOf_iff.mpr ⟨earlier, ?_, hclaim⟩
    rw [hhits]
    exact List.mem_append_left _ hearlier
  -- so the try made a match, and that has claimed the token
  obtain ⟨hit, hhit, hhitFirst⟩ := exists_hit? hsub hstarts hfirst.matched
  have hmem : hit ∈ d.hits rules := by
    rw [hhits, hitsOf, hhit]
    exact List.mem_append_right _ List.mem_cons_self
  have hlast := (fits_of_mem_hitsOf hmem).first_le_last
  exact hfree hit.claim (mem_claimsOf_iff.mpr ⟨hit, hmem, rfl⟩)
    ⟨Nat.le_of_eq hhitFirst, Nat.le_trans (Nat.le_of_eq hhitFirst.symm) hlast⟩

/-- The matches of a run in order spare the claims of those before them, so no token is bound
twice and there are at most as many symbols as tokens that are not passed over. Over the claims
at the end of the run, no pattern of it that starts with a token to bind matches anywhere. -/
theorem detect_claims (source : String) (tokens : List Token) (spans : List BlockSpan)
    (lexer : Lexer) (settings : Settings) (rules : List SymbolRule) :
    let d := new source tokens spans lexer settings.maxSkipLookahead settings.defaultTabWidth
    d.Makes rules (d.hits rules) ∧
    ((d.hits rules).Pairwise fun earlier later =>
      ∀ b ∈ later.bound, ¬ (earlier.first ≤ b.index ∧ b.index ≤ earlier.last)) ∧
    ((d.hits rules).flatMap fun hit => hit.bound.map (·.index)).Nodup ∧
    (d.detect rules).length ≤ (tokens.filter fun token => !lexer.isSkipped token.type).length ∧
    ∀ rule ∈ rules, StartsBinding rule.pattern → ∀ start,
      (d.viewOf (rules.foldl d.tryRule {}).claims).match? rule.pattern start = none := by
  intro d
  refine ⟨makes_hits d rules, pairwise_hitsOf d [] _, nodup_bound d rules, ?_, ?_⟩
  · have hview : d.view.size = (tokens.filter fun token => !lexer.isSkipped token.type).length := by
      rw [← Array.length_toList, toList_view_new]
    exact hview ▸ (length_detect_le d rules).trans (length_hits_le d rules)
  · intro rule hrule hstarts start
    rw [run_eq]
    exact match?_claims_eq_none hrule hstarts start

/-- The intervals themselves may overlap: behind a match of `b c`, the pattern `a … d` jumps over
what that has bound. Nothing is left for it afterwards. -/
theorem detect_claims_overlapping :
    ∃ (d : Detector) (inner outer : SymbolRule),
      d = new "abcd" (["a", "b", "c", "d"].map fun type => ⟨type, type, .plain, {}⟩) [] default
        50 4 ∧
      inner = ⟨"inner", "", [.token ⟨"b", none, none⟩, .token ⟨"c", none, none⟩], false, none⟩ ∧
      outer = ⟨"outer", "", [.token ⟨"a", none, none⟩, .skip none, .token ⟨"d", none, none⟩],
        false, none⟩ ∧
      (d.hits [inner, outer]).map (·.claim) = [(1, 2), (0, 3)] ∧
      ∀ start, (d.viewOf ([inner, outer].foldl d.tryRule {}).claims).match? outer.pattern start =
        none := by
  refine ⟨_, _, _, rfl, rfl, rfl, by decide, ?_⟩
  obtain ⟨-, -, -, -, hmissed⟩ := detect_claims "abcd"
    (["a", "b", "c", "d"].map fun type => ⟨type, type, .plain, {}⟩) [] default {} [_, _]
  exact hmissed _ (List.mem_cons_of_mem _ List.mem_cons_self) (.token _ _)

end Detector

end Polyglot
