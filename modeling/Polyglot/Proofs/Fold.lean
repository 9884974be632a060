import Mathlib.Data.List.Sort
import Mathlib.Data.String.Basic
import Polyglot.Fold

/-!
# `Polyglot.Proofs.Fold`: the regions that fold

`folds_exact`: the answer is the regions of listed blocks and of comments (`Fold.Region`) that have
enough lines, each of them once and in a strict order (`Fold.Precedes`). A strictly ordered list is
given by its members, so neither the order of the blocks nor repetitions among them make a
difference, and a greater least number of lines takes regions away and leaves the others as they
are.

Only a region that equals its neighbour is dropped. That this leaves no two equal regions is owed
to the order: it compares all that a region consists of, so that equal regions are neighbours in a
sorted list (`Fold.pairwise_dropRepeats`). An order by lines alone would leave two regions of one
block with one of another kind between them.

The number of lines of a region is a 32-bit word. It is exact for regions between lines that count
from one in 32 bits (`Fold.lines_eq`); from line 0 to the greatest line it would be zero.
-/

set_option autoImplicit false

namespace Polyglot

namespace Fold

/-! ### The order of regions -/

/-- A region comes before another one: it starts on an earlier line, or on the same line and ends
on a later one, or has the same lines and a smaller kind. -/
def Precedes (a b : Fold) : Prop :=
  a.startLine < b.startLine ∨ a.startLine = b.startLine ∧
    (b.stopLine < a.stopLine ∨ a.stopLine = b.stopLine ∧ a.kind < b.kind)

/-- The test of the sort is the strict order or equality. It compares the start lines, then the end
lines the other way round, and then the kinds. -/
theorem before_iff {a b : Fold} : before a b = true ↔ a = b ∨ a.Precedes b := by
  obtain ⟨start, stop, kind⟩ := a
  obtain ⟨start', stop', kind'⟩ := b
  unfold before Precedes
  simp only [mk.injEq]
  split
  · rw [decide_eq_true_eq]
    omega
  · split
    · rw [decide_eq_true_eq]
      omega
    · -- the lines are equal, so the kinds decide
      have hstart : start = start' := by omega
      have hstop : stop = stop' := by omega
      simp [hstart, hstop, le_iff_eq_or_lt]

/-- The order of regions is transitive. The cases follow the three keys: where one of the two
comparisons is decided by an earlier key, so is the one between the outer regions. -/
theorem Precedes.trans {a b c : Fold} (hab : a.Precedes b) (hbc : b.Precedes c) :
    a.Precedes c := by
  rcases hab with hab | ⟨hstart, hab | ⟨hstop, hab⟩⟩
  · rcases hbc with hbc | ⟨hstart', -⟩
    · exact .inl (by omega)
    · exact .inl (by omega)
  · rcases hbc with hbc | ⟨hstart', hbc | ⟨hstop', -⟩⟩
    · exact .inl (by omega)
    · exact .inr ⟨by omega, .inl (by omega)⟩
    · exact .inr ⟨by omega, .inl (by omega)⟩
  · rcases hbc with hbc | ⟨hstart', hbc | ⟨hstop', hbc⟩⟩
    · exact .inl (by omega)
    · exact .inr ⟨by omega, .inl (by omega)⟩
    · exact .inr ⟨by omega, .inr ⟨by omega, hab.trans hbc⟩⟩

/-- No region comes before itself. -/
theorem not_precedes_self (a : Fold) : ¬ a.Precedes a := by
  rintro (h | ⟨-, h | ⟨-, h⟩⟩)
  · exact Nat.lt_irrefl _ h
  · exact Nat.lt_irrefl _ h
  · exact String.lt_irrefl _ h

/-- Of two different regions one comes before the other. If lines and kind are the same, so are the
regions, since they have nothing else. -/
theorem precedes_or_precedes {a b : Fold} (hne : a ≠ b) : a.Precedes b ∨ b.Precedes a := by
  obtain ⟨start, stop, kind⟩ := a
  obtain ⟨start', stop', kind'⟩ := b
  unfold Precedes
  rcases Nat.lt_trichotomy start start' with h | rfl | h
  · exact .inl (.inl h)
  · rcases Nat.lt_trichotomy stop stop' with h | rfl | h
    · exact .inr (.inr ⟨rfl, .inl h⟩)
    · -- regions with the same lines differ in their kinds
      have hkind : kind ≠ kind' := fun h => hne (by rw [h])
      rcases lt_or_gt_of_ne hkind with h | h
      · exact .inl (.inr ⟨rfl, .inr ⟨rfl, h⟩⟩)
      · exact .inr (.inr ⟨rfl, .inr ⟨rfl, h⟩⟩)
    · exact .inl (.inr ⟨rfl, .inl h⟩)
  · exact .inr (.inl h)

instance : Std.Irrefl Precedes := ⟨not_precedes_self⟩

instance : Std.Antisymm Precedes :=
  ⟨fun a _ hab hba => absurd (hab.trans hba) (not_precedes_self a)⟩

/-- The test of the sort is transitive. The sort of the library asks for this and for
`before_total`. -/
theorem before_trans (a b c : Fold) (hab : before a b = true) (hbc : before b c = true) :
    before a c = true := by
  rw [before_iff] at hab hbc ⊢
  rcases hab with rfl | hab
  · exact hbc
  · rcases hbc with rfl | hbc
    · exact .inr hab
    · exact .inr (hab.trans hbc)

/-- The test of the sort compares any two regions. -/
theorem before_total (a b : Fold) : (before a b || before b a) = true := by
  rw [Bool.or_eq_true, before_iff, before_iff]
  by_cases heq : a = b
  · exact .inl (.inl heq)
  · exact (precedes_or_precedes heq).imp .inr .inr

/-! ### Repetitions -/

/-- Dropping repetitions drops no region altogether. Of equal neighbours one stays. -/
theorem mem_dropRepeats {f : Fold} {regions : List Fold} :
    f ∈ dropRepeats regions ↔ f ∈ regions := by
  induction regions with
  | nil => rfl
  | cons g rest ih =>
    rw [dropRepeats, List.mem_cons, ← ih]
    cases dropRepeats rest with
    | nil => simp
    | cons next others =>
      dsimp only
      split
      · -- `g` is dropped, and the same region stays behind it
        rename_i heq
        simp [heq]
      · exact List.mem_cons

/-- Sorted regions without the ones that repeat their neighbour are strictly ordered. Equal regions
stand next to each other after sorting, so dropping repeated neighbours is enough. -/
theorem pairwise_dropRepeats {regions : List Fold}
    (h : regions.Pairwise fun a b => before a b = true) :
    (dropRepeats regions).Pairwise Precedes := by
  induction regions with
  | nil => exact .nil
  | cons f rest ih =>
    obtain ⟨hfirst, hrest⟩ := List.pairwise_cons.mp h
    have hordered := ih hrest
    -- what is left of the rest was in it, so the first region is in front of it or equals it
    have hbefore : ∀ g ∈ dropRepeats rest, f = g ∨ f.Precedes g := fun g hg =>
      before_iff.mp (hfirst g (mem_dropRepeats.mp hg))
    rw [dropRepeats]
    cases hleft : dropRepeats rest with
    | nil => exact List.pairwise_singleton _ _
    | cons next others =>
      rw [hleft] at hordered hbefore
      dsimp only
      split
      · exact hordered
      · rename_i hne
        have hnext : f.Precedes next := (hbefore next List.mem_cons_self).resolve_left hne
        refine List.pairwise_cons.mpr ⟨?_, hordered⟩
        intro g hg
        -- the region cannot come back further behind: all that is there is behind the next one
        rcases List.mem_cons.mp hg with rfl | hg
        · exact hnext
        · exact hnext.trans (List.rel_of_pairwise_cons hordered hg)

/-! ### Regions -/

/-- The regions of blocks and comments: from the line where the opening token of a listed block
starts to the one where its closing token ends, and the lines of comments, if these fold. -/
inductive Region (tokens : List Token) (spans : List BlockSpan) (folding : Folding) :
    Fold → Prop where
  /-- A block whose name is listed, and whose tokens exist. -/
  | block {span : BlockSpan} {opening closing : Token} (hspan : span ∈ spans)
    (hname : span.name ∈ folding.blocks) (hopening : tokens[span.openIndex]? = some opening)
    (hclosing : tokens[span.closeIndex]? = some closing) :
    Region tokens spans folding
      ⟨opening.range.start.line, closing.range.stop.line, span.name⟩
  /-- A comment, if comments fold. -/
  | comment {token : Token} (hcomments : folding.comments = true) (htoken : token ∈ tokens)
    (hcategory : token.category = .comment) :
    Region tokens spans folding ⟨token.range.start.line, token.range.stop.line, "comment"⟩

variable {tokens : List Token} {spans : List BlockSpan} {folding : Folding}

/-- The block spans that are asked for have the regions of blocks. -/
theorem fold?_eq_some_iff {span : BlockSpan} {f : Fold} :
    span.fold? tokens.toArray = some f ↔
      ∃ opening closing, tokens[span.openIndex]? = some opening ∧
        tokens[span.closeIndex]? = some closing ∧
        f = ⟨opening.range.start.line, closing.range.stop.line, span.name⟩ := by
  unfold BlockSpan.fold?
  simp only [List.getElem?_toArray, Option.bind_eq_bind, Option.bind_eq_some_iff, Option.pure_def,
    Option.some.injEq]
  constructor
  · rintro ⟨opening, hopening, closing, hclosing, rfl⟩
    exact ⟨opening, closing, hopening, hclosing, rfl⟩
  · rintro ⟨opening, closing, hopening, hclosing, rfl⟩
    exact ⟨opening, hopening, closing, hclosing, rfl⟩

/-- The candidates are the regions. A block whose tokens do not exist has none, and it is left out
rather than being an error. -/
theorem mem_foldCandidates_iff {f : Fold} :
    f ∈ foldCandidates tokens.toArray spans folding ↔ Region tokens spans folding f := by
  unfold foldCandidates
  rw [List.mem_append, List.mem_filterMap, List.mem_map]
  constructor
  · rintro (⟨span, hspan, hfold⟩ | ⟨token, htoken, rfl⟩)
    · -- a block of a name that folds
      obtain ⟨hspan, hname⟩ := List.mem_filter.mp hspan
      obtain ⟨opening, closing, hopening, hclosing, rfl⟩ := fold?_eq_some_iff.mp hfold
      exact .block hspan (List.contains_iff_mem.mp hname) hopening hclosing
    · -- a comment
      obtain ⟨htoken, hcomment⟩ := List.mem_filter.mp htoken
      rw [Bool.and_eq_true, beq_iff_eq] at hcomment
      exact .comment hcomment.1 htoken hcomment.2
  · rintro (⟨hspan, hname, hopening, hclosing⟩ | ⟨hcomments, htoken, hcategory⟩)
    · refine .inl ⟨_, List.mem_filter.mpr ⟨hspan, List.contains_iff_mem.mpr hname⟩, ?_⟩
      exact fold?_eq_some_iff.mpr ⟨_, _, hopening, hclosing, rfl⟩
    · refine .inr ⟨_, List.mem_filter.mpr ⟨htoken, ?_⟩, rfl⟩
      rw [Bool.and_eq_true, beq_iff_eq]
      exact ⟨hcomments, hcategory⟩

/-- A region lies between lines of tokens. -/
theorem Region.exists_tokens {f : Fold} (h : Region tokens spans folding f) :
    ∃ first ∈ tokens, ∃ last ∈ tokens,
      f.startLine = first.range.start.line ∧ f.stopLine = last.range.stop.line := by
  cases h with
  | block _ _ hopening hclosing =>
    exact ⟨_, List.mem_of_getElem? hopening, _, List.mem_of_getElem? hclosing, rfl, rfl⟩
  | comment _ htoken _ => exact ⟨_, htoken, _, htoken, rfl, rfl⟩

/-- More blocks have more regions. Used in both directions, it says that the order of the blocks and
their repetitions do not matter. -/
theorem Region.of_subset {f : Fold} {spans' : List BlockSpan} (hsub : ∀ span ∈ spans, span ∈ spans')
    (h : Region tokens spans folding f) : Region tokens spans' folding f := by
  cases h with
  | block hspan hname hopening hclosing => exact .block (hsub _ hspan) hname hopening hclosing
  | comment hcomments htoken hcategory => exact .comment hcomments htoken hcategory

/-- The regions do not depend on the least number of lines. -/
theorem region_minLines {f : Fold} {least : Nat} :
    Region tokens spans { folding with minLines := least } f ↔ Region tokens spans folding f := by
  rw [← mem_foldCandidates_iff, ← mem_foldCandidates_iff]
  rfl

/-- The number of lines of a region is exact, if lines count from one in 32 bits. The difference is
taken first and one is added then, in words. For a region over all lines from zero on the sum would
wrap. -/
theorem lines_eq {f : Fold} (hstart : 1 ≤ f.startLine) (hstop : f.stopLine < 2 ^ 32) :
    f.lines = f.stopLine - f.startLine + 1 := by
  show (f.stopLine - f.startLine + 1) % 2 ^ 32 = f.stopLine - f.startLine + 1
  exact Nat.mod_eq_of_lt (by omega)

end Fold

/-! ### The answer -/

variable {tokens : List Token} {spans : List BlockSpan} {folding : Folding}

/-- The answer is strictly ordered. Sorting and dropping repetitions do this for any list of
candidates. -/
theorem pairwise_folds (tokens : List Token) (spans : List BlockSpan) (folding : Folding) :
    (folds tokens spans folding).Pairwise Fold.Precedes :=
  Fold.pairwise_dropRepeats (List.pairwise_mergeSort Fold.before_trans Fold.before_total _)

/-- The answer has the regions with enough lines. Asking for no lines is the same as asking for one,
which every region has. -/
theorem mem_folds_iff {f : Fold}
    (hlines : ∀ token ∈ tokens, 1 ≤ token.range.start.line ∧ token.range.stop.line < 2 ^ 32) :
    f ∈ folds tokens spans folding ↔ Fold.Region tokens spans folding f ∧
      max folding.minLines 1 ≤ f.stopLine - f.startLine + 1 := by
  unfold folds
  dsimp only
  rw [Fold.mem_dropRepeats, List.mem_mergeSort, List.mem_filter, Fold.mem_foldCandidates_iff,
    decide_eq_true_eq]
  refine and_congr_right fun hregion => ?_
  obtain ⟨first, hfirst, last, hlast, hstart, hstop⟩ := hregion.exists_tokens
  rw [Fold.lines_eq (hstart ▸ (hlines first hfirst).1) (hstop ▸ (hlines last hlast).2)]

/-- The answer for tokens whose lines count from one in 32 bits. It is strictly ordered by start
line, then longest first, then by kind, and so has no repetitions; it has exactly the regions with
at least the asked number of lines, and at least one; the same blocks in another order, or some of
them more than once, give the same answer; and if more lines are asked for, the regions with fewer
lines go away. -/
theorem folds_exact
    (hlines : ∀ token ∈ tokens, 1 ≤ token.range.start.line ∧ token.range.stop.line < 2 ^ 32) :
    (folds tokens spans folding).Pairwise Fold.Precedes ∧
    (folds tokens spans folding).Nodup ∧
    (∀ f, f ∈ folds tokens spans folding ↔ Fold.Region tokens spans folding f ∧
      max folding.minLines 1 ≤ f.stopLine - f.startLine + 1) ∧
    (∀ spans', (∀ span, span ∈ spans' ↔ span ∈ spans) →
      folds tokens spans' folding = folds tokens spans folding) ∧
    ∀ least, folding.minLines ≤ least →
      folds tokens spans { folding with minLines := least } =
        (folds tokens spans folding).filter fun f => least ≤ f.stopLine - f.startLine + 1 := by
  have hordered := pairwise_folds tokens spans folding
  refine ⟨hordered, hordered.nodup, fun f => mem_folds_iff hlines, ?_, ?_⟩
  · intro spans' hspans
    -- the order is strict, so regions with the same members are the same list
    refine (pairwise_folds tokens spans' folding).eq_of_mem_iff hordered fun f => ?_
    rw [mem_folds_iff hlines, mem_folds_iff hlines]
    exact and_congr_left' ⟨.of_subset fun span => (hspans span).mp,
      .of_subset fun span => (hspans span).mpr⟩
  · intro least hleast
    refine (pairwise_folds tokens spans _).eq_of_mem_iff (hordered.filter _) fun f => ?_
    rw [List.mem_filter, mem_folds_iff hlines, mem_folds_iff hlines, Fold.region_minLines,
      decide_eq_true_eq, and_assoc]
    refine and_congr_right fun _ => ?_
    dsimp only
    omega

/-- Blocks in no order, with one of them twice and one without a closing token, and a comment on the
lines of a block that is named as comments are. -/
theorem folds_exact_overlapping :
    ∃ (tokens : List Token) (spans : List BlockSpan) (folding : Folding),
      tokens = [⟨"comment", "/* a\nb */", .comment, ⟨⟨1, 0, 0⟩, ⟨2, 4, 9⟩⟩⟩,
        ⟨"punctuation", "\x7b", .punctuation, ⟨⟨3, 0, 10⟩, ⟨3, 1, 11⟩⟩⟩,
        ⟨"punctuation", "\x7d", .punctuation, ⟨⟨9, 0, 20⟩, ⟨9, 1, 21⟩⟩⟩] ∧
      spans = [⟨"braces", 1, 2, 0⟩, ⟨"comment", 0, 0, 0⟩, ⟨"braces", 0, 7, 0⟩,
        ⟨"braces", 1, 2, 0⟩] ∧
      folding = ⟨["braces", "comment"], true, 2⟩ ∧
      (∀ token ∈ tokens, 1 ≤ token.range.start.line ∧ token.range.stop.line < 2 ^ 32) ∧
      (folds tokens spans folding).Nodup ∧
      ⟨1, 2, "comment"⟩ ∈ folds tokens spans folding ∧
      ⟨3, 9, "braces"⟩ ∈ folds tokens spans folding ∧
      folds tokens spans.reverse folding = folds tokens spans folding ∧
      ⟨1, 2, "comment"⟩ ∉ folds tokens spans { folding with minLines := 3 } := by
  refine ⟨_, _, _, rfl, rfl, rfl, ?lines, (folds_exact ?lines).2.1, ?_, ?_, ?_, ?_⟩
  case lines => decide
  · exact ((folds_exact (by decide)).2.2.1 _).mpr
      ⟨Fold.mem_foldCandidates_iff.mp (by decide), by decide⟩
  · exact ((folds_exact (by decide)).2.2.1 _).mpr
      ⟨Fold.mem_foldCandidates_iff.mp (by decide), by decide⟩
  · exact (folds_exact (by decide)).2.2.2.1 _ fun span => List.mem_reverse
  · intro hmem
    obtain ⟨-, hcount⟩ := ((folds_exact (by decide)).2.2.1 _).mp hmem
    exact absurd hcount (by decide)

end Polyglot
