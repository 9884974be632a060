import Polyglot.Proofs.Block.Nesting
import Polyglot.Symbol.Extent

/-!
# `Polyglot.Proofs.Symbol.Extents`: where declarations end

A declaration ends at a token that is there, and not before the last token of its pattern,
whichever way its end is looked for (`Extent.endOf_bounds`). The scans over the rest of the tokens
keep the end so far in front of the token that they look at, so what they answer is the end that
they started from or one of the tokens behind it (`statementFrom_bounds`, `indentedFrom_bounds`).
A block in braces is one of the blocks of the tokens (`nextBraces?_eq_some`), and these close at
tokens that are there.
-/

set_option autoImplicit false

namespace Polyglot

/-- The blocks among tokens close behind their opening token, at one of the tokens. The blocks are
sorted before they are given out, which changes nothing here. -/
theorem closeIndex_of_mem_blockSpans {tokens : List Token} {rules : List BlockRule}
    {span : BlockSpan} (h : span ∈ blockSpans tokens rules) :
    span.openIndex < span.closeIndex ∧ span.closeIndex < tokens.length := by
  have hclosed : Closes rules (tokens.map (·.value)) 0 []
      (closedBlocks rules [] 0 (tokens.map (·.value))) :=
    closes_closedBlocks List.drop_zero .empty
  have hbounds := (hclosed.bounds span ((blockSpansOf_perm rules _).mem_iff.mp h)).2
  rw [List.length_map] at hbounds
  exact hbounds

namespace Extent

variable {x : Extent}

/-- A statement ends where it ended so far or at one of the tokens that are looked at. A token that
is passed over leaves the end where it was. Any other token is the new end or stops the scan, so the
end stays in front of the next index. -/
theorem statementFrom_bounds {depth stop index : Nat} {rest : List Token} (h : stop < index) :
    stop ≤ x.statementFrom depth stop index rest ∧
      x.statementFrom depth stop index rest < index + rest.length := by
  induction rest generalizing depth stop index with
  | nil => exact ⟨Nat.le_refl _, h⟩
  | cons token rest ih =>
    -- the scan goes on behind the token, with an end that is the same or the token
    have hnext : ∀ depth, stop ≤ x.statementFrom depth
          (if x.isSkipped token then stop else index) (index + 1) rest ∧
        x.statementFrom depth (if x.isSkipped token then stop else index) (index + 1) rest <
          index + (token :: rest).length := by
      intro depth
      have hstop : stop ≤ (if x.isSkipped token then stop else index) ∧
          (if x.isSkipped token then stop else index) < index + 1 := by
        split
        · omega
        · omega
      have hrest := @ih depth _ _ hstop.2
      rw [List.length_cons]
      omega
    have hhere : stop < index + (token :: rest).length := by
      rw [List.length_cons]
      omega
    rw [statementFrom]
    split
    · exact hnext _
    · split
      · split
        · exact ⟨Nat.le_refl _, hhere⟩
        · exact hnext _
      · split
        · rw [List.length_cons]
          omega
        · split
          · exact ⟨Nat.le_refl _, hhere⟩
          · exact hnext _

/-- An indented body ends where it ended so far or at one of the tokens that are looked at. This
does not depend on lines and widths, so it holds for any of them and the induction need not follow
them. -/
theorem indentedFrom_bounds {base : UInt32} {line stop index : Nat} {rest : List Token}
    (h : stop < index) :
    stop ≤ x.indentedFrom base line stop index rest ∧
      x.indentedFrom base line stop index rest < index + rest.length := by
  induction rest generalizing line stop index with
  | nil => exact ⟨Nat.le_refl _, h⟩
  | cons token rest ih =>
    rw [indentedFrom, List.length_cons]
    dsimp only
    split
    · -- a token that is passed over
      have hrest := @ih line stop (index + 1) (by omega)
      omega
    · split
      · -- a token on a line that is not indented deeper
        omega
      · -- a token of the body
        have hrest := @ih (max (max line token.range.start.line) token.range.stop.line) index
          (index + 1) (Nat.lt_succ_self index)
        omega

/-- The rest of the tokens behind one of them goes to the last one. -/
theorem length_drop_tokens {last : Nat} (h : last < x.tokens.size) :
    last + 1 + (x.tokens.toList.drop (last + 1)).length = x.tokens.size := by
  rw [List.length_drop, Array.length_toList]
  omega

/-- A statement ends at a token, not before the one behind which it goes on. -/
theorem statementEnd_bounds {last : Nat} (h : last < x.tokens.size) :
    last ≤ x.statementEnd last ∧ x.statementEnd last < x.tokens.size := by
  have hbounds := @statementFrom_bounds x 0 last (last + 1) (x.tokens.toList.drop (last + 1))
    (Nat.lt_succ_self last)
  rw [length_drop_tokens h] at hbounds
  exact hbounds

/-- An indented body ends at a token, not before the one behind which it goes on. -/
theorem indentedEnd_bounds {first last : Nat} (h : last < x.tokens.size) :
    last ≤ x.indentedEnd first last ∧ x.indentedEnd first last < x.tokens.size := by
  unfold indentedEnd
  split
  · exact ⟨Nat.le_refl _, h⟩
  · have hbounds := fun base line => @indentedFrom_bounds x base line last (last + 1)
      (x.tokens.toList.drop (last + 1)) (Nat.lt_succ_self last)
    rw [length_drop_tokens h] at hbounds
    exact hbounds _ _

/-- The first of some blocks is one of them. -/
theorem mem_of_foldl_first {spans : List BlockSpan} {best : Option BlockSpan} {span : BlockSpan}
    (h : spans.foldl
      (fun best span =>
        match best with
        | none => some span
        | some b => if span.openIndex < b.openIndex then some span else some b)
      best = some span) : best = some span ∨ span ∈ spans := by
  induction spans generalizing best with
  | nil => exact .inl h
  | cons head rest ih =>
    rw [List.foldl_cons] at h
    rcases ih h with hbest | hmem
    · -- a block that is looked at takes the place of the best one, or leaves it
      cases best with
      | none =>
        obtain rfl := Option.some.inj hbest
        exact .inr List.mem_cons_self
      | some b =>
        dsimp only at hbest
        split at hbest
        · obtain rfl := Option.some.inj hbest
          exact .inr List.mem_cons_self
        · exact .inl hbest
    · exact .inr (List.mem_cons_of_mem _ hmem)

/-- The next block in braces is one of the blocks, and opens no earlier than asked for. Which of
several it is does not matter for the bounds. -/
theorem nextBraces?_eq_some {last : Nat} {span : BlockSpan} (h : x.nextBraces? last = some span) :
    span ∈ x.spans ∧ last ≤ span.openIndex := by
  rcases mem_of_foldl_first h with hnone | hmem
  · cases hnone
  · obtain ⟨hspan, hcond⟩ := List.mem_filter.mp hmem
    simp only [Bool.and_eq_true, decide_eq_true_eq] at hcond
    exact ⟨hspan, hcond.2⟩

/-- A declaration ends at a token that is there, not before the last one of its pattern. Each of the
ways to look for its end has this on its own: statements, indented bodies and blocks in braces. A
rule without a body, and one whose body is not found, end with the pattern. -/
theorem endOf_bounds {rule : SymbolRule} {first last : Nat}
    (hspans : ∀ span ∈ x.spans,
      span.openIndex < span.closeIndex ∧ span.closeIndex < x.tokens.size)
    (hlast : last < x.tokens.size) :
    last ≤ x.endOf rule first last ∧ x.endOf rule first last < x.tokens.size := by
  unfold endOf
  split
  · exact statementEnd_bounds hlast
  · split
    · split
      · rename_i span hspan
        obtain ⟨hmem, hopen⟩ := nextBraces?_eq_some hspan
        have hbounds := hspans span hmem
        omega
      · exact statementEnd_bounds hlast
    · exact indentedEnd_bounds hlast

end Extent

end Polyglot
