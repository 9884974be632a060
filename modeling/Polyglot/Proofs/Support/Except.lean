import Mathlib.Data.List.Forall2

/-!
# `Polyglot.Proofs.Support.Except`: computations that may fail

When a computation with several steps succeeds, each of its steps did. `bind_eq_ok_iff` takes
one step off, and `mapM_eq_ok_iff` and `option_mapM_eq_ok_iff` say the same of a step for every
element of a list or of an option.

`Agree` compares the outcomes of two computations: the same error, or related results.
-/

set_option autoImplicit false

namespace Polyglot

universe u v

variable {ε : Type u} {α β : Type v}

/-- Two steps succeed if the first one does and the second one does on its result. A computation in
`do` notation is taken apart by this, one step at a time. -/
theorem bind_eq_ok_iff {x : Except ε α} {f : α → Except ε β} {b : β} :
    (x >>= f) = .ok b ↔ ∃ a, x = .ok a ∧ f a = .ok b := by
  cases x with
  | error e => exact ⟨(nomatch ·), fun ⟨_, h, _⟩ => nomatch h⟩
  | ok a => exact ⟨fun h => ⟨a, rfl, h⟩, fun ⟨_, ha, hb⟩ => Except.ok.inj ha ▸ hb⟩

/-- A step on an optional value succeeds if there is no value, or if it does on the value. Where
there is none, there is none in the result either. -/
theorem option_mapM_eq_ok_iff {f : α → Except ε β} {x : Option α} {y : Option β} :
    x.mapM f = .ok y ↔ Option.Rel (fun a b => f a = .ok b) x y := by
  cases x with
  | none =>
    constructor
    · intro h
      obtain rfl := Except.ok.inj h
      exact .none
    · intro h
      cases h
      rfl
  | some a =>
    rw [Option.mapM_some, map_eq_pure_bind, bind_eq_ok_iff]
    constructor
    · rintro ⟨b, hb, h⟩
      obtain rfl := Except.ok.inj h
      exact .some hb
    · intro h
      cases h with
      | some hb => exact ⟨_, hb, rfl⟩

/-- Steps on all elements of a list succeed if the results are those of the elements. The results
are as many as the elements and in their order, which `List.Forall₂` says at once. -/
theorem mapM_eq_ok_iff {f : α → Except ε β} {xs : List α} {ys : List β} :
    xs.mapM f = .ok ys ↔ List.Forall₂ (fun a b => f a = .ok b) xs ys := by
  induction xs generalizing ys with
  | nil =>
    rw [List.mapM_nil, List.forall₂_nil_left_iff]
    exact ⟨fun h => (Except.ok.inj h).symm, fun h => congrArg Except.ok h.symm⟩
  | cons a rest ih =>
    rw [List.mapM_cons, bind_eq_ok_iff, List.forall₂_cons_left_iff]
    constructor
    · rintro ⟨b, hb, h⟩
      obtain ⟨bs, hbs, h⟩ := bind_eq_ok_iff.mp h
      obtain rfl := Except.ok.inj h
      exact ⟨b, bs, hb, ih.mp hbs, rfl⟩
    · rintro ⟨b, bs, hb, hbs, rfl⟩
      exact ⟨b, hb, bind_eq_ok_iff.mpr ⟨bs, ih.mpr hbs, rfl⟩⟩

/-- Steps on all elements of a list succeed if they do on each of them. The steps do not see one
another, so nothing else is needed. -/
theorem exists_mapM_eq_ok_iff {f : α → Except ε β} {xs : List α} :
    (∃ ys, xs.mapM f = .ok ys) ↔ ∀ a ∈ xs, ∃ b, f a = .ok b := by
  simp only [mapM_eq_ok_iff]
  induction xs with
  | nil => exact ⟨fun _ _ h => (nomatch h), fun _ => ⟨[], .nil⟩⟩
  | cons a rest ih =>
    rw [List.forall_mem_cons, ← ih]
    constructor
    · rintro ⟨ys, h⟩
      obtain ⟨b, bs, hb, hbs, -⟩ := List.forall₂_cons_left_iff.mp h
      exact ⟨⟨b, hb⟩, bs, hbs⟩
    · rintro ⟨⟨b, hb⟩, bs, hbs⟩
      exact ⟨b :: bs, .cons hb hbs⟩

/-! ### Two outcomes -/

/-- Two outcomes agree: they are failures with the same error, or successes with related
results. -/
inductive Agree (related : α → β → Prop) : Except ε α → Except ε β → Prop where
  /-- Both fail. -/
  | error (e : ε) : Agree related (.error e) (.error e)
  /-- Both succeed. -/
  | ok {a : α} {b : β} (h : related a b) : Agree related (.ok a) (.ok b)

/-- Outcomes that agree are the same where the result of one can be read off the other. -/
theorem Agree.map_eq {related : α → β → Prop} {x : Except ε α} {y : Except ε β} {f : α → β}
    (h : Agree related x y) (hread : ∀ a b, related a b → f a = b) : x.map f = y := by
  cases h with
  | error e => rfl
  | ok hab => exact congrArg Except.ok (hread _ _ hab)

/-- Outcomes that agree up to equality are the same. This leads from the relation back to an
equation where the results are not transformed. -/
theorem Agree.eq {x y : Except ε α} (h : Agree Eq x y) : x = y := by
  cases h with
  | error e => rfl
  | ok hab => exact congrArg Except.ok hab

end Polyglot
