import Polyglot.Proofs.Symbol.Search

/-!
# `Polyglot.Proofs.Symbol.Skipping`: a skip that skips nothing

A skip tries the rest of its pattern at the current place first. So a pattern that matches should
go on matching when a skip is put anywhere into it. That is true as long as there is a token at
the current place: the places that a skip tries all have one. Behind the last token a skip tries
no place at all, although a rest of optional tokens would match there, and so would nothing, for
a skip at the end of a pattern matches anywhere.

`TokenView.Leads` says where the beginning of a pattern may leave off. A way of matching splits
into such a beginning and a way of matching the rest (`Matches.split`, `Leads.join`). A rest that
matches behind the last token binds nothing, and what matches without binding also matches
further to the front (`Matches.rewind`). Hence the exact condition of `search_skip_iff`: the
pattern still matches just if its beginning can leave off where there is a token.

A match needs a binding besides. For that the first ways of matching are compared: if the new one
binds nothing, the old one did not either (`First.bound_eq_nil`).
-/

set_option autoImplicit false

namespace Polyglot

namespace TokenView

/-- The beginning of a pattern leads from a place to another one, with some bindings. The pattern
goes on there, so that none of these steps is the last one. -/
inductive Leads (view : TokenView) :
    List PatternStep → Nat → List Binding → Nat → Prop where
  /-- Nothing leads nowhere else. -/
  | nil (place : Nat) : Leads view [] place [] place
  /-- A token is bound. -/
  | token {step : TokenStep} {rest : List PatternStep} {place last : Nat}
      {bound : List Binding} (h : view.Binds step place)
      (hrest : Leads view rest (place + 1) bound last) :
      Leads view (.token step :: rest) place (⟨place, step.capture⟩ :: bound) last
  /-- An optional token is bound. -/
  | take {step : TokenStep} {rest : List PatternStep} {place last : Nat}
      {bound : List Binding} (h : view.Binds step place)
      (hrest : Leads view rest (place + 1) bound last) :
      Leads view (.optional step :: rest) place (⟨place, step.capture⟩ :: bound) last
  /-- An optional token is left out. -/
  | leave {step : TokenStep} {rest : List PatternStep} {place last : Nat}
      {bound : List Binding} (hrest : Leads view rest place bound last) :
      Leads view (.optional step :: rest) place bound last
  /-- A token is bound by the first alternative that can. -/
  | anyOf {steps : List TokenStep} {step : TokenStep} {rest : List PatternStep}
      {place last : Nat} {bound : List Binding} (h : view.FirstBinds steps step place)
      (hrest : Leads view rest (place + 1) bound last) :
      Leads view (.anyOf steps :: rest) place (⟨place, step.capture⟩ :: bound) last
  /-- A skip goes on at one of so many places that have a token. -/
  | skip {max : Option Nat} {rest : List PatternStep} {place next last : Nat}
      {bound : List Binding} (hnear : place ≤ next)
      (hfar : next < min (place + max.getD view.defaultSkip) view.tokens.size)
      (hrest : Leads view rest next bound last) :
      Leads view (.skip max :: rest) place bound last

variable {view : TokenView} {p q : List PatternStep} {max : Option Nat} {start place : Nat}
  {choices choices' : List Choice} {bound bound' : List Binding}

/-! ### Cutting a way of matching in two -/

/-- The empty pattern binds nothing. -/
theorem Matches.nil_bound (h : view.Matches [] place choices bound) : bound = [] := by
  cases h
  rfl

/-- A beginning of a pattern and a way of matching the rest make a way of matching. The induction is
on the beginning, and each of its steps is made again in front of the whole. -/
theorem Leads.join (hp : view.Leads p start bound place)
    (hq : view.Matches q place choices bound') :
    ∃ choices, view.Matches (p ++ q) start choices (bound ++ bound') := by
  induction hp with
  | nil => exact ⟨choices, hq⟩
  | token h _ ih =>
    obtain ⟨choices, hrest⟩ := ih hq
    exact ⟨choices, .token h hrest⟩
  | take h _ ih =>
    obtain ⟨choices, hrest⟩ := ih hq
    exact ⟨.take :: choices, .take h hrest⟩
  | leave _ ih =>
    obtain ⟨choices, hrest⟩ := ih hq
    exact ⟨.leave :: choices, .leave hrest⟩
  | anyOf h _ ih =>
    obtain ⟨choices, hrest⟩ := ih hq
    exact ⟨choices, .anyOf h hrest⟩
  | @skip max rest place next _ _ hnear hfar _ ih =>
    obtain ⟨choices, hrest⟩ := ih hq
    by_cases hmore : rest ++ q = []
    · -- with nothing behind it, the skip has become the last step
      rw [hmore] at hrest
      rw [List.cons_append, hmore, hrest.nil_bound]
      exact ⟨[], .lastSkip max place⟩
    · exact ⟨.resume next :: choices, .skip hmore hnear hfar hrest⟩

/-- A way of matching is a beginning and a way of matching the rest, if there is a rest. Without a
rest, a skip at the end of the beginning would match anywhere, and it would not lead to a place. -/
theorem Matches.split (hq : q ≠ []) (h : view.Matches (p ++ q) start choices bound) :
    ∃ added place choices' bound', view.Leads p start added place ∧
      view.Matches q place choices' bound' ∧ bound = added ++ bound' := by
  induction p generalizing start choices bound with
  | nil => exact ⟨[], start, choices, bound, .nil start, h, rfl⟩
  | cons step rest ih =>
    -- with `q` behind it, no step of the beginning is the last one
    obtain ⟨next, others, hmore⟩ :=
      List.exists_cons_of_ne_nil (List.append_ne_nil_of_right_ne_nil rest hq)
    rw [List.cons_append, hmore] at h
    rw [hmore] at ih
    cases h with
    | token hbinds hrest =>
      obtain ⟨added, place, choices', bound', hlead, hq, rfl⟩ := ih hrest
      exact ⟨_ :: added, place, choices', bound', .token hbinds hlead, hq, rfl⟩
    | take hbinds hrest =>
      obtain ⟨added, place, choices', bound', hlead, hq, rfl⟩ := ih hrest
      exact ⟨_ :: added, place, choices', bound', .take hbinds hlead, hq, rfl⟩
    | leave hrest =>
      obtain ⟨added, place, choices', bound', hlead, hq, rfl⟩ := ih hrest
      exact ⟨added, place, choices', bound', .leave hlead, hq, rfl⟩
    | anyOf hbinds hrest =>
      obtain ⟨added, place, choices', bound', hlead, hq, rfl⟩ := ih hrest
      exact ⟨_ :: added, place, choices', bound', .anyOf hbinds hlead, hq, rfl⟩
    | skip _ hnear hfar hrest =>
      obtain ⟨added, place, choices', bound', hlead, hq, rfl⟩ := ih hrest
      exact ⟨added, place, choices', bound', .skip hnear hfar hlead, hq, rfl⟩

/-! ### Matching without a binding -/

/-- Behind the last token nothing is bound. What is bound is a token, and stands at or behind the
place. -/
theorem Matches.bound_eq_nil (h : view.Matches q place choices bound)
    (hplace : view.tokens.size ≤ place) : bound = [] := by
  refine List.eq_nil_iff_forall_not_mem.mpr fun b hb => ?_
  have hbehind := h.sorted.2 b hb
  have hthere := (h.free b hb).1
  omega

/-- What matches without a binding matches so further to the front. Such a way only leaves out and
skips. A skip in it may go on at its own place instead, where there is a token, since there is one
at the place to which it went. -/
theorem Matches.rewind {next : Nat} (h : view.Matches q next choices bound) (hbound : bound = [])
    (hplace : place ≤ next) : ∃ choices', view.Matches q place choices' [] := by
  induction h with
  | nil => exact ⟨[], .nil place⟩
  | token => cases hbound
  | take => cases hbound
  | leave _ ih =>
    obtain ⟨choices', hrest⟩ := ih hbound hplace
    exact ⟨.leave :: choices', .leave hrest⟩
  | anyOf => cases hbound
  | lastSkip max => exact ⟨[], .lastSkip max place⟩
  | skip hmore hnear hfar _ ih =>
    -- the skip need not go anywhere, and it has a token to stay at
    obtain ⟨choices', hrest⟩ := ih hbound (Nat.le_trans hplace hnear)
    exact ⟨.resume place :: choices', .skip hmore (Nat.le_refl place) (by omega) hrest⟩

/-- A skip stays where it is if there is a token. It tries its own place first, unless it may try
none at all. -/
theorem Matches.skip_nothing (hmax : 0 < max.getD view.defaultSkip)
    (hplace : place < view.tokens.size) (h : view.Matches q place choices bound) :
    ∃ choices', view.Matches (.skip max :: q) place choices' bound := by
  by_cases hmore : q = []
  · subst hmore
    cases h
    exact ⟨[], .lastSkip max place⟩
  · exact ⟨.resume place :: choices, .skip hmore (Nat.le_refl place) (by omega) h⟩

/-- A pattern that matches without a binding does so without one of its skips. The rest matched at
the place to which the skip led, and by `rewind` it matches at the place where the skip began. -/
theorem Matches.drop_skip (h : view.Matches (p ++ .skip max :: q) start choices []) :
    ∃ choices', view.Matches (p ++ q) start choices' [] := by
  obtain ⟨added, place, choices', bound', hlead, hskip, hbound⟩ := h.split (List.cons_ne_nil _ _)
  obtain ⟨rfl, rfl⟩ := List.append_eq_nil_iff.mp hbound.symm
  cases hskip with
  | lastSkip => exact hlead.join (.nil place)
  | skip _ hnear _ hrest =>
    obtain ⟨_, hq⟩ := hrest.rewind rfl hnear
    exact hlead.join hq

/-! ### A skip in a pattern that matches -/

/-- A pattern that matches does so with one more skip just if its beginning leads to a token, or the
skip is the last step. A skip has to try a place with a token, and it tries none behind the last
one. This is the exact condition under which a skip may be added. -/
theorem Matches.insert_skip_iff (hmax : 0 < max.getD view.defaultSkip)
    (h : view.Matches (p ++ q) start choices bound) :
    (∃ choices bound, view.Matches (p ++ .skip max :: q) start choices bound) ↔
      ∃ added place, view.Leads p start added place ∧ (q = [] ∨ place < view.tokens.size) := by
  constructor
  · rintro ⟨choices, bound, h⟩
    obtain ⟨added, place, _, _, hlead, hskip, -⟩ := h.split (List.cons_ne_nil _ _)
    cases hskip with
    | lastSkip => exact ⟨added, place, hlead, .inl rfl⟩
    | skip _ hnear hfar _ => exact ⟨added, place, hlead, .inr (by omega)⟩
  · rintro ⟨added, place, hlead, hend⟩
    by_cases hq : q = []
    · subst hq
      obtain ⟨choices', h'⟩ := hlead.join (Matches.lastSkip max place)
      exact ⟨choices', _, h'⟩
    · have hplace := hend.resolve_left hq
      obtain ⟨added', place', _, bound', hlead', hrest, -⟩ := h.split hq
      by_cases hplace' : place' < view.tokens.size
      · obtain ⟨_, hskip⟩ := hrest.skip_nothing hmax hplace'
        obtain ⟨choices', h'⟩ := hlead'.join hskip
        exact ⟨choices', _, h'⟩
      · -- the rest matched behind the last token, so it matches at the other place too
        obtain rfl := hrest.bound_eq_nil (by omega)
        obtain ⟨_, hrest⟩ := hrest.rewind rfl (show place ≤ place' by omega)
        obtain ⟨_, hskip⟩ := hrest.skip_nothing hmax hplace
        obtain ⟨choices', h'⟩ := hlead.join hskip
        exact ⟨choices', _, h'⟩

/-- A pattern that matches does so with one more skip if its beginning always leads to a token. Then
it does not matter which of the ways through the beginning is taken. -/
theorem Matches.insert_skip (hmax : 0 < max.getD view.defaultSkip) (hq : q ≠ [])
    (hplaces : ∀ added place, view.Leads p start added place → place < view.tokens.size)
    (h : view.Matches (p ++ q) start choices bound) :
    ∃ choices bound, view.Matches (p ++ .skip max :: q) start choices bound := by
  obtain ⟨added, place, _, _, hlead, -⟩ := h.split hq
  exact (h.insert_skip_iff hmax).mpr ⟨added, place, hlead, .inr (hplaces added place hlead)⟩

/-! ### The first way, with one more skip -/

namespace First

variable {step : TokenStep} {rest : List PatternStep}

/-- If leaving a token out comes first, it could not be bound. Otherwise binding it would be a way
whose choices come earlier. -/
theorem of_leave (h : view.First (.optional step :: rest) place (.leave :: choices) bound) :
    view.First rest place choices bound ∧ (view.Binds step place →
      ∀ choices bound, ¬ view.Matches rest (place + 1) choices bound) := by
  obtain ⟨hmatched, hleast⟩ := h
  cases hmatched with
  | leave hrest =>
    refine ⟨⟨hrest, fun choices' bound' hrest' => ?_⟩, fun hbinds choices' bound' hrest' => ?_⟩
    · rcases hleast _ _ (.leave hrest') with heq | hlt
      · exact .inl (List.cons.inj heq).2
      · exact .inr (List.lex_cons_iff.mp hlt)
    · rcases hleast _ _ (.take hbinds hrest') with heq | hlt
      · cases heq
      · cases hlt with
        | rel hbefore => cases hbefore

/-- If a skip comes first in going on at a place, the rest matches at no nearer one, and the rest is
matched in its own first way. -/
theorem of_skip (hmore : rest ≠ []) (h : view.First (.skip max :: rest) place choices bound) :
    ∃ next choices', place ≤ next ∧
      next < min (place + max.getD view.defaultSkip) view.tokens.size ∧
      view.First rest next choices' bound ∧ ∀ nearer, place ≤ nearer → nearer < next →
        ∀ choices bound, ¬ view.Matches rest nearer choices bound := by
  obtain ⟨hmatched, hleast⟩ := h
  cases hmatched with
  | lastSkip => exact absurd rfl hmore
  | @skip _ _ _ next choices' _ _ hnear hfar hrest =>
    refine ⟨next, choices', hnear, hfar, ⟨hrest, fun choices bound hrest' => ?_⟩,
      fun nearer hnear' hnearer choices bound hrest' => ?_⟩
    · rcases hleast _ _ (.skip hmore hnear hfar hrest') with heq | hlt
      · exact .inl (List.cons.inj heq).2
      · exact .inr (List.lex_cons_iff.mp hlt)
    · rcases hleast _ _ (.skip hmore hnear' (Nat.lt_trans hnearer hfar) hrest') with heq | hlt
      · cases heq
        exact Nat.lt_irrefl _ hnearer
      · cases hlt with
        | rel hbefore =>
          cases hbefore with
          | nearer hlt => exact Nat.lt_asymm hlt hnearer
        | cons => exact Nat.lt_irrefl _ hnearer

/-- If the first way with one more skip binds nothing, the first way without it does not either. The
induction is on the beginning, and both ways decide alike at each of its steps. What matches without
the skip matches with it (`Matches.insert_skip`), and as nothing is bound, the converse holds as
well (`Matches.drop_skip`). -/
theorem bound_eq_nil (hmax : 0 < max.getD view.defaultSkip) (hq : q ≠ [])
    (hplaces : ∀ added place, view.Leads p start added place → place < view.tokens.size)
    (h : view.First (p ++ q) start choices bound)
    (h' : view.First (p ++ .skip max :: q) start choices' []) : bound = [] := by
  induction p generalizing start choices choices' with
  | nil =>
    -- there is a token at the place itself, so the skip tries to stay first
    have hstart := hplaces [] start (.nil start)
    have hstay : view.First (.skip max :: q) start (.resume start :: choices) bound :=
      .skip hq (mem_skipPlaces_iff.mpr ⟨Nat.le_refl start, by omega⟩)
        (fun nearer hmem hnearer =>
          absurd (mem_skipPlaces_iff.mp hmem).1 (Nat.not_le_of_lt hnearer)) h
    exact hstay.unique h'
  | cons step rest ih =>
    cases step with
    | token step => cases h'.matched
    | anyOf steps => cases h'.matched
    | optional step =>
      have hmatched' := h'.matched
      have hmatched := h.matched
      cases hmatched' with
      | leave =>
        obtain ⟨hrest', hnot⟩ := h'.of_leave
        cases hmatched with
        | take hbinds hrest =>
          -- what could be bound before can be bound with the skip, and would come first
          obtain ⟨_, _, hskip⟩ := hrest.insert_skip hmax hq
            (fun _ _ hlead => hplaces _ _ (.take hbinds hlead))
          exact absurd hskip (hnot hbinds _ _)
        | leave =>
          exact ih (fun _ _ hlead => hplaces _ _ (.leave hlead)) h.of_leave.1 hrest'
    | skip bound =>
      obtain ⟨next, _, hnear, hfar, hrest, hnot⟩ :=
        h.of_skip (List.append_ne_nil_of_right_ne_nil rest hq)
      obtain ⟨next', _, hnear', hfar', hrest', hnot'⟩ :=
        h'.of_skip (List.append_ne_nil_of_right_ne_nil rest (List.cons_ne_nil _ _))
      have hplaces' : ∀ added place, view.Leads rest next added place →
          place < view.tokens.size := fun _ _ hlead => hplaces _ _ (.skip hnear hfar hlead)
      -- both go on at the same place: the rest matches there with the skip if it does without it,
      -- and as it binds nothing it also matches there without the skip
      rcases Nat.lt_trichotomy next next' with hlt | rfl | hgt
      · obtain ⟨_, _, hskip⟩ := hrest.matched.insert_skip hmax hq hplaces'
        exact absurd hskip (hnot' next hnear hlt _ _)
      · exact ih hplaces' hrest hrest'
      · obtain ⟨_, hdropped⟩ := hrest'.matched.drop_skip
        exact absurd hdropped (hnot next' hnear' hgt _ _)

end First

/-- If there is a way of matching, there is a first one. This needs no argument about the order of
choices, because the search finds a first way where there is any. -/
theorem Matches.exists_first (h : view.Matches p start choices bound) :
    ∃ choices bound, view.First p start choices bound := by
  obtain ⟨bound', hbindings⟩ :=
    Option.isSome_iff_exists.mp (isSome_bindings?_iff.mpr ⟨choices, bound, h⟩)
  obtain ⟨choices', hfirst⟩ := bindings?_eq_some_iff.mp hbindings
  exact ⟨choices', bound', hfirst⟩

/-- A skip at the end changes nothing, unless it follows another one, which then is no longer at the
end. That one matched anywhere when it was last, and now has to find a place with a token. -/
theorem bindings?_append_skip (hlast : ∀ max, p.getLast? ≠ some (.skip max)) :
    view.bindings? (p ++ [.skip max]) = view.bindings? p := by
  induction p with
  | nil => rfl
  | cons step rest ih =>
    have hrest : ∀ max, rest.getLast? ≠ some (.skip max) := fun max heq =>
      hlast max (by rw [List.getLast?_cons, heq, Option.getD_some])
    funext place
    cases step with
    | token step => rw [List.cons_append, bindings?, bindings?, ih hrest]
    | optional step => rw [List.cons_append, bindings?, bindings?, ih hrest]
    | anyOf steps => rw [List.cons_append, bindings?, bindings?, ih hrest]
    | skip bound =>
      cases rest with
      | nil => exact absurd rfl (hlast bound)
      | cons next others =>
        rw [List.cons_append, List.cons_append, bindings?, bindings?, ← List.cons_append, ih hrest]

/-- A pattern that matches, with one more skip in it that tries at least one place. It still
matches just if its beginning leads to a place with a token or if the skip is its last step. A
pattern that cannot match without binding a token then also gives a match. Any other one does so
if its beginning leads only to places with a token, or if the skip is its last step and does not
follow another skip. -/
theorem search_skip_iff (view : TokenView) (p q : List PatternStep) (max : Option Nat)
    (start : Nat) (bound : Array Binding) (hmax : 0 < max.getD view.defaultSkip)
    (hsearch : (view.search (p ++ q) start bound).1 = true) :
    ((view.search (p ++ .skip max :: q) start bound).1 = true ↔
      ∃ added place, view.Leads p start added place ∧ (q = [] ∨ place < view.tokens.size)) ∧
    ((∀ choices, ¬ view.Matches (p ++ q) start choices []) →
      ((view.match? (p ++ .skip max :: q) start).isSome ↔
        (view.search (p ++ .skip max :: q) start bound).1 = true)) ∧
    ((q ≠ [] ∧ ∀ added place, view.Leads p start added place → place < view.tokens.size) ∨
        (q = [] ∧ ∀ bound, p.getLast? ≠ some (.skip bound)) →
      (view.match? (p ++ q) start).isSome →
      (view.match? (p ++ .skip max :: q) start).isSome) := by
  rw [search_fst_iff, isSome_bindings?_iff] at hsearch
  rw [search_fst_iff, isSome_bindings?_iff, isSome_match?_iff, isSome_match?_iff]
  obtain ⟨choices, added, hmatched⟩ := hsearch
  refine ⟨hmatched.insert_skip_iff hmax, fun hbinds => ⟨?_, ?_⟩, ?_⟩
  · rintro ⟨choices', added', hfirst, -⟩
    exact ⟨choices', added', hfirst.matched⟩
  · rintro ⟨_, _, hskip⟩
    obtain ⟨choices', added', hfirst⟩ := hskip.exists_first
    refine ⟨choices', added', hfirst, ?_⟩
    rintro rfl
    -- a match that binds nothing would have been one without the skip
    obtain ⟨_, hdropped⟩ := hfirst.matched.drop_skip
    exact hbinds _ hdropped
  · rintro (⟨hq, hplaces⟩ | ⟨rfl, hlast⟩)
    · rintro ⟨choices, added, hfirst, hadded⟩
      obtain ⟨_, _, hskip⟩ := hfirst.matched.insert_skip hmax hq hplaces
      obtain ⟨choices', added', hfirst'⟩ := hskip.exists_first
      refine ⟨choices', added', hfirst', ?_⟩
      rintro rfl
      exact hadded (hfirst.bound_eq_nil hmax hq hplaces hfirst')
    · rintro ⟨choices, added, hfirst, hadded⟩
      have hbindings := bindings?_eq_some_iff.mpr ⟨choices, hfirst⟩
      rw [List.append_nil, ← bindings?_append_skip hlast] at hbindings
      obtain ⟨choices', hfirst'⟩ := bindings?_eq_some_iff.mp hbindings
      exact ⟨choices', added, hfirst', hadded⟩

/-- A word, under the name it has. -/
def word : TokenStep := { type := "word", capture := some "name" }

/-- A stop. -/
def stop : TokenStep := { type := "stop" }

/-- Tokens that are a word and so many stops. -/
def wordAndStops (stops : Nat) : TokenView where
  tokens := #[⟨"word", "x", .identifier, {}⟩] ++
    Array.replicate stops ⟨"stop", ";", .punctuation, {}⟩
  defaultSkip := 20

/-- Between a word and a stop that are there, a skip skips nothing. -/
theorem search_skip_iff_word_stop :
    ((wordAndStops 1).search ([.token word] ++ [.optional stop]) 0 #[]).1 = true ∧
      ((wordAndStops 1).search ([.token word] ++ [.skip (some 1), .optional stop]) 0 #[]).1 =
        true ∧
      ((wordAndStops 1).match? ([.token word] ++ [.skip (some 1), .optional stop]) 0).isSome := by
  have hsearch : ((wordAndStops 1).search ([.token word] ++ [.optional stop]) 0 #[]).1 = true := by
    decide
  have hword : (wordAndStops 1).Binds word 0 := accepts_iff.mp (by decide)
  obtain ⟨hskip, -, hmatch⟩ := search_skip_iff (wordAndStops 1) [.token word] [.optional stop]
    (some 1) 0 #[] (by decide) hsearch
  refine ⟨hsearch, hskip.mpr ⟨_, 1, .token hword (.nil 1), .inr (by decide)⟩,
    hmatch (.inl ⟨by decide, ?_⟩) (by decide)⟩
  intro added place hlead
  cases hlead with
  | token _ hrest =>
    cases hrest
    decide

/-- Behind the last token a skip tries no place: a word and an optional stop match at a last
word, and with a skip between them that may skip nothing they do not. -/
theorem search_skip_at_end :
    ((wordAndStops 0).match? ([.token word] ++ [.optional stop]) 0).isSome ∧
      ¬ ((wordAndStops 0).match? ([.token word] ++ [.skip (some 1), .optional stop]) 0).isSome ∧
      ((wordAndStops 0).search ([.token word] ++ [.optional stop]) 0 #[]).1 = true ∧
      ((wordAndStops 0).search ([.token word] ++ [.skip (some 1), .optional stop]) 0 #[]).1 =
        false := by
  decide

end TokenView

end Polyglot
