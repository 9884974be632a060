import Polyglot.Proofs.Regex.Parts

/-!
# `Polyglot.Proofs.Regex.Closing`: how a group of a pattern is closed

`Stage` is where the parser stands, and `Stage.step?` reads one part of a pattern, so that a run of
the parser is one step after the other (`run_of_skip_nil`, `run_of_skip_cons`). Two things are known
of a step. Groups that wait at the bottom of the stack make no difference to it, unless it closes
the last group above them (`step?_inside`); and it is local, as all the readers are (`step?_reads`).

The main result is `run_leads`. A run with a single group at the bottom comes to the parenthesis
that closes this group, and `Leads` says what the text in front of the parenthesis is worth: it
leads to the same stage with any groups around, and whatever takes the place of the parenthesis. So
the inside of a group can be taken out of the group, and put into another one.
-/

set_option autoImplicit false

namespace Polyglot.Regex

/-- Where the parser stands in a pattern, but for the text that is left. -/
structure Stage where
  /-- The group that is being read. -/
  branches : Branches := {}
  /-- The flags in force. -/
  flags : Flags := {}
  /-- The groups around it, the innermost first. -/
  waiting : List Waiting := []
  /-- The names of groups so far. -/
  names : List String := []

namespace Stage

/-- The same with more groups around all others. -/
def inside (p : Stage) (bottom : List Waiting) : Stage := { p with waiting := p.waiting ++ bottom }

/-- The group that is being read is the same with more groups around. -/
@[simp] theorem inside_branches (p : Stage) (bottom : List Waiting) :
    (p.inside bottom).branches = p.branches := rfl

/-- The flags in force are the same with more groups around. -/
@[simp] theorem inside_flags (p : Stage) (bottom : List Waiting) :
    (p.inside bottom).flags = p.flags := rfl

/-- The groups around are those there were, and then the others. -/
@[simp] theorem inside_waiting (p : Stage) (bottom : List Waiting) :
    (p.inside bottom).waiting = p.waiting ++ bottom := rfl

/-- The names so far are the same with more groups around. Names are known across groups and not by
the group that they are in. -/
@[simp] theorem inside_names (p : Stage) (bottom : List Waiting) :
    (p.inside bottom).names = p.names := rfl

/-- Read on from here. -/
def run (p : Stage) (fuel : Nat) (text : List Char) : Option (Regex × Nat) :=
  pattern? fuel p.branches p.flags p.waiting p.names text

/-- Behind what an opening parenthesis opens. -/
def opened? (p : Stage) : Opening → Option Stage
  | .directive inner => some { p with branches := p.branches.push .directive, flags := inner }
  | .group inner captured =>
    some { p with
      branches := {}
      flags := inner
      waiting := ⟨p.branches, p.flags, captured⟩ :: p.waiting }
  | .named name =>
    if p.names.contains name then none
    else some { p with
      branches := {}
      waiting := ⟨p.branches, p.flags, true⟩ :: p.waiting
      names := name :: p.names }

/-- Behind the closing parenthesis of a group, `outer` being the one around it. -/
def closedInto (p : Stage) (outer : Waiting) (waiting : List Waiting) : Stage :=
  let (r, depth) := p.branches.close
  { p with
    branches := outer.branches.push (.expr (if outer.captured then .group r else r) (depth + 1))
    flags := outer.flags
    waiting }

/-- Behind a repetition. -/
def repeated? (p : Stage) (r : Repetition) : Option Stage :=
  (p.branches.repeatLast? p.flags r).map fun b => { p with branches := b }

/-- A repetition and the text behind it, if there is one at the start of a text. -/
def repetitionAt? (flags : Flags) : List Char → Option (Repetition × List Char)
  | '?' :: rest => let (greedy, rest) := laziness rest; some (⟨0, some 1, greedy⟩, rest)
  | '*' :: rest => let (greedy, rest) := laziness rest; some (⟨0, none, greedy⟩, rest)
  | '+' :: rest => let (greedy, rest) := laziness rest; some (⟨1, none, greedy⟩, rest)
  | '\x7b' :: rest => counted? flags rest
  | _ => none

/-- Behind the next part of a pattern, which starts with the character `c`. -/
def step? (p : Stage) (c : Char) (rest : List Char) : Option (Stage × List Char) :=
  if c = '(' then
    (opening? p.flags rest).bind fun read => (p.opened? read.1).map (·, read.2)
  else if c = ')' then
    match p.waiting with
    | [] => none
    | outer :: waiting => some (p.closedInto outer waiting, rest)
  else if c = '|' then
    some ({ p with branches := { done := p.branches.branch :: p.branches.done } }, rest)
  else if c = '?' ∨ c = '*' ∨ c = '+' ∨ c = '\x7b' then
    (repetitionAt? p.flags (c :: rest)).bind fun read => (p.repeated? read.1).map (·, read.2)
  else
    (item? p.flags (c :: rest)).map fun read =>
      ({ p with branches := p.branches.push read.1 }, read.2)

variable {p : Stage} {fuel : Nat} {text rest : List Char}

/-- The characters that start a repetition. -/
def repeats (c : Char) : Prop := c = '?' ∨ c = '*' ∨ c = '+' ∨ c = '\x7b'

/-- A step at a character that starts a repetition repeats the last part. The four characters are
told apart when the repetition is read and not before. -/
theorem step?_repetition {c : Char} (hc : repeats c) :
    p.step? c rest = (repetitionAt? p.flags (c :: rest)).bind fun read =>
      (p.repeated? read.1).map (·, read.2) := by
  obtain rfl | rfl | rfl | rfl := hc <;> simp [step?]

/-- A step at any other character reads an item. These two lemmas and the cases for the parentheses
and the bar are all that a step can do. -/
theorem step?_item {c : Char} (hopen : c ≠ '(') (hclose : c ≠ ')') (hbranch : c ≠ '|')
    (hc : ¬ repeats c) :
    p.step? c rest = (item? p.flags (c :: rest)).map fun read =>
      ({ p with branches := p.branches.push read.1 }, read.2) := by
  rw [step?, if_neg hopen, if_neg hclose, if_neg hbranch]
  exact if_neg hc

/-- At the end of a pattern no group is open. This is where the pattern is refused if one is. -/
theorem run_of_skip_nil (h : p.flags.skip text = []) :
    p.run (fuel + 1) text = if p.waiting.isEmpty then some p.branches.close else none := by
  simp only [run, pattern?, h]

/-- The parser reads a pattern part by part. It is written as one recursion with a branch for each
part; here the branches are the one function `step?`, about which the lemmas below speak. -/
theorem run_of_skip_cons {c : Char} (h : p.flags.skip text = c :: rest) :
    p.run (fuel + 1) text = (p.step? c rest).bind fun q => q.1.run fuel q.2 := by
  unfold run
  rw [pattern?]
  simp only [h]
  split
  case h_1 heq => exact nomatch heq
  -- the groups, the branches, the repetitions, and then the items
  case h_2 rest' heq =>
    obtain ⟨rfl, rfl⟩ := List.cons.inj heq
    cases hopen : opening? p.flags rest with
    | none => simp [step?, hopen]
    | some read =>
      obtain ⟨opened, rest'⟩ := read
      cases opened with
      | directive inner => simp [step?, hopen, opened?]
      | group inner captured => simp [step?, hopen, opened?]
      | named name =>
        simp only [step?, hopen, opened?, if_true, Option.bind_eq_bind, Option.bind_some]
        split <;> rfl
  case h_3 rest' heq =>
    obtain ⟨rfl, rfl⟩ := List.cons.inj heq
    split
    case h_1 hwaiting => simp [step?, hwaiting]
    case h_2 outer waiting hwaiting => simp [step?, hwaiting, closedInto]
  case h_4 rest' heq =>
    obtain ⟨rfl, rfl⟩ := List.cons.inj heq
    simp [step?]
  case h_5 rest' heq | h_6 rest' heq | h_7 rest' heq =>
    obtain ⟨rfl, rfl⟩ := List.cons.inj heq
    rw [step?_repetition (by simp [repeats])]
    simp only [repetitionAt?, repeated?, Option.bind_eq_bind, Option.bind_some]
    cases p.branches.repeatLast? _ _ <;> rfl
  case h_8 rest' heq =>
    obtain ⟨rfl, rfl⟩ := List.cons.inj heq
    rw [step?_repetition (by simp [repeats])]
    simp only [repetitionAt?, repeated?, Option.bind_eq_bind]
    cases counted? p.flags rest with
    | none => rfl
    | some read =>
      simp only [Option.bind_some]
      cases p.branches.repeatLast? _ _ <;> rfl
  case h_9 text h₁ h₂ h₃ h₄ h₅ h₆ h₇ h₈ =>
    have hne : ∀ d, (∀ r, c :: rest = d :: r → False) → c ≠ d := fun d h hc => h rest (by rw [hc])
    have hrepeats : ¬ repeats c := by simp [repeats, hne _ h₅, hne _ h₆, hne _ h₇, hne _ h₈]
    rw [step?_item (hne _ h₂) (hne _ h₃) (hne _ h₄) hrepeats]
    cases item? p.flags (c :: rest) <;> rfl

/-- More groups around make no difference to what an opening parenthesis opens. A new group waits in
front of all others. -/
theorem opened?_inside (opened : Opening) (bottom : List Waiting) :
    (p.inside bottom).opened? opened = (p.opened? opened).map (·.inside bottom) := by
  cases opened with
  | directive inner => rfl
  | group inner captured => rfl
  | named name =>
    by_cases hname : name ∈ p.names <;> simp [opened?, inside, hname]

/-- More groups around make no difference to a repetition. It is about the last part of the group
that is being read. -/
theorem repeated?_inside (r : Repetition) (bottom : List Waiting) :
    (p.inside bottom).repeated? r = (p.repeated? r).map (·.inside bottom) := by
  unfold repeated?
  rw [Option.map_map]
  rfl

/-- More groups around all others make no difference to a step, unless it closes the last group that
is not one of them. A closing parenthesis looks at the innermost group, and this is the only look at
the groups around. -/
theorem step?_inside {c : Char} (bottom : List Waiting) (h : c = ')' → p.waiting ≠ []) :
    (p.inside bottom).step? c rest = (p.step? c rest).map fun q => (q.1.inside bottom, q.2) := by
  by_cases hopen : c = '('
  · subst hopen
    simp only [step?, if_true, inside_flags, opened?_inside]
    cases opening? p.flags rest with
    | none => rfl
    | some read => simp [Function.comp_def]
  by_cases hclose : c = ')'
  · subst hclose
    -- the group that is closed is not one of those at the bottom
    obtain ⟨outer, waiting, hwaiting⟩ := List.exists_cons_of_ne_nil (h rfl)
    simp [step?, inside, hwaiting, closedInto]
  by_cases hbranch : c = '|'
  · subst hbranch
    simp [step?, inside]
  by_cases hrepeats : repeats c
  · simp only [step?_repetition hrepeats, inside_flags, repeated?_inside]
    cases repetitionAt? p.flags (c :: rest) with
    | none => rfl
    | some read => simp [Function.comp_def]
  · rw [step?_item hopen hclose hbranch hrepeats, step?_item hopen hclose hbranch hrepeats,
      Option.map_map]
    rfl

/-! ### Steps are local -/

variable {u s : List Char}

/-- A repetition is read locally. The mark of a lazy one is looked for behind each kind, and a
parenthesis is no such mark. -/
theorem repetitionAt?_reads {flags : Flags} {c : Char} {r : Repetition} (hc : repeats c)
    (h : repetitionAt? flags (c :: rest) = some (r, u ++ ')' :: s)) :
    Reads (fun t => repetitionAt? flags (c :: t)) rest (fun t => some (r, t)) u s := by
  obtain rfl | rfl | rfl | rfl := hc
  case inr.inr.inr => exact counted?_reads h
  all_goals
    obtain ⟨⟨greedy, rest'⟩, hlazy⟩ : ∃ read, laziness rest = read := ⟨_, rfl⟩
    simp only [repetitionAt?, hlazy] at h
    obtain ⟨rfl, rfl⟩ := Prod.mk.inj (Option.some.inj h)
    exact (laziness_reads hlazy).imp fun _ t r ht => by simp only [repetitionAt?, ht]

/-- A step reads the next part of the pattern, whatever follows it. The readers of the single parts
do, and a step chooses one of them by the character in its hand. -/
theorem step?_reads {c : Char} {q : Stage} (hfilled : BraceFilled q.flags u s)
    (h : p.step? c rest = some (q, u ++ ')' :: s)) :
    Reads (fun t => p.step? c t) rest (fun t => some (q, t)) u s := by
  by_cases hopen : c = '('
  · subst hopen
    simp only [step?, if_true] at h ⊢
    obtain ⟨⟨opened, rest'⟩, hopening, h⟩ := Option.bind_eq_some_iff.mp h
    obtain ⟨q', hq, h⟩ := Option.map_eq_some_iff.mp h
    obtain ⟨rfl, rfl⟩ := Prod.mk.inj h
    exact (opening?_reads hopening).imp fun _ t r ht => by simp [ht, hq]
  by_cases hclose : c = ')'
  · subst hclose
    unfold step? at h ⊢
    rw [if_neg hopen, if_pos rfl] at h
    split at h
    case h_1 => exact nomatch h
    case h_2 outer waiting hwaiting =>
      obtain ⟨rfl, rfl⟩ := Prod.mk.inj (Option.some.inj h)
      exact .here fun _ _ _ => by simp
  by_cases hbranch : c = '|'
  · subst hbranch
    obtain ⟨rfl, rfl⟩ := Prod.mk.inj (Option.some.inj h)
    exact .here fun _ _ _ => rfl
  by_cases hrepeats : repeats c
  · -- a repetition
    simp only [step?_repetition hrepeats] at h ⊢
    obtain ⟨⟨r, rest'⟩, hr, h⟩ := Option.bind_eq_some_iff.mp h
    obtain ⟨q', hq, h⟩ := Option.map_eq_some_iff.mp h
    obtain ⟨rfl, rfl⟩ := Prod.mk.inj h
    exact (repetitionAt?_reads hrepeats hr).imp fun _ t r ht => by simp [ht, hq]
  · -- an item
    simp only [step?_item hopen hclose hbranch hrepeats] at h ⊢
    obtain ⟨⟨item, rest'⟩, hitem, h⟩ := Option.map_eq_some_iff.mp h
    obtain ⟨rfl, rfl⟩ := Prod.mk.inj h
    exact (item?_reads hfilled hitem).imp fun _ t r ht => by simp [ht]

/-- Nothing is skipped in front of a brace. It is neither a blank nor the start of a comment,
whatever the flags. -/
theorem skip_brace (flags : Flags) (text : List Char) :
    flags.skip ('\x7b' :: text) = '\x7b' :: text := by
  unfold Flags.skip
  split
  · rw [skipBlanks, if_neg Bool.false_ne_true, if_neg (by decide), if_neg (by decide)]
  · rfl

/-- A brace at the start of what a step reads counts a repetition, so it is not cut off. An opening
brace can start nothing else, and a count in front of the parenthesis has something in it. -/
theorem step?_filled {c : Char} {v : List Char} {q : Stage}
    (hskip : p.flags.skip (v ++ ')' :: s) = c :: rest)
    (h : p.step? c rest = some (q, u ++ ')' :: s)) : BraceFilled p.flags v s := by
  rintro inner rfl
  rw [List.cons_append, skip_brace] at hskip
  obtain ⟨rfl, rfl⟩ := List.cons.inj hskip
  rw [step?_repetition (by simp [repeats])] at h
  obtain ⟨⟨r, rest'⟩, hr, h⟩ := Option.bind_eq_some_iff.mp h
  obtain ⟨q', -, h⟩ := Option.map_eq_some_iff.mp h
  obtain ⟨rfl, rfl⟩ := Prod.mk.inj h
  exact counted?_filled hr

/-! ### Runs -/

/-- From the stage `p`, the text `v` in front of a parenthesis leads to the stage `e`, at which all
groups are closed that were opened on the way, and those that were open at `p`. It leads there with
any groups around and any text behind. -/
structure Leads (p e : Stage) (v s : List Char) : Prop where
  /-- The groups are closed. -/
  closed : e.waiting = []
  /-- A brace at the start is not cut off by the parenthesis. -/
  filled : BraceFilled p.flags v s
  /-- What is read from `e` on is the answer from `p` on. -/
  run_eq : ∀ (bottom : List Waiting) (extra n : Nat) (k : List Char)
    (answer : Option (Regex × Nat)), Ends k →
    (∀ n t, e.flags.skip t = k → (e.inside bottom).run (n + 1 + extra) t = answer) →
    v.length < n → (p.inside bottom).run (n + extra) (v ++ k) = answer

/-- Where the only group around is about to be closed. Only blanks are in front of the parenthesis,
and nothing has to be read to get to the stage. -/
theorem leads_self (hwaiting : p.waiting = []) (hskip : p.flags.skip text = ')' :: s) :
    ∃ v, text = v ++ ')' :: s ∧ Leads p p v s := by
  obtain ⟨v, rfl, -, hskipped⟩ := (Flags.skip_reads (u := []) hskip).exists
  refine ⟨v, rfl, hwaiting, ?_, fun bottom extra n k answer hk hanswer hn => ?_⟩
  · -- a brace would not have been skipped
    rintro inner rfl
    rw [List.cons_append, skip_brace] at hskip
    exact nomatch hskip
  · obtain ⟨n, rfl⟩ : ∃ m, n = m + 1 := ⟨n - 1, by omega⟩
    exact hanswer n (v ++ k) (hskipped k hk)

/-- A step in front of what leads to a stage. The text grows by what the step has read and by what
was skipped in front of it. This is the step of the induction in `run_leads`, from the last step to
the first one. -/
theorem Leads.step {q e : Stage} {c : Char} {v rest' : List Char} (h : Leads q e v s)
    (hrest : rest' = v ++ ')' :: s) (hskip : p.flags.skip text = c :: rest)
    (hlast : c = ')' → p.waiting ≠ []) (hstep : p.step? c rest = some (q, rest')) :
    ∃ w, text = w ++ ')' :: s ∧ Leads p e w s := by
  subst hrest
  obtain ⟨v', rfl, hv, hread⟩ := (step?_reads h.filled hstep).exists
  obtain ⟨w, rfl, hw, hskipped⟩ := (Flags.skip_reads (u := c :: v') hskip).exists
  refine ⟨w, rfl, h.closed, step?_filled hskip hstep, ?_⟩
  intro bottom extra n k answer hk hanswer hn
  obtain ⟨n, rfl⟩ : ∃ m, n = m + 1 := ⟨n - 1, by omega⟩
  have hskip' : (p.inside bottom).flags.skip (w ++ k) = c :: (v' ++ k) := hskipped k hk
  simp only [List.length_cons] at hw
  rw [Nat.add_right_comm, run_of_skip_cons hskip', step?_inside bottom hlast, hread k hk]
  exact h.run_eq bottom extra n k answer hk hanswer (by omega)

/-- A run with a group around comes to a parenthesis that closes it, and goes on behind it. So
reading up to that parenthesis is cut out of the run, as a statement about the stage alone that
holds with any groups around and any end. -/
theorem run_leads {outer : Waiting} {answer : Regex × Nat}
    (h : (p.inside [outer]).run fuel text = some answer) :
    ∃ e v s n, text = v ++ ')' :: s ∧ Leads p e v s ∧
      (e.closedInto outer []).run n s = some answer := by
  -- a step that does not close the group at the bottom leaves it there
  induction fuel generalizing p text with
  | zero => exact nomatch h
  | succ fuel ih =>
    cases hskip : p.flags.skip text with
    | nil =>
      rw [run_of_skip_nil (p := p.inside [outer]) hskip] at h
      simp at h
    | cons c rest =>
      rw [run_of_skip_cons (p := p.inside [outer]) hskip] at h
      by_cases hlast : c = ')' ∧ p.waiting = []
      · obtain ⟨rfl, hwaiting⟩ := hlast
        obtain ⟨v, htext, hleads⟩ := leads_self hwaiting hskip
        refine ⟨p, v, rest, fuel, htext, hleads, ?_⟩
        simpa [step?, hwaiting, closedInto] using h
      · have hlast' : c = ')' → p.waiting ≠ [] := fun hc hwaiting => hlast ⟨hc, hwaiting⟩
        rw [step?_inside [outer] hlast'] at h
        obtain ⟨q, hq, h⟩ := Option.bind_eq_some_iff.mp h
        obtain ⟨⟨q, rest'⟩, hstep, rfl⟩ := Option.map_eq_some_iff.mp hq
        obtain ⟨e, v, s, n, hrest, hleads, hrun⟩ := ih h
        obtain ⟨w, htext, hleads'⟩ := hleads.step hrest hskip hlast' hstep
        exact ⟨e, w, s, n, htext, hleads', hrun⟩

end Stage

end Polyglot.Regex
