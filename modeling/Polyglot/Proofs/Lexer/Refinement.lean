import Polyglot.Proofs.Lexer.Interpreter
import Polyglot.Proofs.Support.Except
import Polyglot.Proofs.Table

/-!
# `Polyglot.Proofs.Lexer.Refinement`: a compiled lexer runs its declaration

`compile_refines`: a declaration compiles just if it is well formed, and the compiled lexer
then gives the tokens of the interpreter, on every text.

Compilation replaces names of states by numbers, and a number is good for nothing but to find
the state again. `Implements` says that of a whole lexer: under the number of a name stand the
rules of that name, one compiled rule for each declared one, and the states that a rule goes to
have the declared names. It follows from the equations of compilation
(`implements_of_compile`), and it is all that the simulation needs.

The simulation keeps `Names`: the numbers on the stack are, one by one, those of the names on
the interpreter's stack. `names_transition` carries it through the effect of a rule,
`step_simulates` through a step, and `tokensFrom_eq` and `exists_reaches` through a run. That
every number on the stack is the number of a state is part of `Names`, so the run never meets a
number without rules.
-/

set_option autoImplicit false

namespace Polyglot.Lexer

/-! ### Compilation, step by step -/

/-- A name has a number if it is among the names, and the name stands under its number. -/
theorem stateNumber_eq_ok_iff {names : List String} {role : StateRole} {name : String}
    {n : Nat} : stateNumber names role name = .ok n ↔ names.idxOf? name = some n := by
  unfold stateNumber
  split
  · rename_i m hm
    rw [hm, Except.ok.injEq, Option.some.injEq]
  · rename_i hnone
    rw [hnone]
    exact ⟨(nomatch ·), (nomatch ·)⟩

/-- A name that is among the names has a number. For the others the lookup fails, with an error that
tells in which role the name was used. -/
theorem exists_stateNumber_iff {names : List String} {role : StateRole} {name : String} :
    (∃ n, stateNumber names role name = .ok n) ↔ name ∈ names := by
  simp only [stateNumber_eq_ok_iff]
  rw [← Option.isSome_iff_exists, List.isSome_idxOf?]

/-- Under the number of a name stands the name. -/
theorem getElem?_of_stateNumber {names : List String} {role : StateRole} {name : String}
    {n : Nat} (h : stateNumber names role name = .ok n) : names[n]? = some name := by
  obtain ⟨hn, hname, -⟩ := List.idxOf?_eq_some_iff.mp (stateNumber_eq_ok_iff.mp h)
  rw [List.getElem?_eq_getElem hn, hname]

/-- What a compiled rule is made of. The role of a target only shows in the error, so for a rule
that compiles it does not matter; it is kept here since it is part of the call. -/
theorem compileRule_eq_ok_iff {config : LexerConfig} {names : List String} {spec : RuleSpec}
    {rule : Rule} : compileRule config names spec = .ok rule ↔
      Matcher.compile config.charClasses spec.matcher = .ok rule.matcher ∧
      Option.Rel (fun name n => stateNumber names .switchTarget name = .ok n)
        spec.switchTo rule.switchTo ∧
      Option.Rel (fun name n => stateNumber names .pushTarget name = .ok n)
        spec.push rule.push ∧
      rule.type = spec.token ∧ rule.category = config.categoryOf spec.token ∧
      rule.pop = spec.pop := by
  unfold compileRule
  simp only [bind_eq_ok_iff, option_mapM_eq_ok_iff]
  constructor
  · rintro ⟨matcher, hmatcher, switchTo, hswitch, push, hpush, h⟩
    obtain rfl := Except.ok.inj h
    exact ⟨hmatcher, hswitch, hpush, rfl, rfl, rfl⟩
  · rintro ⟨hmatcher, hswitch, hpush, htype, hcategory, hpop⟩
    obtain ⟨matcher, type, category, pop, switchTo, push⟩ := rule
    subst htype hcategory hpop
    exact ⟨matcher, hmatcher, switchTo, hswitch, push, hpush, rfl⟩

/-- An optional target has a number if its name is among the names. No target at all is fine too,
which is the other half of `Option.Rel`. -/
theorem exists_targetNumber_iff {names : List String} {role : StateRole}
    {target : Option String} :
    (∃ n, Option.Rel (fun name n => stateNumber names role name = .ok n) target n) ↔
      ∀ name ∈ target, name ∈ names := by
  cases target with
  | none => exact ⟨fun _ _ h => (nomatch h), fun _ => ⟨none, .none⟩⟩
  | some name =>
    constructor
    · rintro ⟨n, h⟩ other hother
      obtain rfl := Option.some.inj hother
      cases h with
      | some hn => exact exists_stateNumber_iff.mp ⟨_, hn⟩
    · intro h
      obtain ⟨n, hn⟩ := (@exists_stateNumber_iff names role name).mpr (h name rfl)
      exact ⟨some n, .some hn⟩

/-- A rule compiles if its matcher does and the states that it goes to are among the names. The type
of its tokens and their category are copied and cannot fail. -/
theorem exists_compileRule_iff {config : LexerConfig} {names : List String} {spec : RuleSpec} :
    (∃ rule, compileRule config names spec = .ok rule) ↔
      (∃ m, Matcher.compile config.charClasses spec.matcher = .ok m) ∧
      (∀ target ∈ spec.switchTo, target ∈ names) ∧ ∀ target ∈ spec.push, target ∈ names := by
  rw [← @exists_targetNumber_iff names .switchTarget, ← @exists_targetNumber_iff names .pushTarget]
  constructor
  · rintro ⟨rule, h⟩
    obtain ⟨hmatcher, hswitch, hpush, -⟩ := compileRule_eq_ok_iff.mp h
    exact ⟨⟨_, hmatcher⟩, ⟨_, hswitch⟩, _, hpush⟩
  · rintro ⟨⟨m, hmatcher⟩, ⟨switchTo, hswitch⟩, push, hpush⟩
    exact ⟨⟨m, _, _, _, switchTo, push⟩,
      compileRule_eq_ok_iff.mpr ⟨hmatcher, hswitch, hpush, rfl, rfl, rfl⟩⟩

/-- A compiled state has the name of the declared one and its rules, compiled. The rules keep their
order, which decides between them when several match. -/
theorem compileState_eq_ok_iff {config : LexerConfig} {names : List String}
    {declared : String × List RuleSpec} {state : State} :
    compileState config names declared = .ok state ↔
      declared.2.mapM (compileRule config names) = .ok state.rules ∧
      state.name = declared.1 := by
  unfold compileState
  rw [bind_eq_ok_iff]
  constructor
  · rintro ⟨rules, hrules, h⟩
    obtain rfl := Except.ok.inj h
    exact ⟨hrules, rfl⟩
  · rintro ⟨hrules, hname⟩
    obtain ⟨name, rules⟩ := state
    subst hname
    exact ⟨rules, hrules, rfl⟩

/-- A compiled lexer has the number of the state to start in, and the declared states. The error
texts are left behind here: whether a declaration compiles and to what is settled by `compileFault`.
-/
theorem compile_eq_ok_iff {language : String} {config : LexerConfig} {lexer : Lexer} :
    compile language config = .ok lexer ↔
      stateNumber ((declaredStates config).map (·.1)) .initial config.initialName
        = .ok lexer.initial ∧
      (declaredStates config).mapM (compileState config ((declaredStates config).map (·.1)))
        = .ok lexer.states.toList ∧
      lexer.language = language ∧ lexer.skipTypes = config.skipTypes ∧
      lexer.tabWidth = config.indentation.map (·.tabWidth) := by
  -- only the error is put into words, so success is that of the inner function
  have hfault : compile language config = .ok lexer ↔
      compileFault language config = .ok lexer := by
    unfold compile
    cases compileFault language config with
    | error fault => exact ⟨(nomatch ·), (nomatch ·)⟩
    | ok lexer' =>
      show Except.ok lexer' = Except.ok lexer ↔ Except.ok lexer' = Except.ok lexer
      rw [Except.ok.injEq, Except.ok.injEq]
  rw [hfault]
  unfold compileFault
  simp only [bind_eq_ok_iff]
  constructor
  · rintro ⟨initial, hinitial, states, hstates, h⟩
    obtain rfl := Except.ok.inj h
    exact ⟨hinitial, hstates, rfl, rfl, rfl⟩
  · rintro ⟨hinitial, hstates, hlanguage, hskip, htab⟩
    obtain ⟨language', states, initial, skipTypes, tabWidth⟩ := lexer
    subst hlanguage hskip htab
    exact ⟨initial, hinitial, states.toList, hstates, rfl⟩

/-! ### What compiles -/

/-- The states that are compiled: those of the declaration, or a state without rules if it says
nothing about states. The latter is only so if no state to start in is given either. With one given,
it is looked for among no states and not found. -/
theorem declaredStates_cases (config : LexerConfig) :
    (config.states.isEmpty ∧ config.initialState = none ∧
      declaredStates config = [(config.initialName, [])]) ∨
    (¬ (config.states.isEmpty ∧ config.initialState = none) ∧
      declaredStates config = config.states.entries) := by
  unfold declaredStates
  by_cases h : config.states.isEmpty ∧ config.initialState = none
  · left
    refine ⟨h.1, h.2, ?_⟩
    simp [h]
  · right
    refine ⟨h, if_neg ?_⟩
    simpa using h

/-- In a table without entries nothing is found. -/
theorem find?_eq_none_of_isEmpty {config : LexerConfig} (h : config.states.isEmpty)
    (name : String) : config.states.find? name = none := by
  have hnil : config.states.entries = [] := List.isEmpty_iff.mp h
  unfold Table.find?
  rw [hnil]
  rfl

/-- The rules of a state that is compiled are those under its name. For the state that is added when
nothing is declared, there are none under any name. -/
theorem rulesNamed_of_mem {config : LexerConfig} {name : String} {rules : List RuleSpec}
    (h : (name, rules) ∈ declaredStates config) : config.rulesNamed name = rules := by
  unfold LexerConfig.rulesNamed
  rcases declaredStates_cases config with ⟨hempty, -, heq⟩ | ⟨-, heq⟩
  · rw [heq, List.mem_singleton] at h
    obtain ⟨-, rfl⟩ := Prod.mk.inj h
    rw [find?_eq_none_of_isEmpty hempty]
    rfl
  · rw [heq] at h
    rw [Table.find?_eq_some_iff.mpr h]
    rfl

/-- A declaration compiles if the state to start in has a number and all rules compile. All of them
have to, also those of states that no rule goes to. -/
theorem exists_compile_iff_rules (language : String) (config : LexerConfig) :
    (∃ lexer, compile language config = .ok lexer) ↔
      config.initialName ∈ (declaredStates config).map (·.1) ∧
      ∀ state ∈ declaredStates config, ∀ rule ∈ state.2, ∃ compiled,
        compileRule config ((declaredStates config).map (·.1)) rule = .ok compiled := by
  have hstates : (∀ state ∈ declaredStates config, ∀ rule ∈ state.2, ∃ compiled,
        compileRule config ((declaredStates config).map (·.1)) rule = .ok compiled) ↔
      ∃ states, (declaredStates config).mapM
        (compileState config ((declaredStates config).map (·.1))) = .ok states := by
    rw [exists_mapM_eq_ok_iff]
    refine forall₂_congr fun state _ => ?_
    rw [← exists_mapM_eq_ok_iff]
    constructor
    · rintro ⟨rules, hrules⟩
      exact ⟨⟨state.1, rules⟩, compileState_eq_ok_iff.mpr ⟨hrules, rfl⟩⟩
    · rintro ⟨compiled, h⟩
      exact ⟨_, (compileState_eq_ok_iff.mp h).1⟩
  rw [← @exists_stateNumber_iff _ .initial, hstates]
  constructor
  · rintro ⟨lexer, h⟩
    obtain ⟨hinitial, hstates, -⟩ := compile_eq_ok_iff.mp h
    exact ⟨⟨_, hinitial⟩, _, hstates⟩
  · rintro ⟨⟨initial, hinitial⟩, states, hstates⟩
    exact ⟨⟨language, states.toArray, initial, _, _⟩,
      compile_eq_ok_iff.mpr ⟨hinitial, hstates, rfl, rfl, rfl⟩⟩

/-- A declaration compiles just if it is well formed. `WellFormed` speaks of the table of states and
the compiler of the list of states to compile. The two differ only where nothing is said about
states. -/
theorem exists_compile_iff (language : String) (config : LexerConfig) :
    (∃ lexer, compile language config = .ok lexer) ↔ config.WellFormed := by
  rw [exists_compile_iff_rules]
  rcases declaredStates_cases config with ⟨hempty, hnone, heq⟩ | ⟨hsome, heq⟩
  · -- nothing is said about states, so nothing can be wrong with them
    rw [heq]
    constructor
    · intro _
      refine ⟨?_, .inr ⟨hempty, hnone⟩⟩
      intro name rules h
      rw [find?_eq_none_of_isEmpty hempty name] at h
      cases h
    · intro _
      refine ⟨List.mem_singleton.mpr rfl, ?_⟩
      intro state hstate rule hrule
      obtain rfl := List.mem_singleton.mp hstate
      cases hrule
  · -- the states that are compiled are the declared ones, and their names the keys of the table
    rw [heq, show config.states.entries.map (·.1) = config.states.keys from rfl]
    simp only [exists_compileRule_iff, ← Table.isSome_find?_iff]
    constructor
    · rintro ⟨hinitial, hrules⟩
      refine ⟨?_, .inl hinitial⟩
      intro name rules h rule hrule
      obtain ⟨hmatcher, hswitch, hpush⟩ :=
        hrules (name, rules) (Table.find?_eq_some_iff.mp h) rule hrule
      exact ⟨hmatcher, hswitch, hpush⟩
    · intro h
      refine ⟨h.initial.resolve_right hsome, ?_⟩
      intro state hstate rule hrule
      obtain ⟨hmatcher, hswitch, hpush⟩ :=
        h.rules _ _ (Table.find?_eq_some_iff.mpr hstate) rule hrule
      exact ⟨hmatcher, hswitch, hpush⟩

/-! ### Compiled lexers implement their declaration -/

/-- The numbers on a stack are, one by one, those of the states with the given names. -/
def Names (lexer : Lexer) (stack : StateStack Nat) (names : List String) : Prop :=
  (stack.current :: stack.below).map (lexer.stateNames[·]?) = names.map some

/-- A compiled rule does what a declared one says: it has its matcher, makes its tokens, and
goes to the states with the declared names. -/
structure Rule.Implements (config : LexerConfig) (lexer : Lexer) (spec : RuleSpec)
    (rule : Rule) : Prop where
  /-- The matcher is the declared one. -/
  matcher : Matcher.compile config.charClasses spec.matcher = .ok rule.matcher
  /-- The tokens have the declared type. -/
  type : rule.type = spec.token
  /-- The tokens have the category of their type. -/
  category : rule.category = config.categoryOf spec.token
  /-- The current state is left if declared. -/
  pop : rule.pop = spec.pop
  /-- The state that replaces the current one has the declared name. -/
  switchTo : rule.switchTo.map (lexer.stateNames[·]?) = spec.switchTo.map some
  /-- The state that is put on top has the declared name. -/
  push : rule.push.map (lexer.stateNames[·]?) = spec.push.map some

/-- A lexer runs a declaration: it starts in the declared state, and under the number of a name
stand the rules of the name. -/
structure Implements (config : LexerConfig) (lexer : Lexer) : Prop where
  /-- The state to start in has the declared name. -/
  initial : lexer.stateNames[lexer.initial]? = some config.initialName
  /-- Under the number of a name stand the rules of the name, in their order. -/
  rules : ∀ n name, lexer.stateNames[n]? = some name →
    List.Forall₂ (Rule.Implements config lexer) (config.rulesNamed name) (lexer.rulesOf n)

/-- Lists that agree element by element agree at every index. Here it leads from the number of a
state to the declaration that the state was compiled from. -/
theorem exists_getElem?_of_forall₂ {α β : Type} {R : α → β → Prop} {xs : List α} {ys : List β}
    (h : List.Forall₂ R xs ys) {n : Nat} {y : β} (hy : ys[n]? = some y) :
    ∃ x, xs[n]? = some x ∧ R x y := by
  induction h generalizing n with
  | nil => cases hy
  | cons hab _ ih =>
    cases n with
    | zero =>
      obtain rfl := Option.some.inj hy
      exact ⟨_, rfl, hab⟩
    | succ n => exact ih hy

/-- The names of compiled states are those of the declared ones. So a number that was looked up
among the declared names is the index of the compiled state. -/
theorem map_name_of_forall₂ {config : LexerConfig} {names : List String}
    {declared : List (String × List RuleSpec)} {states : List State}
    (h : List.Forall₂ (fun d s => compileState config names d = .ok s) declared states) :
    states.map (·.name) = declared.map (·.1) := by
  induction h with
  | nil => rfl
  | cons hstate _ ih =>
    rw [List.map_cons, List.map_cons, ih, (compileState_eq_ok_iff.mp hstate).2]

/-- The states that the numbers of targets stand for have the names of the targets. -/
theorem map_getElem?_of_rel {names : List String} {role : StateRole}
    {target : Option String} {number : Option Nat}
    (h : Option.Rel (fun name n => stateNumber names role name = .ok n) target number) :
    number.map (names[·]?) = target.map some := by
  cases h with
  | none => rfl
  | some hn => exact congrArg some (getElem?_of_stateNumber hn)

/-- A compiled rule implements the declared one in a lexer that has the states by name. What is
asked of the lexer is only its list of names, so this can be used before all of its states are
known. -/
theorem implements_of_compileRule {config : LexerConfig} {lexer : Lexer} {spec : RuleSpec}
    {rule : Rule} (h : compileRule config lexer.stateNames spec = .ok rule) :
    Rule.Implements config lexer spec rule := by
  obtain ⟨hmatcher, hswitch, hpush, htype, hcategory, hpop⟩ := compileRule_eq_ok_iff.mp h
  exact ⟨hmatcher, htype, hcategory, hpop, map_getElem?_of_rel hswitch,
    map_getElem?_of_rel hpush⟩

/-- A compiled lexer implements its declaration. After this the compiler is no longer opened: the
simulation uses the two fields of `Implements` only. -/
theorem implements_of_compile {language : String} {config : LexerConfig} {lexer : Lexer}
    (h : compile language config = .ok lexer) : Implements config lexer := by
  obtain ⟨hinitial, hstates, -⟩ := compile_eq_ok_iff.mp h
  have hstates := mapM_eq_ok_iff.mp hstates
  have hnames : lexer.stateNames = (declaredStates config).map (·.1) :=
    map_name_of_forall₂ hstates
  rw [← hnames] at hinitial hstates
  refine ⟨getElem?_of_stateNumber hinitial, ?_⟩
  intro n name hname
  -- the name at `n` is that of the compiled state at `n`, and so of the declared state at `n`
  unfold stateNames at hname
  rw [List.getElem?_map] at hname
  obtain ⟨state, hstate, rfl⟩ := Option.map_eq_some_iff.mp hname
  obtain ⟨declared, hdeclared, hcompiled⟩ := exists_getElem?_of_forall₂ hstates hstate
  obtain ⟨hrules, hname⟩ := compileState_eq_ok_iff.mp hcompiled
  have hspecs : config.rulesNamed state.name = declared.2 :=
    rulesNamed_of_mem (hname ▸ List.mem_of_getElem? hdeclared)
  have hcode : lexer.rulesOf n = state.rules := by
    unfold rulesOf
    rw [← Array.getElem?_toList, hstate]
    rfl
  rw [hspecs, hcode]
  exact (mapM_eq_ok_iff.mp hrules).imp fun _ _ => implements_of_compileRule

/-! ### The simulation -/

section
variable {config : LexerConfig} {lexer : Lexer} {stack : StateStack Nat} {names : List String}

/-- The name on top is that of the current state, and the names below are those of the states below.
So a stack of numbers has as many names as numbers, and at least one. -/
theorem exists_of_names (h : Names lexer stack names) :
    ∃ name below, names = name :: below ∧ lexer.stateNames[stack.current]? = some name ∧
      stack.below.map (lexer.stateNames[·]?) = below.map some := by
  unfold Names at h
  cases names with
  | nil => cases h
  | cons name below =>
    rw [List.map_cons, List.map_cons, List.cons.injEq] at h
    exact ⟨name, below, rfl, h.1, h.2⟩

/-- Leaving a state leaves its name, and neither happens to the only one. Both sides guard against
an empty stack, one by its type and the other one by the length of the list. -/
theorem names_pop (h : Names lexer stack names) :
    Names lexer stack.pop (if 1 < names.length then names.tail else names) := by
  obtain ⟨current, below⟩ := stack
  cases below with
  | nil =>
    -- the last state stays
    have hlength : names.length = 1 := by
      have := congrArg List.length h
      simpa using this.symm
    rw [if_neg (by omega)]
    exact h
  | cons next below =>
    obtain ⟨name, rest, rfl, -, hbelow⟩ := exists_of_names h
    have hlength : rest.length = below.length + 1 := by
      have := congrArg List.length hbelow
      simpa using this.symm
    rw [if_pos (by rw [List.length_cons]; omega)]
    exact hbelow

/-- Replacing a state replaces its name. The names below stay, and with them what leaving the new
state leads back to. -/
theorem names_switchTo (h : Names lexer stack names) {n : Nat} {name : String}
    (hn : lexer.stateNames[n]? = some name) :
    Names lexer (stack.switchTo n) (name :: names.tail) := by
  obtain ⟨_, below, rfl, -, hbelow⟩ := exists_of_names h
  show lexer.stateNames[n]? :: stack.below.map (lexer.stateNames[·]?) =
    some name :: below.map some
  rw [hn, hbelow]

/-- Entering a state enters its name. All names that were there are below it. -/
theorem names_push (h : Names lexer stack names) {n : Nat} {name : String}
    (hn : lexer.stateNames[n]? = some name) : Names lexer (stack.push n) (name :: names) := by
  show lexer.stateNames[n]? :: (stack.current :: stack.below).map (lexer.stateNames[·]?) =
    some name :: names.map some
  rw [hn, h]

/-- At the start there is the name of the state to start in. It is also there if nothing is
declared, because then a state of that name is added. -/
theorem names_initial (himpl : Implements config lexer) :
    Names lexer ⟨lexer.initial, []⟩ [config.initialName] := by
  show [lexer.stateNames[lexer.initial]?] = [some config.initialName]
  rw [himpl.initial]

/-- A rule and its declaration go both nowhere, or to a state and its name. With this the optional
targets can be taken apart on both sides at once. -/
theorem target_cases {number : Option Nat} {target : Option String}
    (h : number.map (lexer.stateNames[·]?) = target.map some) :
    (number = none ∧ target = none) ∨ ∃ n name, number = some n ∧ target = some name ∧
      lexer.stateNames[n]? = some name := by
  cases number with
  | none =>
    cases target with
    | none => exact .inl ⟨rfl, rfl⟩
    | some name => cases h
  | some n =>
    cases target with
    | none => cases h
    | some name => exact .inr ⟨n, name, rfl, rfl, Option.some.inj h⟩

/-- A compiled rule does to the stack what the declared one does to the names. A rule may leave,
replace and enter in one transition, and both sides do these in the same order. -/
theorem names_transition {spec : RuleSpec} {rule : Rule}
    (hrule : Rule.Implements config lexer spec rule) (h : Names lexer stack names) :
    Names lexer (stack.transition rule.pop rule.switchTo rule.push) (spec.transition names) := by
  -- pop, switch and push one after the other, each from a stack whose names are known
  have hleft : Names lexer (if rule.pop then stack.pop else stack)
      (if spec.pop ∧ 1 < names.length then names.tail else names) := by
    rw [hrule.pop]
    cases spec.pop with
    | false => simpa using h
    | true => simpa using names_pop h
  unfold StateStack.transition RuleSpec.transition
  dsimp only
  generalize (if rule.pop then stack.pop else stack) = stack at hleft ⊢
  generalize (if spec.pop ∧ 1 < names.length then names.tail else names) = names at hleft ⊢
  have hswitched : Names lexer ((rule.switchTo.map stack.switchTo).getD stack)
      (spec.switchTo.elim names (· :: names.tail)) := by
    rcases target_cases hrule.switchTo with ⟨hr, hs⟩ | ⟨n, name, hr, hs, hn⟩
    · rw [hr, hs]
      exact hleft
    · rw [hr, hs]
      exact names_switchTo hleft hn
  generalize (rule.switchTo.map stack.switchTo).getD stack = stack at hswitched ⊢
  generalize spec.switchTo.elim names (· :: names.tail) = names at hswitched ⊢
  rcases target_cases hrule.push with ⟨hr, hs⟩ | ⟨n, name, hr, hs, hn⟩
  · rw [hr, hs]
    exact hswitched
  · rw [hr, hs]
    exact names_push hswitched hn

/-- A declared rule takes as many characters as the compiled one. Compiling its matcher gives the
matcher that the compiled rule has. -/
theorem ruleLength_of_implements {spec : RuleSpec} {rule : Rule}
    (h : Rule.Implements config lexer spec rule) (behind : Option Char) (text : List Char) :
    config.ruleLength spec behind text = rule.matcher.length behind text := by
  unfold LexerConfig.ruleLength
  rw [h.matcher]

/-- Of rules that implement others, the first one that matches implements the first one that
does, and takes as many characters; or none matches on both sides. -/
theorem firstMatch?_of_implements {specs : List RuleSpec} {rules : List Rule}
    (h : List.Forall₂ (Rule.Implements config lexer) specs rules) (cursor : Cursor) :
    (∃ spec rule, specs.find? (config.ruleLength · cursor.behind? cursor.rest != 0) = some spec ∧
      firstMatch? rules cursor = some (rule, config.ruleLength spec cursor.behind? cursor.rest) ∧
      Rule.Implements config lexer spec rule) ∨
    (specs.find? (config.ruleLength · cursor.behind? cursor.rest != 0) = none ∧
      firstMatch? rules cursor = none) := by
  induction h with
  | nil => exact .inr ⟨rfl, rfl⟩
  | @cons spec rule specs rules hrule _ ih =>
    have hlength := ruleLength_of_implements hrule cursor.behind? cursor.rest
    unfold firstMatch? at ih ⊢
    rw [List.find?_cons, List.findSome?_cons, hlength]
    by_cases hzero : rule.matcher.length cursor.behind? cursor.rest = 0
    · -- a match of length zero is passed over on both sides
      simpa [hzero] using ih
    · have htakes : (rule.matcher.length cursor.behind? cursor.rest != 0) = true := by
        simpa using hzero
      left
      refine ⟨spec, rule, ?_, ?_, hrule⟩
      · rw [htakes]
      · simp [hzero, hlength]

/-- The positions of a token are those after the text in front of it and after its value. The lexer
carries its position along, and the interpreter counts anew from the start of the text. That the two
agree is what `Cursor.Exact` says. -/
theorem tokenAt_eq_tokenAfter {cursor : Cursor} (h : cursor.Exact) (n : Nat) (type : String)
    (category : Category) : tokenAt cursor n type category =
      LexerConfig.tokenAfter cursor.before.reverse (cursor.rest.take n) type category := by
  have hstop := Cursor.exact_skip n h
  unfold Cursor.Exact at h hstop
  rw [Cursor.reverse_before_skip] at hstop
  unfold tokenAt LexerConfig.tokenAfter
  rw [h, hstop]

/-- A step of the compiled lexer makes the token of the interpreter, takes as many characters, and
leaves a stack with the interpreter's names. The rules on both sides are those of the state on top,
so the first one that matches is the same (`firstMatch?_of_implements`). If none matches, both make
an error token of one character. -/
theorem step_simulates (himpl : Implements config lexer) (h : Names lexer stack names)
    {cursor : Cursor} (hexact : cursor.Exact) :
    (lexer.step stack cursor).1 =
        (config.interpretStep names cursor.before.reverse cursor.rest).1 ∧
      (lexer.step stack cursor).2.1 =
        (config.interpretStep names cursor.before.reverse cursor.rest).2.1 ∧
      Names lexer (lexer.step stack cursor).2.2
        (config.interpretStep names cursor.before.reverse cursor.rest).2.2 := by
  obtain ⟨name, below, rfl, hname, -⟩ := exists_of_names h
  have hbehind : cursor.before.reverse.getLast? = cursor.behind? := List.getLast?_reverse
  unfold step LexerConfig.interpretStep LexerConfig.ruleAt?
  rw [hbehind, List.headD_cons]
  rcases firstMatch?_of_implements (himpl.rules _ _ hname) cursor with
    ⟨spec, rule, hspec, hrule, hrules⟩ | ⟨hspec, hrule⟩
  · rw [hspec, hrule]
    dsimp only
    rw [tokenAt_eq_tokenAfter hexact, hrules.type, hrules.category]
    exact ⟨rfl, rfl, names_transition hrules h⟩
  · -- no rule matches: one character is an error, and the stack stays
    rw [hspec, hrule]
    exact ⟨tokenAt_eq_tokenAfter hexact 1 errorType .error, rfl, h⟩

/-- From stacks that agree, the compiled lexer and the interpreter give the same tokens. The
induction follows the run of the lexer, for any names of its stack. -/
theorem tokensFrom_eq (himpl : Implements config lexer) (stack : StateStack Nat)
    (cursor : Cursor) (names : List String) (h : Names lexer stack names)
    (hexact : cursor.Exact) :
    lexer.tokensFrom stack cursor =
      config.interpretFrom names cursor.before.reverse cursor.rest := by
  fun_induction lexer.tokensFrom stack cursor generalizing names with
  | case1 stack cursor hend =>
    rw [LexerConfig.interpretFrom, dif_pos hend]
  | case2 stack cursor hrest next ih =>
    -- the names after the step are those that the induction goes on with
    obtain ⟨htoken, hlength, hnames⟩ := step_simulates himpl h hexact
    rw [LexerConfig.interpretFrom, dif_neg hrest]
    dsimp only
    rw [← htoken, ← hlength, ih _ hnames (Cursor.exact_skip _ hexact),
      Cursor.reverse_before_skip, Cursor.rest_skip]

/-- Wherever the compiled lexer comes, the interpreter comes with the names of its stack. The
induction is on the steps of the lexer, and each one is simulated by one step of the interpreter.
The cursor stays exact on the way, which the next step needs. -/
theorem exists_reaches (himpl : Implements config lexer) {source : String} {cursor : Cursor}
    (h : lexer.Reaches source stack cursor) :
    cursor.Exact ∧ ∃ names, config.Reaches source names cursor.before.reverse cursor.rest ∧
      Names lexer stack names := by
  induction h with
  | start =>
    exact ⟨Cursor.exact_ofString source, [config.initialName], .start, names_initial himpl⟩
  | @step stack cursor _ hrest ih =>
    obtain ⟨hexact, names, hreaches, hnames⟩ := ih
    obtain ⟨-, hlength, hnames'⟩ := step_simulates himpl hnames hexact
    refine ⟨Cursor.exact_skip _ hexact, _, ?_, hnames'⟩
    rw [Cursor.reverse_before_skip, Cursor.rest_skip, hlength]
    exact .step hreaches hrest

end

/-- A declaration compiles just if it is well formed. The compiled lexer then gives the tokens
of the interpreter on every text, and wherever its run comes, the numbers on its stack are
those of the names on the interpreter's stack, all of them numbers of states. -/
theorem compile_refines (language : String) (config : LexerConfig) :
    ((∃ lexer, compile language config = .ok lexer) ↔ config.WellFormed) ∧
    ∀ lexer, compile language config = .ok lexer → ∀ source,
      lexer.tokenize source = config.interpret source ∧
      ∀ stack cursor, lexer.Reaches source stack cursor →
        ∃ names, config.Reaches source names cursor.before.reverse cursor.rest ∧
          Names lexer stack names := by
  refine ⟨exists_compile_iff language config, ?_⟩
  intro lexer hcompile source
  have himpl := implements_of_compile hcompile
  constructor
  · exact tokensFrom_eq himpl _ _ _ (names_initial himpl) (Cursor.exact_ofString source)
  · intro stack cursor h
    exact (exists_reaches himpl h).2

/-- Two states that enter and leave each other, on a text that goes in and out, leaves the only
state, and has a character without a rule. -/
theorem compile_refines_brackets :
    ∃ config : LexerConfig, config = { states := .ofList [
        ("default", [{ matcher := .literal (.one "("), token := "open", push := some "inner" },
          { matcher := .literal (.one ")"), token := "close", pop := true }]),
        ("inner", [{ matcher := .literal (.one ")"), token := "close", pop := true }])] } ∧
      ∃ lexer, compile "brackets" config = .ok lexer ∧
        lexer.tokenize "())x" = config.interpret "())x" :=
  ⟨_, rfl, _, rfl, ((compile_refines "brackets" _).2 _ rfl "())x").1⟩

end Polyglot.Lexer
