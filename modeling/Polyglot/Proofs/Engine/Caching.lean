import Polyglot.Proofs.Engine.Uncached

/-!
# `Polyglot.Proofs.Engine.Caching`: a memo and a cache that do not show

An engine keeps resolved profiles in a memo and compiled lexers in a cache, both by the identity
of an object. `Engine.answers_eq_uncached` says that this changes no answer: after any profiles
were registered and with any capacity of the cache, the answers to any operations are those
computed from the registered profiles alone (`History.answers`), and a document that cannot be
read changes no answer after it.

The invariant is `Engine.Consistent`: the registry is one for the history, and every cached
lexer is what compiling the profile with the identity of the entry gives (`LexerCache.Sound`).
An identity belongs to one profile for ever, so it does not matter which lexers were evicted,
what was registered in between, or under which key an object was reached.

Operations are built from a few that touch the engine. `Engine.Follows` says that an operation
answers as a computation without engine does and keeps the invariant; it holds of the parts
(`follows_profile`, `follows_profileForPath`, `follows_lexerFor`) and is kept when they are put
one after the other (`Follows.bind`).
-/

set_option autoImplicit false

namespace Polyglot

/-! ### The cache -/

/-- Every lexer in the cache is the one that the profile with the identity of its entry has. -/
def LexerCache.Sound (objects : List Profile) (cache : LexerCache) : Prop :=
  ∀ entry ∈ cache.entries, ∃ p, objects[entry.key]? = some p ∧
    History.lexerOf p = .ok entry.lexer

namespace LexerCache.Sound

variable {objects : List Profile} {cache : LexerCache}

/-- The lexers are right also when more objects are made. New objects get new identities, so the
ones in the cache keep theirs. -/
theorem mono {objects' : List Profile} (h : cache.Sound objects) (hmore : objects <+: objects') :
    cache.Sound objects' := by
  intro entry hentry
  obtain ⟨p, hp, hlexer⟩ := h entry hentry
  exact ⟨p, getElem?_mono hmore hp, hlexer⟩

/-- Using an entry keeps the lexers right. It only changes the order of the entries. -/
theorem touch (h : cache.Sound objects) {entry : Entry} (hentry : entry ∈ cache.entries) :
    (cache.touch entry).Sound objects := by
  intro other hother
  rcases List.mem_cons.mp hother with rfl | hother
  · exact h _ hentry
  · exact h _ (List.mem_of_mem_filter hother)

/-- The lexer for an object is the one that its profile has, from the cache or not. The cache goes
by identity and does not compare profiles. This is right because an identity is given to one object
only, whose profile never changes. -/
theorem get (h : cache.Sound objects) {id : Nat} {p : Profile} (hp : objects[id]? = some p) :
    (cache.get p.name id p.lexer).2.Sound objects ∧
      Agree (fun entry lexer => entry.lexer = lexer) (cache.get p.name id p.lexer).1
        (History.lexerOf p) := by
  unfold LexerCache.get
  split
  · -- the entry was made for the object with this identity, which is the same one
    rename_i entry hfind
    have hentry : entry ∈ cache.entries := List.mem_of_find?_eq_some hfind
    have hkey : entry.key = id := by simpa using List.find?_some hfind
    obtain ⟨q, hq, hlexer⟩ := h entry hentry
    rw [hkey, hp] at hq
    obtain rfl := Option.some.inj hq
    rw [hlexer]
    exact ⟨h.touch hentry, .ok rfl⟩
  · unfold History.lexerOf
    split
    · -- a failure is not cached
      rename_i e he
      rw [he]
      exact ⟨h, .error e⟩
    · rename_i lexer hlexer
      rw [hlexer]
      refine ⟨fun entry hentry => ?_, .ok rfl⟩
      -- what falls off at the end was sound, and so is what stays
      rcases List.mem_cons.mp (List.mem_of_mem_take hentry) with rfl | hentry
      · exact ⟨p, hp, hlexer⟩
      · exact h entry hentry

end LexerCache.Sound

/-! ### Operations that follow a computation without engine -/

namespace Engine

/-- An engine is one for a history, where `objects` are the profiles of all identities. -/
structure Consistent (settings : Settings) (history : History) (objects : List Profile)
    (e : Engine) : Prop where
  /-- The registry is one for the history. -/
  registry : e.registry.Consistent history objects
  /-- The compiled lexers are those of the objects. -/
  cache : e.cache.Sound objects
  /-- The settings never change. -/
  settings_eq : e.settings = settings

/-- An operation on engines for a history answers like `reference` does, up to a relation that
may depend on the objects, and leaves an engine for the same history. -/
def Follows {α β : Type} (settings : Settings) (history : History) (objects : List Profile)
    (related : List Profile → α → β → Prop) (operation : EngineM α)
    (reference : Except Error β) : Prop :=
  ∀ e, Consistent settings history objects e →
    ∃ objects', objects <+: objects' ∧
      Consistent settings history objects' (operation.run.run e).2 ∧
      Agree (related objects') (operation.run.run e).1 reference

section

variable {α β γ δ : Type} {settings : Settings} {history : History} {objects : List Profile}
variable {related : List Profile → α → β → Prop} {related' : List Profile → γ → δ → Prop}

/-- What comes after an answer goes on with it, in the engine that was left. With `run_bind_error`
this takes operations apart, so that none of the proofs below has to open the monad. -/
theorem run_bind_ok {operation : EngineM α} {next : α → EngineM γ} {e e' : Engine} {a : α}
    (h : operation.run.run e = (.ok a, e')) :
    (operation >>= next).run.run e = (next a).run.run e' := by
  rw [ExceptT.run_bind, StateT.run_bind, h]
  rfl

/-- Nothing comes after a failure. -/
theorem run_bind_error {operation : EngineM α} {next : α → EngineM γ} {e e' : Engine}
    {x : Error} (h : operation.run.run e = (.error x, e')) :
    (operation >>= next).run.run e = (.error x, e') := by
  rw [ExceptT.run_bind, StateT.run_bind, h]
  rfl

/-- An answer without looking at the engine. -/
theorem Follows.pure {a : α} {b : β} (h : related objects a b) :
    Follows settings history objects related (Pure.pure a) (.ok b) :=
  fun _ he => ⟨objects, List.prefix_rfl, he, .ok h⟩

/-- One operation after another follows one computation after another. The first one may make
objects, so the second one has to follow for all lists of objects that go on from the given one. -/
theorem Follows.bind {operation : EngineM α} {reference : Except Error β}
    {next : α → EngineM γ} {next' : β → Except Error δ}
    (h : Follows settings history objects related operation reference)
    (hnext : ∀ objects' a b, related objects' a b →
      Follows settings history objects' related' (next a) (next' b)) :
    Follows settings history objects related' (operation >>= next) (reference >>= next') := by
  intro e he
  obtain ⟨objects', hmore, he', hagree⟩ := h e he
  cases hrun : operation.run.run e with
  | mk answer e' =>
    rw [hrun] at he' hagree
    cases hagree with
    | error x =>
      -- both stop here, and the engine that is left is consistent all the same
      rw [run_bind_error hrun]
      exact ⟨objects', hmore, he', .error x⟩
    | ok hrelated =>
      rw [run_bind_ok hrun]
      obtain ⟨objects'', hmore', hagree'⟩ := hnext objects' _ _ hrelated e' he'
      exact ⟨objects'', hmore.trans hmore', hagree'⟩

/-- The resolved profile of a language. The registry does the work here, and the cache is not
touched. -/
theorem follows_profile (language : String) :
    Follows settings history objects Shared.Holds (profile language)
      (history.profile language) := by
  intro e he
  obtain ⟨objects', hmore, hregistry, hagree⟩ := he.registry.resolve language
  exact ⟨objects', hmore, ⟨hregistry, he.cache.mono hmore, he.settings_eq⟩, hagree⟩

/-- The resolved profile for a path. -/
theorem follows_profileForPath (path : String) :
    Follows settings history objects Shared.Holds (profileForPath path)
      (history.profileForPath path) := by
  intro e he
  obtain ⟨objects', hmore, hregistry, hagree⟩ := he.registry.resolvePath path
  exact ⟨objects', hmore, ⟨hregistry, he.cache.mono hmore, he.settings_eq⟩, hagree⟩

/-- The compiled lexer of an object. The reference compiles anew in each call. The cache may have
compiled it long ago, under the same identity and so from the same profile. -/
theorem follows_lexerFor {shared : Shared} {p : Profile} (hshared : shared.Holds objects p) :
    Follows settings history objects (fun _ entry lexer => entry.lexer = lexer)
      (lexerFor shared) (History.lexerOf p) := by
  intro e he
  obtain ⟨hid, rfl⟩ := hshared
  -- the cache is asked by identity, and the object holds the profile that the identity is of
  obtain ⟨hcache, hagree⟩ := he.cache.get hid
  exact ⟨objects, List.prefix_rfl, ⟨he.registry, hcache, he.settings_eq⟩, hagree⟩

/-- The analysis of a text under the profile of an object. -/
theorem follows_analyzeWith {shared : Shared} {p : Profile} (hshared : shared.Holds objects p)
    (source : String) :
    Follows settings history objects (fun _ => Eq) (analyzeWith shared source)
      (History.analyzeUnder settings p source) := by
  refine (follows_lexerFor hshared).bind ?_
  rintro objects' entry lexer rfl e he
  -- after the lexer, only the settings are read from the engine
  refine ⟨objects', List.prefix_rfl, he, ?_⟩
  rw [← hshared.2, ← he.settings_eq]
  exact .ok rfl

/-- The compiled lexer of a language. The engine answers with an entry of its cache, of which the
reference has the lexer only. The other parts of the entry are how the cache finds it. -/
theorem follows_compiledLexer (language : String) :
    Follows settings history objects (fun _ entry lexer => entry.lexer = lexer)
      (compiledLexer language) (history.lexer language) :=
  (follows_profile language).bind fun _ _ _ hshared => follows_lexerFor hshared

/-- The tokens of a text. -/
theorem follows_tokenize (source language : String) :
    Follows settings history objects (fun _ => Eq) (tokenize source language)
      (history.tokenize source language) := by
  refine (follows_compiledLexer language).bind ?_
  rintro objects' entry lexer rfl
  exact .pure rfl

/-- The blocks in a text. The lexer is compiled in both cases, also for a profile that says nothing
about structure, so both fail if it does not compile. -/
theorem follows_blockSpans (source language : String) :
    Follows settings history objects (fun _ => Eq) (blockSpans source language)
      (history.blockSpans source language) := by
  refine (follows_profile language).bind fun objects' shared p hshared => ?_
  refine (follows_lexerFor hshared).bind ?_
  rintro objects'' entry lexer rfl
  rw [hshared.2]
  cases p.structure? with
  | none => exact .pure rfl
  | some s => exact .pure rfl

/-- The tokens of a text and the structure found in them. -/
theorem follows_analyze (source language : String) :
    Follows settings history objects (fun _ => Eq) (analyze source language)
      (history.analyze settings source language) :=
  (follows_profile language).bind fun _ _ _ hshared => follows_analyzeWith hshared source

/-- The declarations in a text. -/
theorem follows_symbols (source language : String) :
    Follows settings history objects (fun _ => Eq) (symbols source language)
      (history.symbols settings source language) := by
  refine (follows_analyze source language).bind ?_
  rintro objects' analysis _ rfl
  exact .pure rfl

/-- The regions of a text that fold. A profile that folds nothing is answered before its lexer is
asked for, in the engine and in the reference alike. -/
theorem follows_folds (source language : String) :
    Follows settings history objects (fun _ => Eq) (folds source language)
      (history.folds settings source language) := by
  refine (follows_profile language).bind fun objects' shared p hshared => ?_
  rw [hshared.2]
  cases p.structure?.bind (·.folding) with
  | none => exact .pure rfl
  | some folding =>
    refine (follows_analyzeWith hshared source).bind ?_
    rintro objects'' analysis _ rfl
    exact .pure rfl

/-- An operation whose result is wrapped into an answer. Results that are related only, such as an
object and its profile, have to become the same answer. -/
theorem Follows.answer {operation : EngineM α} {reference : Except Error β} {f : α → Answer}
    {g : β → Answer} (h : Follows settings history objects related operation reference)
    (hsame : ∀ objects a b, related objects a b → f a = g b) :
    Follows settings history objects (fun _ => Eq) (do return f (← operation))
      (do return g (← reference)) :=
  h.bind fun objects' a b hrelated => .pure (hsame objects' a b hrelated)

/-- Every operation but a registration answers what the history says and leaves it. Each of them has
its lemma above, and only wraps the result. -/
theorem follows_perform {operation : Operation}
    (hoperation : ∀ document, operation ≠ .register document) :
    Follows settings history objects (fun _ => Eq) (perform operation)
      (history.answer settings operation) := by
  cases operation with
  | register document => exact absurd rfl (hoperation document)
  | profile language =>
    exact (follows_profile language).answer fun _ _ _ h => congrArg Answer.profile h.2
  | profileForPath path =>
    exact (follows_profileForPath path).answer fun _ _ _ h => congrArg Answer.profile h.2
  | compiledLexer language =>
    exact (follows_compiledLexer language).answer fun _ _ _ h => congrArg Answer.lexer h
  | tokenize source language =>
    exact (follows_tokenize source language).answer fun _ _ _ h => congrArg Answer.tokens h
  | blockSpans source language =>
    exact (follows_blockSpans source language).answer fun _ _ _ h => congrArg Answer.spans h
  | symbols source language =>
    exact (follows_symbols source language).answer fun _ _ _ h => congrArg Answer.symbols h
  | folds source language =>
    exact (follows_folds source language).answer fun _ _ _ h => congrArg Answer.folds h
  | analyze source language =>
    exact (follows_analyze source language).answer fun _ _ _ h => congrArg Answer.analysis h

end

/-! ### Runs -/

section

variable {settings : Settings} {history : History} {objects : List Profile} {e : Engine}

/-- A registered profile is the last one in the history. The lexers in the cache stay right:
registering drops the memo of resolved profiles, but it makes no object of another profile. -/
theorem Consistent.register (he : Consistent settings history objects e) (p : Profile) :
    Consistent settings (history ++ [p]) (objects ++ [p]) (e.register p) :=
  ⟨he.registry.register p, he.cache.mono (List.prefix_append _ _), he.settings_eq⟩

/-- A document is answered by what reading it gives, and adds its profile to the history if it can
be read. If not, the engine is left exactly as it was. -/
theorem Consistent.perform_register (he : Consistent settings history objects e)
    (document : String) :
    ((Engine.perform (.register document)).run.run e).1 =
        history.answer settings (.register document) ∧
      ∃ objects', Consistent settings (history.after (.register document)) objects'
        ((Engine.perform (.register document)).run.run e).2 := by
  rw [History.answer, History.after]
  cases hparse : Profile.parse "<json>" document with
  | error x =>
    have hrun : (registerText document).run.run e = (.error x, e) := by
      -- an unreadable document leaves the engine as it is
      rw [registerText, hparse]
      rfl
    rw [Engine.perform, run_bind_error hrun]
    exact ⟨rfl, objects, he⟩
  | ok p =>
    have hrun : (registerText document).run.run e = (.ok (), e.register p) := by
      rw [registerText, hparse]
      rfl
    rw [Engine.perform, run_bind_ok hrun]
    exact ⟨rfl, objects ++ [p], he.register p⟩

/-- An operation answers what the history says, and what it leaves is an engine for the history
after it. -/
theorem Consistent.perform (he : Consistent settings history objects e)
    (operation : Operation) :
    ((Engine.perform operation).run.run e).1 = history.answer settings operation ∧
      ∃ objects', Consistent settings (history.after operation) objects'
        ((Engine.perform operation).run.run e).2 := by
  by_cases hoperation : ∃ document, operation = .register document
  · obtain ⟨document, rfl⟩ := hoperation
    exact he.perform_register document
  · have hother : ∀ document, operation ≠ .register document := not_exists.mp hoperation
    obtain ⟨objects', -, he', hagree⟩ := follows_perform hother e he
    rw [history.after_eq_self hother]
    exact ⟨hagree.eq, objects', he'⟩

/-- The answers of an engine for a history are those that the history gives. The induction is on the
operations. One operation leaves an engine for the history after it, with which the others go on. -/
theorem Consistent.answers_eq (he : Consistent settings history objects e)
    (operations : List Operation) :
    e.answers operations = history.answers settings operations := by
  -- the history and the objects grow along the run, so the induction is for all of them
  induction operations generalizing e history objects with
  | nil => rfl
  | cons operation rest ih =>
    obtain ⟨hanswer, objects', he'⟩ := he.perform operation
    rw [answers, History.answers, ← hanswer, ← ih he']
    rfl

end

/-- An engine over a registry after any run of actions. Its cache is empty at first, so there is
nothing to say of the lexers in it. -/
theorem exists_consistent_new (settings : Settings) (actions : List Registry.Action) :
    ∃ objects, Consistent settings (Registry.registered actions) objects
      (new (Registry.after actions) settings) := by
  obtain ⟨objects, hregistry⟩ := Registry.exists_consistent actions
  exact ⟨objects, hregistry, fun _ hentry => absurd hentry List.not_mem_nil, rfl⟩

/-- The answers of an engine, with any capacity of its cache and after any use of its registry,
are those computed from the registered profiles with no memo and no cache. A document that
cannot be read changes no later answer. -/
theorem answers_eq_uncached (settings : Settings) (actions : List Registry.Action) :
    (∀ operations : List Operation,
      (new (Registry.after actions) settings).answers operations =
        (Registry.registered actions).answers settings operations) ∧
    (∀ (before later : List Operation) (document : String) (x : Error),
      Profile.parse "<json>" document = .error x →
      (new (Registry.after actions) settings).answers (before ++ .register document :: later) =
        (new (Registry.after actions) settings).answers before ++
          .error x :: ((new (Registry.after actions) settings).answers
            (before ++ later)).drop before.length) := by
  obtain ⟨objects, he⟩ := exists_consistent_new settings actions
  refine ⟨he.answers_eq, ?_⟩
  intro before later document x hdocument
  rw [he.answers_eq, he.answers_eq, he.answers_eq]
  exact History.answers_of_unreadable settings _ hdocument before later

/-- A text that is no document, between other operations on an engine that keeps one lexer. -/
theorem answers_after_unreadable :
    Profile.parse "<json>" "\x7b" = .error (.config "<json>" .malformed) ∧
      (new (Registry.after [.register { name := "c" }]) { lexerCacheCapacity := 0 }).answers
          [.tokenize "x" "c", .register "\x7b", .analyze "x" "c"] =
        (new (Registry.after [.register { name := "c" }]) { lexerCacheCapacity := 0 }).answers
            [.tokenize "x" "c"] ++
          .error (.config "<json>" .malformed) ::
            ((new (Registry.after [.register { name := "c" }])
              { lexerCacheCapacity := 0 }).answers
                [.tokenize "x" "c", .analyze "x" "c"]).drop 1 :=
  ⟨rfl, (answers_eq_uncached { lexerCacheCapacity := 0 } [.register { name := "c" }]).2
    [.tokenize "x" "c"] [.analyze "x" "c"] "\x7b" _ rfl⟩

end Engine

end Polyglot
