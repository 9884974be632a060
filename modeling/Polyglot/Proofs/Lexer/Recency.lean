import Mathlib.Data.List.Dedup
import Polyglot.Lexer.Cache
import Polyglot.Proofs.Lexer.Refinement

/-!
# `Polyglot.Proofs.Lexer.Recency`: which lexers a cache still has

A cache is asked for lexers and cleared from time to time, and everything that it has answered
since it was made is written down in a log. `LexerCache.Kept` reads off the log whether a lexer
is still there: it was obtained since the cache was cleared, and since then fewer other
configurations were obtained than the cache has room for. Only calls that succeeded count, and
a configuration counts once however often it was obtained.

`LexerCache.get_after_calls` says that this is the rule by which a cache answers. A lexer that is
kept is answered with, and it is the very one that was obtained before, whatever language it is
asked for under. Any other configuration is compiled, and the lexer is one that no call before
has answered with. A configuration that does not compile leaves the cache as it was.

The rule is about the whole history of a cache, and its entries are the part of the history that
it remembers. `Session.Recalls` says which part: the configurations that were obtained since the
cache was cleared, each with its latest lexer (`latest`), in the order in which they were last
obtained, as many as there is room for. Where a configuration stands in that order is the number
of others that were obtained after it (`length_takeWhile_latest`).
-/

set_option autoImplicit false

namespace Polyglot.LexerCache

/-! ### Calls and what they are answered with -/

/-- A call of a cache. A configuration is an object and is known by its identity. -/
inductive Call where
  /-- Ask for the lexer of a configuration. -/
  | get (language : String) (key : Nat)
  /-- Drop all lexers. -/
  | clear

/-- A cache with all that it was asked for and has answered. -/
structure Session where
  /-- The answers, the latest first; dropping all lexers is `none`. -/
  log : List (Option (Except Error Entry)) := []
  /-- The cache. -/
  cache : LexerCache

namespace Session

/-- Make a call. The configurations are looked up by identity. -/
def call (configs : Nat → LexerConfig) (s : Session) : Call → Session
  | .get language key =>
    let (answer, cache) := s.cache.get language key (configs key)
    ⟨some answer :: s.log, cache⟩
  | .clear => ⟨none :: s.log, s.cache.clear⟩

/-- A new cache after some calls. -/
def after (configs : Nat → LexerConfig) (capacity : Nat) (calls : List Call) : Session :=
  calls.foldl (call configs) { cache := new capacity }

end Session

/-- What was obtained since all lexers were dropped, the latest first. -/
def obtained (log : List (Option (Except Error Entry))) : List Entry :=
  (log.takeWhile (·.isSome)).filterMap (·.bind Except.toOption)

/-- The configurations that were obtained since a given one was, each of them once. -/
def othersSince (key : Nat) (entries : List Entry) : List Nat :=
  ((entries.takeWhile (·.key != key)).map (·.key)).dedup

/-- A lexer that a cache still has: it is what its configuration was last obtained as, and fewer
other configurations were obtained since then than the cache has room for. -/
def Kept (capacity : Nat) (log : List (Option (Except Error Entry))) (key : Nat)
    (entry : Entry) : Prop :=
  (obtained log).find? (·.key == key) = some entry ∧
    (othersSince key (obtained log)).length < max capacity 1

/-- A success is one more entry that was obtained. -/
theorem obtained_ok (entry : Entry) (log : List (Option (Except Error Entry))) :
    obtained (some (.ok entry) :: log) = entry :: obtained log := rfl

/-! ### The latest lexer of each configuration -/

/-- Every configuration once, with the lexer that it was obtained as last. -/
def latest : List Entry → List Entry
  | [] => []
  | entry :: rest => entry :: (latest rest).filter (·.key != entry.key)

/-- A configuration has one lexer among the latest. Whatever was obtained of it earlier is filtered
out behind its latest one. -/
theorem nodup_latest (entries : List Entry) : ((latest entries).map (·.key)).Nodup := by
  induction entries with
  | nil => exact List.nodup_nil
  | cons entry rest ih =>
    rw [latest, List.map_cons, List.nodup_cons]
    constructor
    · intro hmem
      obtain ⟨other, hother, hkey⟩ := List.mem_map.mp hmem
      have hne := (List.mem_filter.mp hother).2
      rw [hkey, bne_self_eq_false] at hne
      exact Bool.false_ne_true hne
    · exact ih.sublist ((List.filter_sublist).map _)

/-- The configurations among the latest are those that were obtained. Filtering takes away
repetitions only: what is dropped has the same key as an entry in front. -/
theorem mem_keys_latest_iff {key : Nat} {entries : List Entry} :
    key ∈ (latest entries).map (·.key) ↔ key ∈ entries.map (·.key) := by
  induction entries with
  | nil => exact Iff.rfl
  | cons entry rest ih =>
    rw [latest, List.map_cons, List.map_cons, List.mem_cons, List.mem_cons, ← ih]
    by_cases hkey : key = entry.key
    · simp only [hkey, true_or]
    · simp only [hkey, false_or, List.mem_map, List.mem_filter, bne_iff_ne]
      constructor
      · rintro ⟨other, ⟨hother, -⟩, rfl⟩
        exact ⟨other, hother, rfl⟩
      · rintro ⟨other, hother, rfl⟩
        exact ⟨other, ⟨hother, hkey⟩, rfl⟩

/-- The latest lexers are as many as there are different configurations. Both lists hold the same
keys, each of them once. -/
theorem length_latest (entries : List Entry) :
    (latest entries).length = (entries.map (·.key)).dedup.length := by
  have hperm : ((latest entries).map (·.key)).Perm (entries.map (·.key)).dedup := by
    rw [List.perm_ext_iff_of_nodup (nodup_latest entries) (List.nodup_dedup _)]
    intro key
    rw [mem_keys_latest_iff, List.mem_dedup]
  rw [← hperm.length_eq, List.length_map]

/-- The latest lexer of a configuration is the first one that is found. The log has the latest
entries in front, so this is also the last one that was obtained. -/
theorem find?_latest (key : Nat) (entries : List Entry) :
    (latest entries).find? (·.key == key) = entries.find? (·.key == key) := by
  induction entries with
  | nil => rfl
  | cons entry rest ih =>
    rw [latest, List.find?_cons, List.find?_cons, ← ih]
    cases hkey : entry.key == key with
    | true => rfl
    | false =>
      -- what is filtered out has another key
      rw [List.find?_filter]
      refine congrArg (List.find? · (latest rest)) (funext fun other => ?_)
      by_cases hother : other.key = key
      · have hne : ¬ key = entry.key := fun h => beq_eq_false_iff_ne.mp hkey h.symm
        simp [hother, hne]
      · simp [hother]

/-- What stands in front of a configuration among the latest is what was obtained since. Repetitions
that are filtered out stand behind their latest use, so cutting the list at a configuration and
filtering can be exchanged. -/
theorem takeWhile_latest (key : Nat) (entries : List Entry) :
    (latest entries).takeWhile (·.key != key) = latest (entries.takeWhile (·.key != key)) := by
  have hfilter : ∀ (other : Nat) (l : List Entry), other ≠ key →
      (l.filter (·.key != other)).takeWhile (·.key != key) =
        (l.takeWhile (·.key != key)).filter (·.key != other) := by
    intro other l hother
    induction l with
    | nil => rfl
    | cons entry rest ih =>
      by_cases hkey : entry.key = key
      · simp [hkey, Ne.symm hother]
      · by_cases heq : entry.key = other
        · simp [heq, hother, ih]
        · simp [hkey, heq, ih]
  induction entries with
  | nil => rfl
  | cons entry rest ih =>
    by_cases hkey : entry.key = key
    · simp [latest, hkey]
    · have hne : (entry.key != key) = true := bne_iff_ne.mpr hkey
      simp only [latest, List.takeWhile_cons, hne, ↓reduceIte]
      rw [hfilter entry.key (latest rest) hkey, ih]

/-- A configuration stands among the latest behind as many others as were obtained since. So whether
it is among the first ones, for which there is room, can be told from the log. -/
theorem length_takeWhile_latest (key : Nat) (entries : List Entry) :
    ((latest entries).takeWhile (·.key != key)).length = (othersSince key entries).length := by
  rw [takeWhile_latest, length_latest]
  rfl

/-! ### The first entries of a list -/

/-- What is found among the first entries is what is found, if it stands among the first. The
entries in front of it are those that do not have its key. -/
theorem find?_take_eq_some_iff {room key : Nat} {entries : List Entry} {entry : Entry} :
    (entries.take room).find? (·.key == key) = some entry ↔
      entries.find? (·.key == key) = some entry ∧
        (entries.takeWhile (·.key != key)).length < room := by
  induction entries generalizing room with
  | nil => simp
  | cons head rest ih =>
    cases room with
    | zero => simp
    | succ room =>
      by_cases hkey : head.key = key
      · simp [hkey]
      · simp [hkey, ih]

/-- Using an entry again among the first entries: it moves in front of the others, and no other
entry comes or goes. The hole that it leaves is filled by the entries in front of it, which move
back by one. -/
theorem take_cons_filter_of_mem {room : Nat} {entries : List Entry} {entry : Entry}
    (hnodup : (entries.map (·.key)).Nodup) (hmem : entry.key ∈ (entries.take room).map (·.key)) :
    (entry :: entries.filter (·.key != entry.key)).take room =
      entry :: (entries.take room).filter (·.key != entry.key) := by
  induction entries generalizing room with
  | nil => simp at hmem
  | cons head rest ih =>
    cases room with
    | zero => simp at hmem
    | succ room =>
      rw [List.map_cons, List.nodup_cons] at hnodup
      rw [List.take_succ_cons, List.take_succ_cons]
      congr 1
      by_cases hkey : head.key = entry.key
      · -- no other entry has the key, so nothing is filtered out behind this one
        have hrest : ∀ other ∈ rest, (other.key != entry.key) = true := by
          intro other hother
          rw [bne_iff_ne]
          intro heq
          exact hnodup.1 (hkey ▸ heq ▸ List.mem_map_of_mem hother)
        have hfirst : ∀ other ∈ rest.take room, (other.key != entry.key) = true :=
          fun other hother => hrest other (List.mem_of_mem_take hother)
        simp [hkey, List.filter_eq_self.mpr hrest, List.filter_eq_self.mpr hfirst]
      · have hne : (head.key != entry.key) = true := bne_iff_ne.mpr hkey
        have hmem' : entry.key ∈ (rest.take room).map (·.key) := by
          rw [List.take_succ_cons, List.map_cons, List.mem_cons] at hmem
          exact hmem.resolve_left (Ne.symm hkey)
        simp only [List.filter_cons, hne, ↓reduceIte]
        cases room with
        | zero => simp at hmem'
        | succ room =>
          have hstep := ih hnodup.2 hmem'
          rw [List.take_succ_cons] at hstep ⊢
          rw [(List.cons.inj hstep).2]

/-- A new entry in front of the first entries: the last one falls off if there is no room. The key
may stand behind the first entries, from an earlier time, and filtering it there changes nothing
among them. -/
theorem take_cons_filter_of_notMem {room : Nat} {entries : List Entry} {entry : Entry}
    (hmem : entry.key ∉ (entries.take room).map (·.key)) :
    (entry :: entries.filter (·.key != entry.key)).take room =
      (entry :: entries.take room).take room := by
  induction entries generalizing room with
  | nil => simp
  | cons head rest ih =>
    cases room with
    | zero => rfl
    | succ room =>
      rw [List.take_succ_cons, List.map_cons, List.mem_cons, not_or] at hmem
      have hne : (head.key != entry.key) = true := bne_iff_ne.mpr (Ne.symm hmem.1)
      simp only [List.take_succ_cons, List.filter_cons, hne, ↓reduceIte]
      cases room with
      | zero => rfl
      | succ room =>
        have hstep := ih hmem.2
        rw [List.take_succ_cons, List.take_succ_cons] at hstep
        rw [List.take_succ_cons, List.take_succ_cons, (List.cons.inj hstep).2]

/-! ### What a cache remembers -/

/-- A cache remembers the latest lexers, as many as it has room for, and the serial number of
the next lexer is a new one. -/
structure Session.Recalls (capacity : Nat) (s : Session) : Prop where
  /-- The room for lexers is what it was at the start. -/
  capacity_eq : s.cache.capacity = max capacity 1
  /-- The entries are the latest lexers. -/
  entries_eq : s.cache.entries = (latest (obtained s.log)).take (max capacity 1)
  /-- All serial numbers so far are smaller than the next one. -/
  serial_lt : ∀ entry, some (.ok entry) ∈ s.log → entry.serial < s.cache.nextSerial

/-- What was obtained is in the log. Only the part since all lexers were dropped counts as obtained,
and serial numbers have to differ from all in the log. -/
theorem mem_log_of_mem_obtained {log : List (Option (Except Error Entry))} {entry : Entry}
    (h : entry ∈ obtained log) : some (.ok entry) ∈ log := by
  obtain ⟨answer, hanswer, hentry⟩ := List.mem_filterMap.mp h
  have hlog : answer ∈ log := (List.takeWhile_sublist _).subset hanswer
  match answer, hentry with
  | some (.ok _), rfl => exact hlog

namespace Session.Recalls

variable {configs : Nat → LexerConfig} {capacity : Nat} {s : Session}

/-- The cache finds a lexer just if it is kept. The cache looks into its entries, and `Kept` speaks
of the log alone; the invariant says that the entries are what the log makes them. -/
theorem find?_eq_some_iff (h : s.Recalls capacity) {key : Nat} {entry : Entry} :
    s.cache.find? key = some entry ↔ Kept capacity s.log key entry := by
  unfold LexerCache.find? Kept
  rw [h.entries_eq, find?_take_eq_some_iff, find?_latest, length_takeWhile_latest]

/-- A new cache remembers nothing, which is all that there is. Its room is at least one, also if
none is asked for. -/
theorem start (capacity : Nat) : Recalls capacity { cache := new capacity } where
  capacity_eq := rfl
  entries_eq := List.take_nil.symm
  serial_lt := fun _ hentry => nomatch hentry

/-- A lexer that is found becomes the latest one. The cache moves it in front, and in the log it is
one more entry of the same key. -/
theorem hit (h : s.Recalls capacity) {key : Nat} {entry : Entry}
    (hfind : s.cache.find? key = some entry) :
    Recalls capacity ⟨some (.ok entry) :: s.log, s.cache.touch entry⟩ where
  capacity_eq := h.capacity_eq
  entries_eq := by
    have hmem : entry ∈ s.cache.entries := List.mem_of_find?_eq_some hfind
    rw [h.entries_eq] at hmem
    rw [obtained_ok, latest,
      take_cons_filter_of_mem (nodup_latest _) (List.mem_map_of_mem hmem), ← h.entries_eq]
    rfl
  serial_lt := by
    intro other hother
    rcases List.mem_cons.mp hother with heq | hother
    · -- the entry was obtained before, so its number is an old one
      obtain rfl := Except.ok.inj (Option.some.inj heq)
      have hkept := (h.find?_eq_some_iff.mp hfind).1
      exact h.serial_lt _ (mem_log_of_mem_obtained (List.mem_of_find?_eq_some hkept))
    · exact h.serial_lt other hother

/-- A lexer that is compiled becomes the latest one, and has the next serial number. If there is no
room, the cache drops its last entry. By the invariant that is the configuration that was not used
for the longest time. -/
theorem miss (h : s.Recalls capacity) {key : Nat} (hfind : s.cache.find? key = none)
    (lexer : Lexer) :
    Recalls capacity ⟨some (.ok ⟨key, s.cache.nextSerial, lexer⟩) :: s.log,
      { s.cache with
        entries := (⟨key, s.cache.nextSerial, lexer⟩ :: s.cache.entries).take s.cache.capacity
        nextSerial := s.cache.nextSerial + 1 }⟩ where
  capacity_eq := h.capacity_eq
  entries_eq := by
    have hnone : key ∉ ((latest (obtained s.log)).take (max capacity 1)).map (·.key) := by
      -- what is not found is not among the entries that are kept
      rw [← h.entries_eq]
      intro hmem
      obtain ⟨entry, hentry, hkey⟩ := List.mem_map.mp hmem
      exact List.find?_eq_none.mp hfind entry hentry (beq_iff_eq.mpr hkey)
    dsimp only
    rw [obtained_ok, latest, take_cons_filter_of_notMem hnone, h.capacity_eq, h.entries_eq]
  serial_lt := by
    intro other hother
    rcases List.mem_cons.mp hother with heq | hother
    · obtain rfl := Except.ok.inj (Option.some.inj heq)
      exact Nat.lt_succ_self _
    · exact Nat.lt_succ_of_lt (h.serial_lt other hother)

/-- A configuration that does not compile changes nothing. It is in the log, but it is no entry that
was obtained, so it does not count against the room. -/
theorem failure (h : s.Recalls capacity) (x : Error) :
    Recalls capacity ⟨some (.error x) :: s.log, s.cache⟩ where
  capacity_eq := h.capacity_eq
  entries_eq := h.entries_eq
  serial_lt := by
    intro other hother
    rcases List.mem_cons.mp hother with heq | hother
    · exact nomatch heq
    · exact h.serial_lt other hother

/-- Dropping all lexers leaves nothing to remember. The serial numbers go on, so a lexer that is
compiled again is not taken for an earlier one. -/
theorem clear (h : s.Recalls capacity) : Recalls capacity ⟨none :: s.log, s.cache.clear⟩ where
  capacity_eq := h.capacity_eq
  entries_eq := List.take_nil.symm
  serial_lt := by
    intro other hother
    rcases List.mem_cons.mp hother with heq | hother
    · exact nomatch heq
    · exact h.serial_lt other hother

end Session.Recalls

/-- What asking for a lexer comes to: one that is found, a fault of the configuration, or a new
lexer. The language is only used for compiling. A lexer that is found is answered whatever language
is given. -/
theorem get_cases (cache : LexerCache) (language : String) (key : Nat) (config : LexerConfig) :
    (∃ entry, cache.find? key = some entry ∧
      cache.get language key config = (.ok entry, cache.touch entry)) ∨
    (∃ x, cache.find? key = none ∧ Lexer.compile language config = .error x ∧
      cache.get language key config = (.error x, cache)) ∨
    (∃ lexer, cache.find? key = none ∧ Lexer.compile language config = .ok lexer ∧
      cache.get language key config = (.ok ⟨key, cache.nextSerial, lexer⟩,
        { cache with
          entries := (⟨key, cache.nextSerial, lexer⟩ :: cache.entries).take cache.capacity
          nextSerial := cache.nextSerial + 1 })) := by
  unfold get
  cases cache.find? key with
  | some entry => exact .inl ⟨entry, rfl, rfl⟩
  | none =>
    cases Lexer.compile language config with
    | error x => exact .inr (.inl ⟨x, rfl, rfl, rfl⟩)
    | ok lexer => exact .inr (.inr ⟨lexer, rfl, rfl, rfl⟩)

namespace Session

variable {configs : Nat → LexerConfig} {capacity : Nat}

/-- A call keeps what a cache remembers in step with its log. Its three outcomes and the dropping of
all lexers have a lemma each above. -/
theorem Recalls.call {s : Session} (h : s.Recalls capacity) (c : Call) :
    (s.call configs c).Recalls capacity := by
  cases c with
  | clear => exact h.clear
  | get language key =>
    obtain ⟨entry, hfind, hget⟩ | ⟨x, -, -, hget⟩ | ⟨lexer, hfind, -, hget⟩ :=
      get_cases s.cache language key (configs key)
    · simp only [Session.call, hget]
      exact h.hit hfind
    · simp only [Session.call, hget]
      exact h.failure x
    · simp only [Session.call, hget]
      exact h.miss hfind lexer

/-- After any calls a cache remembers what its log says. The induction is on the calls, from any
session that is in step with its log. -/
theorem recalls_after (configs : Nat → LexerConfig) (capacity : Nat) (calls : List Call) :
    (after configs capacity calls).Recalls capacity := by
  have hrun : ∀ s : Session, s.Recalls capacity →
      (calls.foldl (Session.call configs) s).Recalls capacity := by
    induction calls with
    | nil => exact fun _ h => h
    | cons c rest ih => exact fun s h => ih _ (h.call c)
  exact hrun _ (.start capacity)

end Session

/-- After any calls a cache has at most as many lexers as there is room for, and it answers a
call with the lexer that was obtained before if that one is kept, and with a new one, compiled
for the given language, if none is. A configuration that does not compile changes nothing. -/
theorem get_after_calls (configs : Nat → LexerConfig) (capacity : Nat) (calls : List Call) :
    (Session.after configs capacity calls).cache.size ≤ max capacity 1 ∧
    ∀ (language : String) (key : Nat),
      (∀ entry, Kept capacity (Session.after configs capacity calls).log key entry →
        ((Session.after configs capacity calls).cache.get language key (configs key)).1 =
          .ok entry) ∧
      ((∀ entry, ¬ Kept capacity (Session.after configs capacity calls).log key entry) →
        ∃ serial,
          (∀ entry, some (.ok entry) ∈ (Session.after configs capacity calls).log →
            entry.serial ≠ serial) ∧
          ((Session.after configs capacity calls).cache.get language key (configs key)).1 =
            (Lexer.compile language (configs key)).map (⟨key, serial, ·⟩) ∧
          ∀ lexer, Lexer.compile language (configs key) = .ok lexer →
            lexer.language = language) ∧
      (∀ x, ((Session.after configs capacity calls).cache.get language key (configs key)).1 =
          .error x →
        ((Session.after configs capacity calls).cache.get language key (configs key)).2 =
          (Session.after configs capacity calls).cache) := by
  have h := Session.recalls_after configs capacity calls
  generalize Session.after configs capacity calls = s at h
  refine ⟨?_, fun language key => ⟨?_, ?_, ?_⟩⟩
  · rw [size, h.entries_eq, List.length_take]
    exact Nat.min_le_left _ _
  · intro entry hkept
    rw [get, h.find?_eq_some_iff.mpr hkept]
  · intro hnone
    have hfind : s.cache.find? key = none := by
      -- what is stored is what the log keeps
      rw [Option.eq_none_iff_forall_ne_some]
      exact fun entry hentry => hnone entry (h.find?_eq_some_iff.mp hentry)
    refine ⟨s.cache.nextSerial, fun entry hentry => Nat.ne_of_lt (h.serial_lt entry hentry), ?_,
      fun lexer hlexer => (Lexer.compile_eq_ok_iff.mp hlexer).2.2.1⟩
    rw [get, hfind]
    cases Lexer.compile language (configs key) with
    | error x => rfl
    | ok lexer => rfl
  · intro x hx
    obtain ⟨entry, -, hget⟩ | ⟨y, -, -, hget⟩ | ⟨lexer, -, -, hget⟩ :=
      get_cases s.cache language key (configs key)
    · rw [hget] at hx
      cases hx
    · rw [hget]
    · rw [hget] at hx
      cases hx

/-- A cache with room for one lexer, asked for a configuration and for one that does not compile.
The first one is answered with the lexer it has, under any language; a third one is compiled. -/
theorem get_after_calls_one_lexer :
    let configs : Nat → LexerConfig := fun key =>
      if key = 1 then { initialState := some "missing" } else {}
    let s := Session.after configs 0 [.get "a" 0, .get "b" 1]
    let lexer : Lexer := ⟨"a", #[⟨"default", []⟩], 0, [], none⟩
    Kept 0 s.log 0 ⟨0, 0, lexer⟩ ∧ (s.cache.get "c" 0 (configs 0)).1 = .ok ⟨0, 0, lexer⟩ ∧
      (s.cache.get "c" 1 (configs 1)).2 = s.cache ∧
      ∃ serial, (∀ entry, some (.ok entry) ∈ s.log → entry.serial ≠ serial) ∧
        (s.cache.get "c" 2 (configs 2)).1 =
          (Lexer.compile "c" (configs 2)).map (⟨2, serial, ·⟩) := by
  intro configs s lexer
  have hlaw := (get_after_calls configs 0 [.get "a" 0, .get "b" 1]).2 "c"
  have hkept : Kept 0 s.log 0 ⟨0, 0, lexer⟩ := ⟨rfl, by decide⟩
  have hnone : ∀ entry, ¬ Kept 0 s.log 2 entry := fun entry hentry => nomatch hentry.1
  obtain ⟨serial, hserial, hget, -⟩ := (hlaw 2).2.1 hnone
  exact ⟨hkept, (hlaw 0).1 _ hkept, (hlaw 1).2.2 _ rfl, serial, hserial, hget⟩

end Polyglot.LexerCache
