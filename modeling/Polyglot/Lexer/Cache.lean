import Polyglot.Lexer.Basic

/-!
# `Polyglot.Lexer.Cache`: recently used lexers

Compiled lexers are kept for the configurations that were asked for last. A configuration is
known by the identity of the object that holds it, a number: equal configurations in different
objects are different. Every lexer that is compiled gets a serial number, which tells two
lexers apart and shows whether an answer came from the cache.

The entries are in order of use, the latest first. An entry that is asked for moves to the
front, a new one is put there, and what exceeds the capacity falls off at the end. A
configuration that does not compile changes nothing.
-/

set_option autoImplicit false

namespace Polyglot

/-- A compiled lexer with the identity of its configuration. -/
structure LexerCache.Entry where
  /-- The identity of the configuration. -/
  key : Nat
  /-- The serial number of the lexer. -/
  serial : Nat
  /-- The lexer. -/
  lexer : Lexer
deriving Inhabited

/-- A bounded store of compiled lexers. -/
structure LexerCache where
  /-- How many lexers are kept. -/
  capacity : Nat
  /-- The lexers, the most recently used first. -/
  entries : List LexerCache.Entry := []
  /-- The serial number of the next lexer that is compiled. -/
  nextSerial : Nat := 0
deriving Inhabited

namespace LexerCache

/-- An empty cache. At least one lexer is kept. -/
def new (capacity : Nat) : LexerCache := ⟨max capacity 1, [], 0⟩

/-- The entry of a configuration. -/
def find? (cache : LexerCache) (key : Nat) : Option Entry :=
  cache.entries.find? (·.key == key)

/-- Move the entry of a configuration to the front. -/
def touch (cache : LexerCache) (entry : Entry) : LexerCache :=
  { cache with entries := entry :: cache.entries.filter (·.key != entry.key) }

/-- The lexer of a configuration, compiled for `language` if it is not there. -/
def get (cache : LexerCache) (language : String) (key : Nat) (config : LexerConfig) :
    Except Error Entry × LexerCache :=
  match cache.find? key with
  | some entry => (.ok entry, cache.touch entry)
  | none =>
    match Lexer.compile language config with
    | .error e => (.error e, cache)
    | .ok lexer =>
      let entry : Entry := ⟨key, cache.nextSerial, lexer⟩
      (.ok entry,
        { cache with
          entries := (entry :: cache.entries).take cache.capacity
          nextSerial := cache.nextSerial + 1 })

/-- The number of lexers that are kept. -/
def size (cache : LexerCache) : Nat := cache.entries.length

/-- Drop all lexers. -/
def clear (cache : LexerCache) : LexerCache := { cache with entries := [] }

end LexerCache

end Polyglot
