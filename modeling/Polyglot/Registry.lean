import Polyglot.Profile.Inherit
import Polyglot.Profile.Read
import Polyglot.Unicode.Blank
import Polyglot.Unicode.Case

/-!
# `Polyglot.Registry`: the profiles that are known

Profiles are registered under their name and under each of their file extensions. A later
registration takes over the keys that it has in common with earlier ones, so a profile can
lose its name and keep an extension.

A profile that is registered or resolved is an object with an identity (`Shared`), which the
store of compiled lexers goes by. A profile that extends nothing is resolved to itself. For any
other, the resolved profile is a new object, which is remembered until something is registered
again.
-/

set_option autoImplicit false

namespace Polyglot

/-! ### Keys -/

/-- The lower-case form of a name. -/
def lowercaseName (name : String) : String := String.ofList (Unicode.lowercase name.toList)

/-- The key of a file extension: without white space around it, then without dots in front of
it, then in lower case. -/
def extensionKey (extension : String) : String :=
  String.ofList (Unicode.lowercase ((Unicode.trim extension.toList).dropWhile (· == '.')))

/-- The last component of a path, unless it leads upwards. Empty components and those of a
single dot do not count. -/
def fileName? (path : String) : Option (List Char) :=
  match ((path.toList.splitOn '/').filter fun part => part != [] && part != ['.']).getLast? with
  | some ['.', '.'] => none
  | part => part

/-- The extension of a path: what follows the last dot of its file name, if something stands
in front of that dot. -/
def pathExtension? (path : String) : Option String := do
  let file ← fileName? path
  let backwards := file.reverse
  let after := backwards.takeWhile (· != '.')
  match backwards.drop after.length with
  | '.' :: before => if before.isEmpty then none else some (String.ofList after.reverse)
  | _ => none

/-! ### The registry -/

/-- A profile as an object that has an identity. -/
structure Shared where
  /-- The identity of the object. -/
  id : Nat
  /-- The profile. -/
  profile : Profile
deriving Inhabited

namespace Shared

/-- The first object of a list whose profile has a name. -/
def byName? (objects : List Shared) (name : String) : Option Shared :=
  objects.find? (·.profile.name == name)

/-- The object that an object is resolved to, where `lookup` finds one of `count` objects: itself
if it extends nothing, and otherwise a new one, whose identity is `fresh`. -/
def resolve (lookup : String → Option Shared) (count fresh : Nat) (s : Shared) :
    Except Error Shared :=
  if s.profile.parent.isNone then .ok s
  else (s.profile.resolve (fun name => (lookup name).map (·.profile)) count).map (⟨fresh, ·⟩)

end Shared

/-- The profiles that are known. -/
structure Registry where
  /-- The profiles by name. -/
  byName : Table Shared := ∅
  /-- The profiles by the key of a file extension. -/
  byExtension : Table Shared := ∅
  /-- Resolved profiles by the identity of the registered one. -/
  memo : List (Nat × Shared) := []
  /-- The identity of the next object. -/
  nextId : Nat := 0
deriving Inhabited

namespace Registry

/-- Register a profile as a new object. An extension with an empty key is left out. -/
def register (r : Registry) (profile : Profile) : Registry :=
  let entry : Shared := ⟨r.nextId, profile⟩
  let keys := (profile.fileExtensions.map extensionKey).filter (!·.isEmpty)
  { byName := r.byName.insert profile.name entry
    byExtension := keys.foldl (fun t key => t.insert key entry) r.byExtension
    memo := []
    nextId := r.nextId + 1 }

/-- Register several profiles one after the other. -/
def registerAll (r : Registry) (profiles : List Profile) : Registry :=
  profiles.foldl register r

/-- The profile under a name: exactly, or else in lower case. -/
def findName? (r : Registry) (name : String) : Option Shared :=
  r.byName.find? name <|> r.byName.find? (lowercaseName name)

/-- The profile under a key: by name, or else by file extension. -/
def find? (r : Registry) (key : String) : Option Shared :=
  r.findName? key <|> r.byExtension.find? (extensionKey key)

/-- A registered profile with all that it extends. -/
def inherited (r : Registry) (profile : Profile) : Except Error Profile :=
  profile.resolve (fun parent => (r.findName? parent).map (·.profile)) r.byName.size

/-- The resolved profile of a registered one. -/
def resolveShared (r : Registry) (entry : Shared) : Except Error Shared × Registry :=
  if entry.profile.parent.isNone then (.ok entry, r)
  else
    match r.memo.find? (·.1 == entry.id) with
    | some known => (.ok known.2, r)
    | none =>
      match r.inherited entry.profile with
      | .error e => (.error e, r)
      | .ok profile =>
        let resolved : Shared := ⟨r.nextId, profile⟩
        (.ok resolved, { r with memo := (entry.id, resolved) :: r.memo, nextId := r.nextId + 1 })

/-- The resolved profile under a key. -/
def resolve (r : Registry) (key : String) : Except Error Shared × Registry :=
  match r.find? key with
  | none => (.error (.unknownLanguage key), r)
  | some entry => r.resolveShared entry

/-- The resolved profile for a path. Its extension has to be registered; the key of the
extension is then looked up like any other. -/
def resolvePath (r : Registry) (path : String) : Except Error Shared × Registry :=
  match (pathExtension? path).map extensionKey with
  | some key =>
    if (r.byExtension.find? key).isSome then r.resolve key
    else (.error (.unknownLanguage path), r)
  | none => (.error (.unknownLanguage path), r)

/-- The registered names in increasing order. -/
def names (r : Registry) : List String := r.byName.keys

/-- The registered extensions in increasing order, each with a dot. -/
def extensions (r : Registry) : List String := r.byExtension.keys.map ("." ++ ·)

/-- The number of registered names. -/
def size (r : Registry) : Nat := r.byName.size

/-- Whether nothing is registered. -/
def isEmpty (r : Registry) : Bool := r.byName.isEmpty

end Registry

end Polyglot
