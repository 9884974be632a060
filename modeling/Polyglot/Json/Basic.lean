import Polyglot.Binary64
import Polyglot.Table

/-!
# `Polyglot.Json.Basic`: values, and documents as they are written

Profiles are exchanged as JSON. Two types stand for it:

* `Json` is a value. The fields of an object have increasing names, so equal values are
  equal terms; `Json.object` brings fields into that form.
* `Json.Raw` is a document as written: an object keeps every member in the order of the
  text, and a part that is well formed without denoting a value is `unread`. Such a part
  may stand where nobody looks at it, and spoils whatever does look at it.

`Json.Raw.value?` reads a document as a value (of members with one name the last counts) and
`Json.raw` writes a value as a document.
-/

set_option autoImplicit false

namespace Polyglot

/-- A number: an integer between `-2 ^ 63` and `2 ^ 64 - 1`, or else the nearest double. -/
inductive Json.Number where
  /-- An integer. -/
  | int (value : Int)
  /-- Anything with a fraction or an exponent, or outside the range of integers. -/
  | float (value : Binary64)
deriving DecidableEq, Repr, Inhabited

/-- A JSON value. -/
inductive Json where
  /-- The value `null`. -/
  | null
  /-- A truth value. -/
  | bool (value : Bool)
  /-- A number. -/
  | num (value : Json.Number)
  /-- A string of code points. -/
  | str (value : String)
  /-- A list. -/
  | arr (items : List Json)
  /-- An object, the names of its fields increasing. -/
  | obj (fields : List (String × Json))
deriving Repr, Inhabited, BEq

/-- A JSON document as written. -/
inductive Json.Raw where
  /-- The word `null`. -/
  | null
  /-- One of the words `true` and `false`. -/
  | bool (value : Bool)
  /-- A number. -/
  | num (value : Json.Number)
  /-- A string. -/
  | str (value : String)
  /-- A list. -/
  | arr (items : List Json.Raw)
  /-- An object, its members in the order of the text and names possibly repeated. -/
  | obj (members : List (String × Json.Raw))
  /-- A well-formed part without a value: a number beyond the largest double, a string with
  half of a surrogate pair, or a container nested too deeply. -/
  | unread
deriving Repr, Inhabited

namespace Json

/-- The object with the given fields, of which the last with a given name counts. -/
def object (fields : List (String × Json)) : Json :=
  .obj (fields.foldl (fun done f => insertSorted f.1 f.2 done) [])

/-- A natural number as a value. -/
def nat (n : Nat) : Json := .num (.int n)

/-- A list of strings as a value. -/
def strings (items : List String) : Json := .arr (items.map .str)

mutual

/-- The document that states a value. -/
def raw : Json → Raw
  | .null => .null
  | .bool b => .bool b
  | .num n => .num n
  | .str s => .str s
  | .arr items => .arr (rawItems items)
  | .obj fields => .obj (rawFields fields)

/-- The documents that state the items of a list. -/
def rawItems : List Json → List Raw
  | [] => []
  | item :: rest => raw item :: rawItems rest

/-- The members that state the fields of an object. -/
def rawFields : List (String × Json) → List (String × Raw)
  | [] => []
  | (name, field) :: rest => (name, raw field) :: rawFields rest

end

mutual

/-- The value of a document, if every part of it has one. -/
def Raw.value? : Raw → Option Json
  | .null => some .null
  | .bool b => some (.bool b)
  | .num n => some (.num n)
  | .str s => some (.str s)
  | .arr items => (Raw.itemValues? items).map .arr
  | .obj members => (Raw.memberValues? members).map object
  | .unread => none

/-- The values of the items of a list. -/
def Raw.itemValues? : List Raw → Option (List Json)
  | [] => some []
  | item :: rest => do
    let first ← Raw.value? item
    let others ← Raw.itemValues? rest
    return first :: others

/-- The values of the members of an object, under their names. -/
def Raw.memberValues? : List (String × Raw) → Option (List (String × Json))
  | [] => some []
  | (name, member) :: rest => do
    let first ← Raw.value? member
    let others ← Raw.memberValues? rest
    return (name, first) :: others

end

end Json

end Polyglot
