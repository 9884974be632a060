import Polyglot.Json.Basic

/-!
# `Polyglot.Json.Decode`: reading documents into data

The rules by which a document states a record, an enumeration or a table. They are strict:
no value is converted into another kind, and `null` stands only for an absent optional
field. Reading fails as a whole (`none`) and gives no reason.

* A record is an object, or a list of its fields in declaration order (`Raw.fields?`). An
  unknown member is skipped unread, a known member given twice is an error, and a list may
  leave out fields at its end.
* A tagged alternative is a record with one more field, first in the list form, that names
  the alternative (`Raw.tagged?`). It is read as a whole before its parts are, so every part
  of it must have a value; inside of it a tag may also be the number of the alternative.
  Alternatives that may hold others of their type are read from the outside in (`Raw.nested?`).
* A plain alternative is its name, or an object that maps the name to `null` (`Raw.choice?`).
-/

set_option autoImplicit false

namespace Polyglot.Json.Raw

universe u

variable {α : Type u}

/-! ### Plain values -/

/-- A string. -/
def string? : Raw → Option String
  | .str s => some s
  | _ => none

/-- A truth value. -/
def bool? : Raw → Option Bool
  | .bool b => some b
  | _ => none

/-- A natural number of at most `bits` binary digits, written without fraction or exponent. -/
def word? (bits : Nat) : Raw → Option Nat
  | .num (.int n) => if 0 ≤ n ∧ n.toNat < Nat.pow 2 bits then some n.toNat else none
  | _ => none

/-- A string of exactly one code point. -/
def char? : Raw → Option Char
  | .str s =>
    match s.toList with
    | [c] => some c
    | _ => none
  | _ => none

/-- A list. -/
def list? (item : Raw → Option α) : Raw → Option (List α)
  | .arr items => items.mapM item
  | _ => none

/-- A table: an object whose member names are free; of equal names the last counts. -/
def table? (value : Raw → Option α) : Raw → Option (Table α)
  | .obj members =>
    (members.mapM fun m => (value m.2).map fun v => (m.1, v)).map Table.ofList
  | _ => none

/-! ### Records -/

/-- The fields of a record in declaration order, absent ones as `none`. -/
def fields? (names : List String) : Raw → Option (List (Option Raw))
  | .arr items =>
    if items.length ≤ names.length then
      some (items.map some ++ List.replicate (names.length - items.length) none)
    else none
  | .obj members =>
    names.mapM fun name =>
      match members.filter (·.1 == name) with
      | [] => some none
      | [m] => some (some m.2)
      | _ => none
  | _ => none

/-- A field that must be given. -/
def required (value : Raw → Option α) : Option Raw → Option α
  | some r => value r
  | none => none

/-- A field with a default. -/
def withDefault (default : α) (value : Raw → Option α) : Option Raw → Option α
  | some r => value r
  | none => some default

/-- A field that may be absent or `null`. -/
def optional (value : Raw → Option α) : Option Raw → Option (Option α)
  | some .null => some none
  | some r => (value r).map some
  | none => some none

/-! ### Alternatives -/

/-- A plain alternative. Inside a tagged alternative (`inner`) an empty object may stand for
the `null`. -/
def choice? (inner : Bool) (alternative : String → Option α) : Raw → Option α
  | .str name => alternative name
  | .obj [(name, .null)] => alternative name
  | .obj [(name, .obj [])] => if inner then alternative name else none
  | _ => none

/-- The tag of a tagged alternative and the record of its other fields. -/
def tagged? (key : String) : Raw → Option (Raw × Raw)
  | .arr (tag :: rest) => some (tag, .arr rest)
  | .obj members =>
    match members.filter (·.1 == key) with
    | [m] => some (m.2, .obj (members.filter (·.1 != key)))
    | _ => none
  | _ => none

/-- The name of a tagged alternative out of the list of names. Inside another tagged
alternative (`inner`) its number in that list serves as well. -/
def tag? (inner : Bool) (names : List String) : Raw → Option String
  | .str name => if names.contains name then some name else none
  | .num (.int n) => if inner ∧ 0 ≤ n then names[n.toNat]? else none
  | _ => none

/-- Whether every part of a document has a value. -/
def isRead (r : Raw) : Bool := r.value?.isSome

mutual

/-- How deeply the containers of a document nest. -/
def depth : Raw → Nat
  | .arr items => itemsDepth items + 1
  | .obj members => membersDepth members + 1
  | _ => 0

/-- The greatest depth of an item. -/
def itemsDepth : List Raw → Nat
  | [] => 0
  | item :: rest => max (depth item) (itemsDepth rest)

/-- The greatest depth of a member. -/
def membersDepth : List (String × Raw) → Nat
  | [] => 0
  | (_, member) :: rest => max (depth member) (membersDepth rest)

end

/-! ### Alternatives inside alternatives -/

/-- A tagged alternative out of the list of names, which may hold others of its type, from a
document that nests less deeply than the fuel. `alternative` reads the fields of the one with a
name, given a reader of those inside. -/
def nestedAt? (key : String) (names : List String)
    (alternative : (Raw → Option α) → String → Raw → Option α) : Nat → Bool → Raw → Option α
  | 0, _, _ => none
  | fuel + 1, inner, r =>
    (r.tagged? key).bind fun (tag, body) => (tag? inner names tag).bind fun name =>
      alternative (nestedAt? key names alternative fuel true) name body

/-- A tagged alternative out of the list of names, which may hold others of its type. Those inside
are read one level of the document at a time, so the depth of the document is fuel enough. -/
def nested? (key : String) (names : List String)
    (alternative : (Raw → Option α) → String → Raw → Option α) (inner : Bool) (r : Raw) :
    Option α :=
  nestedAt? key names alternative (r.depth + 1) inner r

end Polyglot.Json.Raw
