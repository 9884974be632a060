import Polyglot.Json.Lexeme

/-!
# `Polyglot.Json.Parser`: from lexemes to documents

`Json.parse?` reads a text as a document: one value, with nothing but blanks around it.
Containers may nest 127 deep; what is nested deeper has to be well formed too, and is
`unread`. Values are read by recursive descent, one unit of fuel for each lexeme.
-/

set_option autoImplicit false

namespace Polyglot.Json

/-- How deeply containers may nest for their contents to be read. -/
def maxDepth : Nat := 127

/-- A container at the given depth, counted from one. -/
def Raw.atDepth (depth : Nat) (container : Raw) : Raw :=
  if depth ≤ maxDepth then container else .unread

/-- The object with the given members. An object with an unreadable name is unreadable. -/
def Raw.ofMembers (members : List (Option String × Raw)) : Raw :=
  match members.mapM fun m => m.1.map fun name => (name, m.2) with
  | some members => .obj members
  | none => .unread

mutual

/-- The value at the start of the lexemes, inside `depth` containers. -/
def parseValue : Nat → Nat → List Lexeme → Option (Raw × List Lexeme)
  | 0, _, _ => none
  | fuel + 1, depth, lexemes =>
    match lexemes with
    | .null :: rest => some (.null, rest)
    | .bool b :: rest => some (.bool b, rest)
    | .num (some n) :: rest => some (.num n, rest)
    | .num none :: rest => some (.unread, rest)
    | .str (some s) :: rest => some (.str s, rest)
    | .str none :: rest => some (.unread, rest)
    | .openBracket :: .closeBracket :: rest => some (Raw.atDepth (depth + 1) (.arr []), rest)
    | .openBracket :: rest =>
      (parseItems fuel (depth + 1) rest).map fun (items, rest) =>
        (Raw.atDepth (depth + 1) (.arr items), rest)
    | .openBrace :: .closeBrace :: rest => some (Raw.atDepth (depth + 1) (.obj []), rest)
    | .openBrace :: rest =>
      (parseMembers fuel (depth + 1) rest).map fun (members, rest) =>
        (Raw.atDepth (depth + 1) (Raw.ofMembers members), rest)
    | _ => none

/-- The items of a list up to its closing bracket; at least one. -/
def parseItems : Nat → Nat → List Lexeme → Option (List Raw × List Lexeme)
  | 0, _, _ => none
  | fuel + 1, depth, lexemes =>
    match parseValue fuel depth lexemes with
    | some (item, .comma :: rest) =>
      (parseItems fuel depth rest).map fun (items, rest) => (item :: items, rest)
    | some (item, .closeBracket :: rest) => some ([item], rest)
    | _ => none

/-- The members of an object up to its closing brace; at least one. -/
def parseMembers : Nat → Nat → List Lexeme → Option (List (Option String × Raw) × List Lexeme)
  | 0, _, _ => none
  | fuel + 1, depth, lexemes =>
    match lexemes with
    | .str name :: .colon :: rest =>
      match parseValue fuel depth rest with
      | some (member, .comma :: rest) =>
        (parseMembers fuel depth rest).map fun (members, rest) => ((name, member) :: members, rest)
      | some (member, .closeBrace :: rest) => some ([(name, member)], rest)
      | _ => none
    | _ => none

end

/-- The document that the lexemes of a whole text state. -/
def document? (lexemes : List Lexeme) : Option Raw :=
  match parseValue (2 * lexemes.length + 1) 0 lexemes with
  | some (document, []) => some document
  | _ => none

/-- Read a text as a document. -/
def parse? (text : String) : Option Raw :=
  (lex? text.toList).bind document?

end Polyglot.Json
