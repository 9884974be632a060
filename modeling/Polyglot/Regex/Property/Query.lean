import Polyglot.Regex.Property.Age
import Polyglot.Regex.Property.Script
import Polyglot.Regex.Property.Segmentation
import Polyglot.Regex.Property.Word

/-!
# `Polyglot.Regex.Property.Query`: properties by name

What a pattern asks for between the braces of a property escape: a property, a category or a
script by its name alone, or a property and its value. Names are compared without regard to
case, blanks, hyphens and underscores, and an `is` in front does not count.
-/

set_option autoImplicit false

namespace Polyglot.Regex.Property

/-- Whether a name starts with `is`, in capital or small letters. -/
def startsWithIs : List Char → Bool
  | i :: s :: _ => i.toLower == 'i' && s.toLower == 's'
  | _ => false

/-- A name in the form in which it is compared. Characters outside ASCII are left out. The `is`
of `isc` is no prefix, since `c` alone is a name of its own. -/
def normalName (name : List Char) : List Char :=
  let short := startsWithIs name
  let bare := ((if short then name.drop 2 else name).filter fun c =>
    c.toNat < 0x80 && c != ' ' && c != '_' && c != '-').map Char.toLower
  if short && bare == ['c'] then ['i', 's', 'c'] else bare

/-- Whether a name of the standard has the given normal form. -/
def isNamed (normal : List Char) (name : String) : Bool := normalName name.toList == normal

/-- The set with a name. -/
def find? (normal : List Char) (named : List (List String × CharSet)) : Option CharSet :=
  (named.find? fun (names, _) => names.any (isNamed normal)).map (·.2)

/-- The script with a name. -/
def script? (normal : List Char) : Option Script :=
  scripts.find? fun s => s.names.any (isNamed normal)

/-- The set of a name alone: a binary property, else a category, else a script. -/
def named? (normal : List Char) : Option CharSet :=
  find? normal binaryProperties <|> find? normal categories <|>
    (script? normal).map Script.characters

/-- The set of a property with a value. -/
def valued? (property value : List Char) : Option CharSet :=
  let isOneOf (names : List String) := names.any (isNamed property)
  if isOneOf ["gc", "General_Category"] then find? value categories
  else if isOneOf ["sc", "Script"] then (script? value).map Script.characters
  else if isOneOf ["scx", "Script_Extensions"] then (script? value).map Script.extension
  else if isOneOf ["age", "Age"] then ageFrom? (isNamed value) .empty versions
  else if isOneOf ["GCB", "Grapheme_Cluster_Break"] then find? value graphemeBreaks
  else if isOneOf ["WB", "Word_Break"] then find? value wordBreaks
  else if isOneOf ["SB", "Sentence_Break"] then find? value sentenceBreaks
  else none

/-- The text before the first `sign` and the text after it, if there is one. -/
def cutAt? (sign : List Char) : List Char → Option (List Char × List Char)
  | [] => none
  | c :: rest =>
    if sign.isPrefixOf (c :: rest) then some ([], (c :: rest).drop sign.length)
    else (cutAt? sign rest).map fun (before, after) => (c :: before, after)

/-- The set of what is written between braces. A property is divided from its value by `!=`, by
a colon or by an equals sign, which all mean the same. -/
def query? (text : List Char) : Option CharSet :=
  match cutAt? ['!', '='] text <|> cutAt? [':'] text <|> cutAt? ['='] text with
  | some (property, value) => valued? (normalName property) (normalName value)
  | none => named? (normalName text)

end Polyglot.Regex.Property
