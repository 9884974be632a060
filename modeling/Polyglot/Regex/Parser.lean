import Polyglot.Regex.Basic
import Polyglot.Regex.Property.Query
import Polyglot.Unicode.Numeric

/-!
# `Polyglot.Regex.Parser`: the syntax of patterns

Patterns are written in the common syntax: literals, escapes, bracket expressions with
nested sets and set operations, groups, alternation, greedy and lazy repetition, assertions,
and flags for a group or for the rest of one. Look-around, back references and unknown
escapes are errors, as is a brace that does not count a repetition.

`Regex.parse?` reads a whole pattern from left to right with a stack of open groups. The
parts of the syntax are functions on `List Char` that return the rest of the pattern;
flags are known when a part is read, so each part is turned into its meaning at once.
Reading fails as a whole (`none`) and gives no reason.
-/

set_option autoImplicit false

namespace Polyglot.Regex

/-- The flags in force at a place of a pattern. -/
structure Flags where
  /-- Flag `i`: case variants match too. -/
  ignoreCase : Bool := false
  /-- Flag `m`: line assertions look at lines and not at the whole text. -/
  multiLine : Bool := false
  /-- Flag `s`: the dot matches line feeds. -/
  dotAll : Bool := false
  /-- Flag `U`: lazy and greedy change places. -/
  swapGreed : Bool := false
  /-- Flag `u`: classes and case variants are those of all scripts. -/
  unicode : Bool := true
  /-- Flag `R`: carriage returns end lines too. -/
  crlf : Bool := false
  /-- Flag `x`: blanks and comments are skipped. -/
  verbose : Bool := false
deriving DecidableEq, Repr

/-! ### Blanks -/

/-- Skip blanks and comments; a comment runs from a hash to the end of its line. -/
def skipBlanks (inComment : Bool) : List Char → List Char
  | [] => []
  | c :: rest =>
    if inComment then skipBlanks (c != '\n') rest
    else if Unicode.isBlank c then skipBlanks false rest
    else if c = '#' then skipBlanks true rest
    else c :: rest

/-- Skip what the flags in force leave without meaning. -/
def Flags.skip (flags : Flags) (text : List Char) : List Char :=
  if flags.verbose then skipBlanks false text else text

/-- The character after a hyphen that decides whether it denotes a range. -/
def Flags.peek (flags : Flags) (text : List Char) : Option Char :=
  if flags.verbose then
    match text.dropWhile Unicode.isBlank with
    | '#' :: comment => (comment.dropWhile Unicode.isBlank).head? <|> text.head?
    | c :: _ => some c
    | [] => text.head?
  else text.head?

/-! ### Numbers -/

/-- The value of a hexadecimal digit of either case. -/
def hexDigit? (c : Char) : Option Nat :=
  if '0' ≤ c ∧ c ≤ '9' then some (c.toNat - '0'.toNat)
  else if 'a' ≤ c ∧ c ≤ 'f' then some (c.toNat - 'a'.toNat + 10)
  else if 'A' ≤ c ∧ c ≤ 'F' then some (c.toNat - 'A'.toNat + 10)
  else none

/-- The character with a number, if there is one. -/
def charOf? (n : Nat) : Option Char := if n.isValidChar then some (Char.ofNat n) else none

/-- Exactly `count` hexadecimal digits, `value` being that of the digits in front. -/
def hexDigits? (flags : Flags) : Nat → Nat → List Char → Option (Nat × List Char)
  | 0, value, text => some (value, text)
  | _ + 1, _, [] => none
  | count + 1, value, c :: rest => do
    let d ← hexDigit? c
    hexDigits? flags count (value * 16 + d) (flags.skip rest)

/-- Hexadecimal digits up to a closing brace; at least one. -/
def hexBraced? (flags : Flags) : Nat → Option Nat → List Char → Option (Nat × List Char)
  | 0, _, _ => none
  | _ + 1, _, [] => none
  | fuel + 1, value, c :: rest =>
    if c = '\x7d' then value.map fun n => (n, flags.skip rest)
    else do
      let d ← hexDigit? c
      hexBraced? flags fuel (some (value.getD 0 * 16 + d)) (flags.skip rest)

/-- The character whose number follows, in braces or as `count` digits. -/
def hexChar? (flags : Flags) (count : Nat) (text : List Char) : Option (Char × List Char) := do
  let (n, rest) ←
    match flags.skip text with
    | '\x7b' :: rest => hexBraced? flags (rest.length + 1) none (flags.skip rest)
    | text => hexDigits? flags count 0 text
  let c ← charOf? n
  return (c, rest)

/-- A run of decimal digits, with the number of those in front. -/
def decimalDigits (flags : Flags) : Nat → Option Nat → List Char → Option Nat × List Char
  | 0, value, text => (value, text)
  | _ + 1, value, [] => (value, [])
  | fuel + 1, value, c :: rest =>
    if c.isDigit then
      decimalDigits flags fuel (some (value.getD 0 * 10 + (c.toNat - '0'.toNat))) (flags.skip rest)
    else (value, c :: rest)

/-- A repetition count with blanks around it: absent, or a number of 32 bits. -/
def count? (flags : Flags) (text : List Char) : Option (Option Nat × List Char) :=
  let text := text.dropWhile Unicode.isBlank
  let (value, rest) := decimalDigits flags (text.length + 1) none text
  if value.any (· ≥ 0x100000000) then none
  else some (value, flags.skip (rest.dropWhile Unicode.isBlank))

/-! ### Escapes -/

/-- What an escape or a single character denotes. -/
inductive Atom where
  /-- A character; `byte` if it was written as two hexadecimal digits. -/
  | literal (c : Char) (byte : Bool)
  /-- A set given by a letter or by a property. -/
  | set (s : CharSet)
  /-- An assertion. -/
  | assert (a : Assertion)
deriving Repr

/-- The characters with a meaning of their own somewhere in the syntax. -/
def isMeta (c : Char) : Bool :=
  ['\\', '.', '+', '*', '?', '(', ')', '|', '[', ']', '\x7b', '\x7d', '^', '$', '#', '&', '-',
    '~'].contains c

/-- The characters that stand for themselves after a backslash: those of ASCII but letters,
digits and angle brackets. -/
def isEscapable (c : Char) : Bool :=
  isMeta c || (c.toNat < 0x80 && !c.isAlphanum && c != '<' && c != '>')

/-- The sets that letters stand for. Outside Unicode the complement would hold bytes that are
no characters, and is refused. -/
def letterSet? (flags : Flags) (c : Char) : Option CharSet :=
  match flags.unicode, c with
  | true, 'd' => some Property.digit
  | true, 'D' => some Property.digit.compl
  | true, 's' => some Property.whiteSpace
  | true, 'S' => some Property.whiteSpace.compl
  | true, 'w' => some Property.word
  | true, 'W' => some Property.word.compl
  | false, 'd' => some CharSet.asciiDigit
  | false, 's' => some CharSet.asciiBlank
  | false, 'w' => some CharSet.asciiWord
  | _, _ => none

/-- The set with the case variants that the flags in force ask for. -/
def Flags.fold (flags : Flags) (s : CharSet) : CharSet :=
  if !flags.ignoreCase then s else if flags.unicode then s.folded else s.foldedAscii

/-- The set or its complement. Outside Unicode the complement would hold bytes that are no
characters, and is refused. -/
def Flags.negate? (flags : Flags) (negated : Bool) (s : CharSet) : Option CharSet :=
  if !negated then some s else if flags.unicode then some s.compl else none

/-- The text up to a closing brace. -/
def braced? (flags : Flags) : Nat → List Char → List Char → Option (List Char × List Char)
  | 0, _, _ => none
  | _ + 1, _, [] => none
  | fuel + 1, done, c :: rest =>
    if c = '\x7d' then some (done.reverse, rest)
    else braced? flags fuel (c :: done) (flags.skip rest)

/-- The set of a property escape, after its letter. -/
def property? (flags : Flags) (negated : Bool) (text : List Char) :
    Option (CharSet × List Char) := do
  guard flags.unicode
  let (name, rest) ←
    match flags.skip text with
    | [] => none
    | '\\' :: _ => none
    | '\x7b' :: rest => braced? flags (rest.length + 1) [] (flags.skip rest)
    | c :: rest => some ([c], flags.skip rest)
  let named ← Property.query? name
  let members ← flags.negate? negated (flags.fold named)
  return (members, rest)

/-- The letters between the braces of a named word assertion, and the rest from the first
other character on. -/
def wordName (flags : Flags) : Nat → List Char → List Char → List Char × List Char
  | 0, done, text => (done.reverse, text)
  | _ + 1, done, [] => (done.reverse, [])
  | fuel + 1, done, c :: rest =>
    if c.isAlpha || c == '-' then wordName flags fuel (c :: done) (flags.skip rest)
    else (done.reverse, c :: rest)

/-- A word boundary, after its letter: alone, or with the name of a variant in braces. Braces
around anything but a name count a repetition. -/
def wordBoundary? (flags : Flags) (text : List Char) : Option (Assertion × List Char) :=
  let ascii := !flags.unicode
  match text with
  | '\x7b' :: inner =>
    match flags.skip inner with
    | [] => none
    | c :: rest =>
      if c.isAlpha || c == '-' then
        let (name, after) := wordName flags (rest.length + 2) [] (c :: rest)
        match String.ofList name, after with
        | "start", '\x7d' :: rest => some (.word ascii .start, rest)
        | "end", '\x7d' :: rest => some (.word ascii .stop, rest)
        | "start-half", '\x7d' :: rest => some (.word ascii .startHalf, rest)
        | "end-half", '\x7d' :: rest => some (.word ascii .stopHalf, rest)
        | _, _ => none
      else some (.word ascii .boundary, text)
  | text => some (.word ascii .boundary, text)

/-- What follows a backslash. -/
def escape? (flags : Flags) : List Char → Option (Atom × List Char)
  | [] => none
  | c :: rest =>
    let ascii := !flags.unicode
    if c.isDigit then none
    else if isEscapable c then some (.literal c false, rest)
    else
      match c with
      | 'x' =>
        let byte := (flags.skip rest).head? != some '\x7b'
        (hexChar? flags 2 rest).map fun (c, rest) => (.literal c byte, rest)
      | 'u' => (hexChar? flags 4 rest).map fun (c, rest) => (.literal c false, rest)
      | 'U' => (hexChar? flags 8 rest).map fun (c, rest) => (.literal c false, rest)
      | 'p' => (property? flags false rest).map fun (s, rest) => (.set s, rest)
      | 'P' => (property? flags true rest).map fun (s, rest) => (.set s, rest)
      | 'a' => some (.literal '\x07' false, rest)
      | 'f' => some (.literal '\x0c' false, rest)
      | 't' => some (.literal '\t' false, rest)
      | 'n' => some (.literal '\n' false, rest)
      | 'r' => some (.literal '\r' false, rest)
      | 'v' => some (.literal '\x0b' false, rest)
      | 'A' => some (.assert .textStart, rest)
      | 'z' => some (.assert .textStop, rest)
      | 'b' => (wordBoundary? flags rest).map fun (a, rest) => (.assert a, rest)
      | 'B' => some (.assert (.word ascii .notBoundary), rest)
      | '<' => some (.assert (.word ascii .start), rest)
      | '>' => some (.assert (.word ascii .stop), rest)
      | c => (letterSet? flags c).map fun s => (.set s, rest)

/-! ### Bracket expressions -/

/-- The members of a bracket expression read so far, with their number and how deeply sets
nest in them. -/
structure Members where
  /-- The set of the members. -/
  set : CharSet := .empty
  /-- How many members there are. -/
  count : Nat := 0
  /-- The greatest nesting depth of a member. -/
  depth : Nat := 0
deriving Repr

/-- Add a member. -/
def Members.push (m : Members) (member : CharSet) (depth : Nat) : Members :=
  ⟨m.set.union member, m.count + 1, max m.depth depth⟩

/-- The nesting depth of the members as one set; a list of several counts as a level. -/
def Members.level (m : Members) : Nat := if m.count ≥ 2 then m.depth + 1 else m.depth

/-- The operations on sets. -/
inductive SetOp where
  /-- Intersection, written with two ampersands. -/
  | inter
  /-- Difference, written with two hyphens. -/
  | diff
  /-- Symmetric difference, written with two tildes. -/
  | symmDiff
deriving DecidableEq, Repr

/-- Combine two sets. -/
def SetOp.apply : SetOp → CharSet → CharSet → CharSet
  | .inter => CharSet.inter
  | .diff => CharSet.diff
  | .symmDiff => CharSet.symmDiff

/-- A bracket that is still open. -/
structure OpenSet where
  /-- The members of the bracket around it. -/
  outer : Members
  /-- Whether the set is complemented. -/
  negated : Bool
  /-- The operation whose right side is being read, with its left side and depth. -/
  pending : Option (SetOp × CharSet × Nat)
deriving Repr

/-- Finish the right side of a pending operation. Case variants are added on both sides. -/
def OpenSet.combine (o : OpenSet) (flags : Flags) (m : Members) : CharSet × Nat :=
  match o.pending with
  | none => (m.set, m.level)
  | some (op, left, depth) =>
    (op.apply (flags.fold left) (flags.fold m.set), max depth m.level + 1)

/-- A literal as a member. Outside Unicode only ASCII characters are members. -/
def memberChar? (flags : Flags) : Atom → Option Char
  | .literal c _ => if flags.unicode || c.toNat < 0x80 then some c else none
  | _ => none

/-- An atom as a member. -/
def memberSet? (flags : Flags) : Atom → Option CharSet
  | .set s => some s
  | atom => (memberChar? flags atom).map CharSet.single

/-- One character or escape inside brackets. -/
def memberAtom? (flags : Flags) : List Char → Option (Atom × List Char)
  | [] => none
  | '\\' :: rest => escape? flags rest
  | c :: rest => some (.literal c false, rest)

/-- A member: a character, an escape, or a range of two characters. A hyphen before a closing
bracket or another hyphen denotes no range. -/
def member? (flags : Flags) (text : List Char) : Option (CharSet × List Char) := do
  let (first, rest) ← memberAtom? flags text
  match flags.skip rest with
  | [] => none
  | '-' :: after =>
    let next := flags.peek after
    if next = some ']' ∨ next = some '-' then
      let members ← memberSet? flags first
      return (members, '-' :: after)
    else
      let (last, rest) ← memberAtom? flags (flags.skip after)
      let low ← memberChar? flags first
      let high ← memberChar? flags last
      guard (low ≤ high)
      return (.range low high, rest)
  | rest =>
    let members ← memberSet? flags first
    return (members, rest)

/-- Hyphens at the start of a bracket expression stand for themselves. -/
def leadingHyphens (flags : Flags) : Nat → Members → List Char → Members × List Char
  | fuel + 1, m, '-' :: rest => leadingHyphens flags fuel (m.push (.single '-') 0) (flags.skip rest)
  | _, m, text => (m, text)

/-- The start of a bracket expression, after the bracket: complemented or not, then hyphens,
or else a closing bracket, that stand for themselves. -/
def setStart? (flags : Flags) (text : List Char) : Option (Bool × Members × List Char) := do
  let (negated, text) :=
    match flags.skip text with
    | '^' :: rest => (true, flags.skip rest)
    | text => (false, text)
  let (m, text) := leadingHyphens flags (text.length + 1) {} text
  let (m, text) :=
    match text with
    | ']' :: rest => if m.count = 0 then (m.push (.single ']') 0, flags.skip rest) else (m, text)
    | text => (m, text)
  guard (!text.isEmpty)
  return (negated, m, text)

/-- A named ASCII class, after its opening bracket, and whether it is complemented. -/
def namedClass? (flags : Flags) (text : List Char) : Option (Bool × CharSet × List Char) :=
  match text with
  | ':' :: rest =>
    let (negated, rest) :=
      match rest with
      | '^' :: rest => (true, rest)
      | rest => (false, rest)
    match rest.dropWhile (· != ':') with
    | ':' :: ']' :: after => do
      let named ← CharSet.asciiClass? (String.ofList (rest.takeWhile (· != ':')))
      return (negated, flags.fold named, after)
    | _ => none
  | _ => none

/-- The rest of a bracket expression, `o` being the innermost open bracket and `around` those
around it. The result has the set, its depth and the text after the bracket. -/
def setBody? (flags : Flags) :
    Nat → OpenSet → List OpenSet → Members → List Char → Option (CharSet × Nat × List Char)
  | 0, _, _, _, _ => none
  | fuel + 1, o, around, m, text =>
    let operator (op : SetOp) (rest : List Char) :=
      let (left, depth) := o.combine flags m
      setBody? flags fuel { o with pending := some (op, left, depth) } around {} rest
    match flags.skip text with
    | [] => none
    | '[' :: rest =>
      match namedClass? flags rest with
      | some (negated, named, rest) => do
        let member ← flags.negate? negated named
        setBody? flags fuel o around (m.push member 0) rest
      | none => do
        let (negated, inner, rest) ← setStart? flags rest
        setBody? flags fuel ⟨m, negated, none⟩ (o :: around) inner rest
    | ']' :: rest => do
      let (combined, depth) := o.combine flags m
      let closed ← flags.negate? o.negated (flags.fold combined)
      match around with
      | [] => some (closed, depth + 1, rest)
      | next :: around => setBody? flags fuel next around (o.outer.push closed (depth + 1)) rest
    | '&' :: '&' :: rest => operator .inter rest
    | '-' :: '-' :: rest => operator .diff rest
    | '~' :: '~' :: rest => operator .symmDiff rest
    | text => do
      let (member, rest) ← member? flags text
      setBody? flags fuel o around (m.push member 0) rest

/-- A bracket expression, after its opening bracket. -/
def set? (flags : Flags) (text : List Char) : Option (CharSet × Nat × List Char) := do
  let (negated, m, rest) ← setStart? flags text
  setBody? flags (rest.length + 1) ⟨{}, negated, none⟩ [] m rest

/-! ### Groups and flags -/

/-- The letters of flags. -/
def flagLetters : List Char := ['i', 'm', 's', 'U', 'u', 'R', 'x']

/-- The flags of a group up to a colon or a closing parenthesis, `none` standing for the
minus. No flag comes twice, and a minus has flags after it. -/
def flagItems? (seen : List (Option Char)) :
    List Char → Option (List (Option Char) × Char × List Char)
  | [] => none
  | c :: rest =>
    if c = ':' ∨ c = ')' then
      if seen.head? = some none then none else some (seen.reverse, c, rest)
    else
      let item := if c = '-' then none else some c
      if seen.contains item then none
      else if c = '-' ∨ flagLetters.contains c then flagItems? (item :: seen) rest
      else none

/-- Set or clear one flag. -/
def Flags.set (flags : Flags) (letter : Char) (value : Bool) : Flags :=
  match letter with
  | 'i' => { flags with ignoreCase := value }
  | 'm' => { flags with multiLine := value }
  | 's' => { flags with dotAll := value }
  | 'U' => { flags with swapGreed := value }
  | 'u' => { flags with unicode := value }
  | 'R' => { flags with crlf := value }
  | 'x' => { flags with verbose := value }
  | _ => flags

/-- Apply flags: those after the minus are cleared. -/
def Flags.apply (flags : Flags) (value : Bool) : List (Option Char) → Flags
  | [] => flags
  | none :: rest => flags.apply false rest
  | some letter :: rest => (flags.set letter value).apply value rest

/-- What a parenthesis opens. -/
inductive Opening where
  /-- Flags for the rest of the group around. -/
  | directive (flags : Flags)
  /-- A group with its own flags, captured or not. -/
  | group (flags : Flags) (captured : Bool)
  /-- A captured group with a name. -/
  | named (name : String)
deriving Repr

/-- Whether a character may stand in the name of a group, at its start or later. -/
def isNameChar (atStart : Bool) (c : Char) : Bool :=
  if atStart then c == '_' || Unicode.isAlphabetic c
  else c == '_' || c == '.' || c == '[' || c == ']' || Unicode.isAlphanumeric c

/-- The name of a group, up to its closing angle bracket. -/
def groupName? (done : List Char) : List Char → Option (String × List Char)
  | [] => none
  | c :: rest =>
    if c = '>' then
      if done.isEmpty then none else some (String.ofList done.reverse, rest)
    else if isNameChar done.isEmpty c then groupName? (c :: done) rest
    else none

/-- What follows an opening parenthesis. -/
def opening? (flags : Flags) (text : List Char) : Option (Opening × List Char) :=
  match flags.skip text with
  | '?' :: '=' :: _ => none
  | '?' :: '!' :: _ => none
  | '?' :: '<' :: '=' :: _ => none
  | '?' :: '<' :: '!' :: _ => none
  | '?' :: 'P' :: '<' :: rest => (groupName? [] rest).map fun (name, rest) => (.named name, rest)
  | '?' :: '<' :: rest => (groupName? [] rest).map fun (name, rest) => (.named name, rest)
  | '?' :: rest => do
    let (items, stop, rest) ← flagItems? [] rest
    if stop = ')' then
      if items.isEmpty then none else some (.directive (flags.apply true items), rest)
    else some (.group (flags.apply true items) false, rest)
  | rest => some (.group flags true, rest)

/-! ### Repetition -/

/-- A repetition: least count, greatest count, and whether it is greedy as written. -/
structure Repetition where
  /-- The least count. -/
  least : Nat
  /-- The greatest count, if there is one. -/
  most : Option Nat
  /-- Whether no question mark follows. -/
  greedy : Bool
deriving DecidableEq, Repr

/-- Whether a question mark makes a repetition lazy, and the text after it. -/
def laziness : List Char → Bool × List Char
  | '?' :: rest => (false, rest)
  | rest => (true, rest)

/-- A counted repetition, after its opening brace. -/
def counted? (flags : Flags) (text : List Char) : Option (Repetition × List Char) := do
  let (least, rest) ← count? flags (flags.skip text)
  let least ← least
  let (most, rest) ←
    match rest with
    | ',' :: rest =>
      match flags.skip rest with
      | '\x7d' :: rest => some (none, '\x7d' :: rest)
      | rest => do
        let (most, rest) ← count? flags rest
        let most ← most
        some (some most, rest)
    | rest => some (some least, rest)
  match rest with
  | '\x7d' :: rest =>
    guard (most.all (least ≤ ·))
    let (greedy, rest) := laziness (flags.skip rest)
    return (⟨least, most, greedy⟩, rest)
  | _ => none

/-! ### Patterns -/

/-- One part of a sequence. -/
inductive Item where
  /-- An expression, with how deeply it nests. -/
  | expr (r : Regex) (depth : Nat)
  /-- A change of flags, which matches nothing and cannot be repeated. -/
  | directive
deriving Repr

/-- The expression of an item, if it has one. -/
def Item.regex? : Item → Option Regex
  | .expr r _ => some r
  | .directive => none

/-- How deeply an item nests. -/
def Item.depth : Item → Nat
  | .expr _ depth => depth
  | .directive => 0

/-- A group that is being read: the items of its current branch and the branches before,
both last first. -/
structure Branches where
  /-- The items of the current branch. -/
  items : List Item := []
  /-- The earlier branches with their depths. -/
  done : List (Regex × Nat) := []
deriving Repr

/-- The current branch as one expression, with its depth; several items count as a level. -/
def Branches.branch (b : Branches) : Regex × Nat :=
  let items := b.items.reverse
  let depth := items.foldl (fun d item => max d item.depth) 0
  (seqAll (items.filterMap Item.regex?), if items.length ≥ 2 then depth + 1 else depth)

/-- The group as one expression, with its depth; several branches count as a level. -/
def Branches.close (b : Branches) : Regex × Nat :=
  let branches := (b.branch :: b.done).reverse
  let depth := branches.foldl (fun d branch => max d branch.2) 0
  (altAll (branches.map (·.1)), if branches.length ≥ 2 then depth + 1 else depth)

/-- Add an item to the current branch. -/
def Branches.push (b : Branches) (item : Item) : Branches := { b with items := item :: b.items }

/-- Repeat the last item. There has to be one, and not a change of flags. -/
def Branches.repeatLast? (b : Branches) (flags : Flags) (r : Repetition) : Option Branches :=
  match b.items with
  | .expr body depth :: items =>
    let greedy := r.greedy != flags.swapGreed
    some { b with items := .expr (body.repeated r.least r.most greedy) (depth + 1) :: items }
  | _ => none

/-- A group that waits for a group inside of it to end. -/
structure Waiting where
  /-- What of it has been read. -/
  branches : Branches
  /-- Its flags. -/
  flags : Flags
  /-- Whether the group inside of it is captured. -/
  captured : Bool
deriving Repr

/-- An atom as an expression. -/
def Atom.regex? (flags : Flags) : Atom → Option Regex
  | .literal c byte =>
    if flags.unicode then
      some (.set (if flags.ignoreCase then .ofList (Property.caseVariants c) else .single c))
    else if byte && c.toNat ≥ 0x80 then none
    else some (.set (flags.fold (.single c)))
  | .set s => some (.set s)
  | .assert a => some (.assert a)

/-- The set of the dot. Outside Unicode it would hold bytes that are no characters. -/
def dot? (flags : Flags) : Option CharSet :=
  if !flags.unicode then none
  else if flags.dotAll then some .any
  else if flags.crlf then some (CharSet.ofList ['\r', '\n']).compl
  else some (CharSet.single '\n').compl

/-- The assertion of the circumflex. -/
def Flags.lineStart (flags : Flags) : Assertion :=
  if !flags.multiLine then .textStart else if flags.crlf then .crlfStart else .lineStart

/-- The assertion of the dollar sign. -/
def Flags.lineStop (flags : Flags) : Assertion :=
  if !flags.multiLine then .textStop else if flags.crlf then .crlfStop else .lineStop

/-- A part of a sequence that is no group, branch or repetition. -/
def item? (flags : Flags) : List Char → Option (Item × List Char)
  | [] => none
  | '[' :: rest => do
    let (members, depth, rest) ← set? flags rest
    return (.expr (.set members) depth, rest)
  | '\\' :: rest => do
    let (atom, rest) ← escape? flags rest
    let r ← atom.regex? flags
    return (.expr r 0, rest)
  | '.' :: rest => do
    let members ← dot? flags
    return (.expr (.set members) 0, rest)
  | '^' :: rest => some (.expr (.assert flags.lineStart) 0, rest)
  | '$' :: rest => some (.expr (.assert flags.lineStop) 0, rest)
  | c :: rest => do
    let r ← (Atom.literal c false).regex? flags
    return (.expr r 0, rest)

/-- The expression of a pattern and its depth. `b` is the group being read, `flags` are those
in force, `waiting` the groups around it and `names` the names of groups so far. Each step
reads at least one character. -/
def pattern? : Nat → Branches → Flags → List Waiting → List String → List Char →
    Option (Regex × Nat)
  | 0, _, _, _, _, _ => none
  | fuel + 1, b, flags, waiting, names, text =>
    let repeated (r : Repetition) (rest : List Char) := do
      let b ← b.repeatLast? flags r
      pattern? fuel b flags waiting names rest
    match flags.skip text with
    | [] => if waiting.isEmpty then some b.close else none
    | '(' :: rest => do
      let (opened, rest) ← opening? flags rest
      match opened with
      | .directive inner => pattern? fuel (b.push .directive) inner waiting names rest
      | .group inner captured => pattern? fuel {} inner (⟨b, flags, captured⟩ :: waiting) names rest
      | .named name =>
        if names.contains name then none
        else pattern? fuel {} flags (⟨b, flags, true⟩ :: waiting) (name :: names) rest
    | ')' :: rest =>
      match waiting with
      | [] => none
      | outer :: waiting =>
        let (r, depth) := b.close
        let r := if outer.captured then .group r else r
        pattern? fuel (outer.branches.push (.expr r (depth + 1))) outer.flags waiting names rest
    | '|' :: rest => pattern? fuel { done := b.branch :: b.done } flags waiting names rest
    | '?' :: rest => let (greedy, rest) := laziness rest; repeated ⟨0, some 1, greedy⟩ rest
    | '*' :: rest => let (greedy, rest) := laziness rest; repeated ⟨0, none, greedy⟩ rest
    | '+' :: rest => let (greedy, rest) := laziness rest; repeated ⟨1, none, greedy⟩ rest
    | '\x7b' :: rest => do
      let (r, rest) ← counted? flags rest
      repeated r rest
    | text => do
      let (item, rest) ← item? flags text
      pattern? fuel (b.push item) flags waiting names rest

/-- How deeply a pattern may nest. -/
def maxNesting : Nat := 250

/-- Read a pattern. -/
def parse? (text : List Char) : Option Regex := do
  let (r, depth) ← pattern? (text.length + 1) {} {} [] [] text
  guard (depth ≤ maxNesting)
  return r

end Polyglot.Regex
