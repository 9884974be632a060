import Polyglot.Token

/-!
# `Polyglot.Block`: pairs of brackets

Block rules name pairs of texts that open and close a block. `blockSpans` walks over the
tokens with a stack of open blocks. A token that closes a block which is open ends the nearest
one of that name, and all blocks opened since then are dropped; a token that opens a block is
put on the stack; other tokens, and tokens that close a block which is not open, do nothing.
Of several rules that apply to a token, the first one counts.
-/

set_option autoImplicit false

namespace Polyglot

/-- A pair of texts around a block. -/
structure BlockRule where
  /-- The name of the block. -/
  name : String
  /-- The text of the opening token. -/
  opening : String
  /-- The text of the closing token. -/
  closing : String
deriving DecidableEq, Repr, Inhabited

/-- A block that was opened and closed. -/
structure BlockSpan where
  /-- The name of the block. -/
  name : String
  /-- The index of the opening token. -/
  openIndex : Nat
  /-- The index of the closing token. -/
  closeIndex : Nat
  /-- How many blocks were open at the opening token. -/
  depth : Nat
deriving DecidableEq, Repr, Inhabited

/-- A block that is open. -/
structure OpenBlock where
  /-- The name of the block. -/
  name : String
  /-- The index of the opening token. -/
  openIndex : Nat
  /-- How many blocks were open before it. -/
  depth : Nat
deriving DecidableEq, Repr, Inhabited

/-- The rule whose block a token closes: the first with that closing text whose block is
open. -/
def closingRule? (rules : List BlockRule) (stack : List OpenBlock) (value : String) :
    Option BlockRule :=
  rules.find? fun rule => rule.closing == value && stack.any (·.name == rule.name)

/-- Close the nearest open block of a name: that block, and the blocks below it. -/
def closeNearest? (name : String) : List OpenBlock → Option (OpenBlock × List OpenBlock)
  | [] => none
  | block :: below => if block.name = name then some (block, below) else closeNearest? name below

/-- The effect of the token at an index on the stack of open blocks, and the block it ends. -/
def blockStep (rules : List BlockRule) (stack : List OpenBlock) (index : Nat) (value : String) :
    List OpenBlock × Option BlockSpan :=
  match closingRule? rules stack value with
  | some rule =>
    match closeNearest? rule.name stack with
    | some (block, below) => (below, some ⟨rule.name, block.openIndex, index, block.depth⟩)
    | none => (stack, none)
  | none =>
    match rules.find? (·.opening == value) with
    | some rule => (⟨rule.name, index, stack.length⟩ :: stack, none)
    | none => (stack, none)

/-- The blocks that the tokens from an index on end, in the order of their ends. -/
def closedBlocks (rules : List BlockRule) (stack : List OpenBlock) (index : Nat) :
    List String → List BlockSpan
  | [] => []
  | value :: rest =>
    let (stack, span) := blockStep rules stack index value
    span.toList ++ closedBlocks rules stack (index + 1) rest

/-- The blocks among tokens with the given texts, in the order of their opening tokens. -/
def blockSpansOf (rules : List BlockRule) (values : List String) : List BlockSpan :=
  (closedBlocks rules [] 0 values).mergeSort fun a b => a.openIndex ≤ b.openIndex

/-- The blocks among tokens, in the order of their opening tokens. -/
def blockSpans (tokens : List Token) (rules : List BlockRule) : List BlockSpan :=
  blockSpansOf rules (tokens.map (·.value))

end Polyglot
