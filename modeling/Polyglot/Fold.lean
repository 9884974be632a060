import Polyglot.Block

/-!
# `Polyglot.Fold`: regions that can be folded away

A region is the lines of a block whose name is listed, or of a comment. It folds if it has
enough lines. `folds` answers with the regions by start line; of those that start on one line
the longest comes first, and no region comes twice.
-/

set_option autoImplicit false

namespace Polyglot

/-- Which regions fold. -/
structure Folding where
  /-- The names of blocks that fold. -/
  blocks : List String := []
  /-- Whether comments fold. -/
  comments : Bool := false
  /-- The least number of lines of a region. -/
  minLines : Nat := 2
deriving DecidableEq, Repr, Inhabited

/-- A region that can be folded away. -/
structure Fold where
  /-- The first line. -/
  startLine : Nat
  /-- The last line. -/
  stopLine : Nat
  /-- The name of the block, or `comment`. -/
  kind : String
deriving DecidableEq, Repr, Inhabited

namespace Fold

/-- How many lines a region has, counted in 32-bit words. -/
def lines (f : Fold) : Nat := (f.stopLine - f.startLine + 1) % Nat.pow 2 32

/-- The order of regions: by start line, then longest first, then by kind. -/
def before (a b : Fold) : Bool :=
  if a.startLine ≠ b.startLine then a.startLine < b.startLine
  else if a.stopLine ≠ b.stopLine then b.stopLine < a.stopLine
  else a.kind ≤ b.kind

/-- A list without the items that equal the one before them. -/
def dropRepeats : List Fold → List Fold
  | [] => []
  | f :: rest =>
    match dropRepeats rest with
    | [] => [f]
    | g :: others => if f = g then g :: others else f :: g :: others

end Fold

/-- The region of a block, if its tokens exist. -/
def BlockSpan.fold? (tokens : Array Token) (span : BlockSpan) : Option Fold := do
  let opening ← tokens[span.openIndex]?
  let closing ← tokens[span.closeIndex]?
  return ⟨opening.range.start.line, closing.range.stop.line, span.name⟩

/-- The region of a token, as a comment. -/
def Token.commentFold (token : Token) : Fold :=
  ⟨token.range.start.line, token.range.stop.line, "comment"⟩

/-- The regions of blocks and comments, in any order and of any length. -/
def foldCandidates (tokens : Array Token) (spans : List BlockSpan) (folding : Folding) :
    List Fold :=
  let blocks := (spans.filter fun span => folding.blocks.contains span.name).filterMap
    (·.fold? tokens)
  let comments := (tokens.toList.filter fun token => folding.comments && token.category == .comment).map
    Token.commentFold
  blocks ++ comments

/-- The regions that fold. A region has at least one line, whatever the least number is. -/
def folds (tokens : List Token) (spans : List BlockSpan) (folding : Folding) : List Fold :=
  let candidates := foldCandidates tokens.toArray spans folding
  Fold.dropRepeats
    ((candidates.filter fun f => max folding.minLines 1 ≤ f.lines).mergeSort Fold.before)

end Polyglot
