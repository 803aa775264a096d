import FencedDiff.Text.Span

/-!
# Blocks

A block is a fenced diff: `span` covers its fences and all between, `body` the lines between the
fences. Blocks are well placed in a document when each lies within it, each body within its span,
and no block begins before the one before it ends. `checkPlacement` decides this in one pass, which
remembers only where the last block ended.
-/

namespace FencedDiff

/-- A fenced diff in a document. -/
structure Block where
  /-- From the first byte of the opening fence's line to the end of the closing fence's line. -/
  span : Span
  /-- The lines between the fences. -/
  body : Span
  /-- The number of the opening fence's line, counted from zero. -/
  startLine : Nat
  /-- The number of the closing fence's line. -/
  endLine : Nat
  /-- The number of spaces before the opening fence. -/
  indent : Nat
  deriving DecidableEq, Repr, Inhabited

inductive PlacementError where
  /-- A span is inverted or does not end within the document's `length` bytes. -/
  | outOfBounds (span : Span) (length : Nat)
  /-- A body is inverted or leaves the block's span. -/
  | bodyOutside (body span : Span)
  /-- A block begins before `previousEnd`, where the one before it ends. -/
  | overlap (span : Span) (previousEnd : Nat)
  deriving DecidableEq, Repr

def PlacementError.message : PlacementError → String
  | .outOfBounds span length =>
    "block span out of bounds: " ++ span.describe ++
      " (document len: " ++ toString length ++ ")"
  | .bodyOutside body span =>
    "body span not contained in block span: body " ++ body.describe ++
      ", block " ++ span.describe
  | .overlap span previousEnd =>
    "block " ++ span.describe ++ " overlaps or precedes the previous block ending at " ++
      toString previousEnd

/-- Checks the blocks of a document of `length` bytes that come after byte `previousEnd`. The first
block that is wrong is reported, its bounds before its body before its order. -/
def checkPlacementFrom (length previousEnd : Nat) : List Block → Except PlacementError Unit
  | [] => .ok ()
  | b :: rest =>
    if b.span.stop < b.span.start || length < b.span.stop then
      .error (.outOfBounds b.span length)
    else if b.body.stop < b.body.start || !b.span.contains b.body then
      .error (.bodyOutside b.body b.span)
    else if b.span.start < previousEnd then .error (.overlap b.span previousEnd)
    else checkPlacementFrom length b.span.stop rest

def checkPlacement (length : Nat) (blocks : List Block) : Except PlacementError Unit :=
  checkPlacementFrom length 0 blocks

end FencedDiff
