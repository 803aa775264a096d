import FencedDiff.Fence.Block

/-!
# Splicing

Puts new bodies into a document. All places are counted in the old document, so the new bodies do
not move each other: the result is the text between consecutive bodies and the new bodies in turn.
-/

namespace FencedDiff

/-- A block and the body it is to have. -/
structure Edit where
  block : Block
  body : Bytes
  deriving DecidableEq, Repr

/-- Replaces bodies in `rest`, the part of a document from byte `pos` on. -/
def spliceFrom (pos : Nat) (rest : Bytes) : List Edit → Bytes
  | [] => rest
  | e :: edits =>
    rest.take (e.block.body.start - pos) ++ e.body ++
      spliceFrom e.block.body.stop (rest.drop (e.block.body.stop - pos)) edits

/-- The document with the body of every edit replaced. Edits that are not well placed are refused;
without edits there is nothing to check. -/
def splice (text : Bytes) (edits : List Edit) : Except PlacementError Bytes :=
  match edits with
  | [] => .ok text
  | _ => (checkPlacement text.length (edits.map Edit.block)).map fun _ => spliceFrom 0 text edits

end FencedDiff
