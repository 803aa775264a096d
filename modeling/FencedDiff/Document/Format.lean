import FencedDiff.Body.Realign
import FencedDiff.Document.Splice
import FencedDiff.Fence.Scan

/-!
# Formatting a document

A pass finds the blocks of a document, realigns their bodies and puts back those that changed. It
answers the whole document or an error, never a part. A scanner that gives up is no error: the
document then passes through as it is.
-/

namespace FencedDiff

structure Report where
  blocksFound : Nat := 0
  blocksChanged : Nat := 0
  linesChanged : Nat := 0
  /-- The scanner gave up, and the document was left alone. -/
  passthrough : Bool := false
  deriving DecidableEq, Repr

def Report.changed (r : Report) : Bool := 0 < r.linesChanged

structure Formatted where
  text : Bytes
  report : Report
  deriving DecidableEq, Repr

inductive FormatError where
  /-- The document has `length` bytes, more than allowed. -/
  | documentTooLarge (length max : Nat)
  /-- A block's fence is too deep. -/
  | indentTooLarge (cause : IndentTooLarge)
  /-- The scanner gave up. -/
  | scanFailed (cause : LimitExceeded)
  /-- Blocks that are not well placed. -/
  | misplaced (cause : PlacementError)
  deriving DecidableEq, Repr

def FormatError.message : FormatError → String
  | .documentTooLarge length max =>
    "document is " ++ toString length ++ " bytes, larger than the " ++ toString max ++
      " byte limit"
  | .indentTooLarge cause => cause.message
  | .scanFailed cause => "scan failed: " ++ cause.message
  | .misplaced cause => "internal invariant violated: " ++ cause.message

/-- Whether a pass answers the document as it is instead of the error. -/
def FormatError.isRecoverable : FormatError → Bool
  | .scanFailed _ => true
  | .documentTooLarge _ _ | .indentTooLarge _ | .misplaced _ => false

/-- Realigns the bodies of blocks of a text, in order, up to the first that is refused. -/
def realignBlocks (options : Options) (text : Array UInt8) :
    List Block → Except IndentTooLarge (List (Block × Realigned))
  | [] => .ok []
  | b :: blocks => do
    let realigned ← realignBody options b.indent (b.body.sliceArray text)
    let others ← realignBlocks options text blocks
    return (b, realigned) :: others

def changedLinesIn : List (Block × Realigned) → Nat
  | [] => 0
  | r :: rest => r.2.changedLines + changedLinesIn rest

/-- Formats a document whose blocks have been found. Without blocks there is nothing to realign, and
where no body changed nothing to splice: the document is then answered as it is. -/
def formatBlocks (options : Options) (text : Bytes) (blocks : List Block) :
    Except FormatError Formatted := do
  (checkPlacement text.length blocks).mapError .misplaced
  if blocks.isEmpty then return { text, report := {} }
  else
    let realigned ← (realignBlocks options text.toArray blocks).mapError .indentTooLarge
    let touched := realigned.filter fun r => 0 < r.2.changedLines
    let report : Report :=
      { blocksFound := blocks.length
        blocksChanged := touched.length
        linesChanged := changedLinesIn touched }
    if touched.isEmpty then return { text, report }
    else
      let out ← (splice text (touched.map fun r => ⟨r.1, r.2.text⟩)).mapError .misplaced
      return { text := out, report }

def format (options : Options) (text : Bytes) : Except FormatError Formatted :=
  let max := options.limits.maxDocumentBytes.toNat
  if max < text.length then .error (.documentTooLarge text.length max)
  else
    match (scan options text).mapError FormatError.scanFailed with
    | .error e =>
      if e.isRecoverable then .ok { text, report := { passthrough := true } } else .error e
    | .ok blocks => formatBlocks options text blocks

end FencedDiff
