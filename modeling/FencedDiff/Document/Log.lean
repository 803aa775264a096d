import FencedDiff.Document.History
import FencedDiff.Text.Preview
import FencedDiff.Text.Quoted
import FencedDiff.Text.Utf8

/-!
# What is logged

The records that a pass writes to the log follow from its input, so they are a function of their own
and formatting itself stays free of them. An opening fence that is never closed is noted at the end
of a line scan, a block just before its body is realigned, and a scan that gave up instead of both.
-/

namespace FencedDiff

/-- How much a record matters, from most to least. -/
inductive Level where
  | error
  | warn
  | info
  | debug
  | trace
  deriving DecidableEq, Repr

structure LogRecord where
  level : Level
  /-- The part of the program that writes it. -/
  target : String
  message : String
  deriving DecidableEq, Repr

def formatTarget : String := "diffence_engine::format"

def scannerTarget : String := "diffence_engine::parsing::builder"

def LineScanner.records (s : LineScanner) : List LogRecord :=
  match s.unclosed? with
  | none => []
  | some line =>
    [⟨.debug, scannerTarget,
      "diff fence opened on line " ++ toString line ++ " is never closed"⟩]

def previewBytes : Nat := 40

/-- A text as records show it. Blocks lie between whole characters, so a cut out of a text that can
be decoded can be decoded too. -/
def quotedBytes (s : Bytes) : String :=
  quoted (String.ofList ((Utf8.decode s).toOption.getD []))

def Block.record (text : Array UInt8) (b : Block) : LogRecord :=
  ⟨.debug, formatTarget,
    "diff block on lines " ++ toString b.startLine ++ "..=" ++ toString b.endLine ++ " indent " ++
      toString b.indent ++ ": " ++ quotedBytes (preview previewBytes (b.body.sliceArray text))⟩

def LimitExceeded.record (e : LimitExceeded) : LogRecord :=
  ⟨.warn, formatTarget, "leaving document unchanged: " ++ (FormatError.scanFailed e).message⟩

/-- The blocks up to and with the first whose fence is deeper than `max`, where realigning stops. -/
def blocksTried (max : Nat) : List Block → List Block
  | [] => []
  | b :: blocks => if max < b.indent then [b] else b :: blocksTried max blocks

def scanRecords (options : Options) (text : Bytes) : List LogRecord :=
  match options.scanner with
  | .lines => (lineScanner text).records
  | .backtracking => []

def formatRecords (options : Options) (text : Bytes) : List LogRecord :=
  if options.limits.maxDocumentBytes.toNat < text.length then []
  else
    scanRecords options text ++
      match scan options text with
      | .error e => [e.record]
      | .ok blocks =>
        (blocksTried options.limits.maxFenceIndent.toNat blocks).map (Block.record text.toArray)

def historyRecords (text : Bytes) : List Revision → List LogRecord
  | [] => []
  | r :: history =>
    formatRecords r.options (r.grow text) ++ historyRecords (r.apply text) history

end FencedDiff
