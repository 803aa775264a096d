import FencedDiff.Fence.Block
import FencedDiff.Fence.Signature

/-!
# Scanning line by line

The line scanner is a machine with two states: outside of blocks it waits for an opening fence,
inside one for a closing fence. An opening fence inside a block is body text. When the lines end
inside a block, its opening fence is plain text after all and no block comes of it. The machine
takes one line at a time and can be asked for its blocks after any of them.
-/

namespace FencedDiff

/-- What the line scanner has to know of a line. -/
structure FenceLine where
  span : Span
  number : Nat
  signature : Option Signature
  deriving DecidableEq, Repr

def Line.fenceLine (l : Line) : FenceLine := ⟨l.span, l.number, signature l.content⟩

/-- Where the line scanner stands between two lines. -/
inductive ScanState where
  /-- Not within a block. -/
  | outside
  /-- After the opening fence at `opening`, on line `startLine`, which is not closed yet. -/
  | inBlock (opening : Span) (startLine indent : Nat)
  deriving DecidableEq, Repr

structure LineScanner where
  state : ScanState := .outside
  blocks : Array Block := #[]

namespace LineScanner

def push (s : LineScanner) (l : FenceLine) : LineScanner :=
  match s.state with
  | .outside =>
    match opens l.signature with
    | some indent => { s with state := .inBlock l.span l.number indent }
    | none => s
  | .inBlock opening startLine indent =>
    if closes l.signature then
      { state := .outside
        blocks := s.blocks.push
          { span := ⟨opening.start, l.span.stop⟩
            body := ⟨opening.stop, l.span.start⟩
            startLine, endLine := l.number, indent } }
    else s

def pushAll (s : LineScanner) (lines : List FenceLine) : LineScanner := lines.foldl push s

/-- The blocks of the lines taken so far. -/
def finish (s : LineScanner) : List Block := s.blocks.toList

/-- The line of the opening fence that is not closed, if there is one. -/
def unclosed? (s : LineScanner) : Option Nat :=
  match s.state with
  | .outside => none
  | .inBlock _ startLine _ => some startLine

@[simp] theorem pushAll_nil (s : LineScanner) : s.pushAll [] = s := rfl

@[simp] theorem pushAll_cons (s : LineScanner) (l : FenceLine) (lines : List FenceLine) :
    s.pushAll (l :: lines) = (s.push l).pushAll lines := rfl

theorem pushAll_append (s : LineScanner) (a b : List FenceLine) :
    s.pushAll (a ++ b) = (s.pushAll a).pushAll b := List.foldl_append

end LineScanner

def lineScanner (text : Bytes) : LineScanner :=
  ({} : LineScanner).pushAll ((documentLines text).map Line.fenceLine)

def scanLines (text : Bytes) : List Block := (lineScanner text).finish

end FencedDiff
