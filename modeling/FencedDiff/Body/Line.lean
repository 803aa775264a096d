import FencedDiff.Text.Blank
import FencedDiff.Text.Line

/-!
# Lines of a diff body

A line of a body is a content and an ending. Its kind hangs on the content alone: blank lines, the
headers of a unified diff, changed lines (removed or added) and context. Changed lines and context
are code.
-/

namespace FencedDiff

open Bytes

def minus : UInt8 := 0x2D

def plus : UInt8 := 0x2B

/-- How a line of a body takes part in the diff. -/
inductive LineKind where
  /-- Metadata of a unified diff. -/
  | header
  /-- A removed or added line. -/
  | changed
  /-- Any other line with something to see. -/
  | context
  /-- A line of white space alone. -/
  | blank
  deriving DecidableEq, Repr

/-- What headers begin with: `diff `, `---`, `+++`, `@@` and `index `. -/
def headerMarks : List Bytes :=
  [[0x64, 0x69, 0x66, 0x66, space], [minus, minus, minus], [plus, plus, plus], [0x40, 0x40],
    [0x69, 0x6E, 0x64, 0x65, 0x78, space]]

/-- Whether a line begins like a header. -/
def isHeader (content : Bytes) : Bool := headerMarks.any fun mark => mark.isPrefixOf content

def isMarked (content : Bytes) : Bool :=
  match content with
  | [] => false
  | b :: _ => b == minus || b == plus

def LineKind.ofContent (content : Bytes) : LineKind :=
  if isBlank content then .blank
  else if isHeader content then .header
  else if isMarked content then .changed
  else .context

/-- Whether lines of this kind are code: they count for the indentation of a body and move with
it. -/
def LineKind.isCode : LineKind → Bool
  | .changed | .context => true
  | .header | .blank => false

/-- A line of a body, cut into content and ending. -/
structure BodyLine where
  content : Bytes
  ending : Bytes
  deriving DecidableEq, Repr

namespace BodyLine

def ofText (line : Bytes) : BodyLine := ⟨lineContent line, lineEnding line⟩

def text (l : BodyLine) : Bytes := l.content ++ l.ending

def kind (l : BodyLine) : LineKind := LineKind.ofContent l.content

def isCode (l : BodyLine) : Bool := l.kind.isCode

@[simp] theorem text_ofText (line : Bytes) : (ofText line).text = line :=
  lineContent_append_lineEnding line

end BodyLine

def bodyLines (body : Bytes) : List BodyLine := (splitLines body).map BodyLine.ofText

end FencedDiff
