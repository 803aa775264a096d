import FencedDiff.Text.Bytes

/-!
# Spans

A span names the bytes of a document from `start` up to, not including, `stop`. Spans are compared
and cut; they never hold text. Nothing stops a span from being inverted: its length is then zero,
and cutting it gives the empty text.
-/

namespace FencedDiff

/-- The byte range from `start` to before `stop`. -/
structure Span where
  start : Nat
  stop : Nat
  deriving DecidableEq, Repr, Inhabited

namespace Span

/-- The number of bytes in the span; zero when it is inverted. -/
def length (s : Span) : Nat := s.stop - s.start

def isEmpty (s : Span) : Bool := s.length == 0

/-- `s.contains t`: the ends of `t` lie within those of `s`. -/
def contains (s t : Span) : Bool := s.start ≤ t.start && t.stop ≤ s.stop

theorem contains_iff {s t : Span} :
    s.contains t = true ↔ s.start ≤ t.start ∧ t.stop ≤ s.stop := by
  simp [contains]

/-- Spans are ordered by start, then by stop. -/
def order (s t : Span) : Ordering := (compare s.start t.start).then (compare s.stop t.stop)

def shift (s : Span) (n : Nat) : Span := ⟨s.start + n, s.stop + n⟩

def describe (s : Span) : String :=
  "Span \x7b start: " ++ toString s.start ++ ", end: " ++ toString s.stop ++ " \x7d"

def slice (s : Span) (text : Bytes) : Bytes := (text.drop s.start).take s.length

/-- The same bytes, taken out of a text in an array without walking to them. -/
def sliceArray (s : Span) (text : Array UInt8) : Bytes := (text.extract s.start s.stop).toList

@[simp] theorem sliceArray_toArray (s : Span) (text : Bytes) :
    s.sliceArray text.toArray = s.slice text := by
  simp [sliceArray, slice, length]

theorem length_slice {s : Span} {text : Bytes} (h : s.stop ≤ text.length) :
    (s.slice text).length = s.length := by
  simp [slice, length]
  omega

end Span

end FencedDiff
