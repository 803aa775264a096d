import FencedDiff.Text.Bytes

/-!
# Previews

A preview shows the beginning of a text, cut to a number of bytes. The cut moves back to the nearest
place between two characters, which in UTF-8 is any place not followed by a continuation byte.
-/

namespace FencedDiff

/-- A byte that continues a character, `10xxxxxx`. -/
def isContinuation (b : UInt8) : Bool := 0x80 ≤ b && b < 0xC0

/-- Whether position `n` of a text lies between two characters, or at one of its ends. -/
def isCharBoundary (s : Bytes) (n : Nat) : Bool :=
  n == 0 || (match s[n]? with
    | some b => !isContinuation b
    | none => n == s.length)

/-- The last position between two characters that is at most the given one. -/
def charFloor (s : Bytes) : Nat → Nat
  | 0 => 0
  | n + 1 => if isCharBoundary s (n + 1) then n + 1 else charFloor s n

theorem charFloor_le (s : Bytes) (n : Nat) : charFloor s n ≤ n := by
  induction n with
  | zero => exact Nat.le_refl _
  | succ n ih =>
    unfold charFloor
    split
    · exact Nat.le_refl _
    · exact Nat.le_succ_of_le ih

theorem isCharBoundary_charFloor (s : Bytes) (n : Nat) :
    isCharBoundary s (charFloor s n) = true := by
  induction n with
  | zero => simp [charFloor, isCharBoundary]
  | succ n ih =>
    unfold charFloor
    split
    · assumption
    · exact ih

def ellipsis : Bytes := [0x2E, 0x2E, 0x2E]

/-- The text if it has at most `max` bytes, else its first whole characters within `max` bytes and
an ellipsis. -/
def preview (max : Nat) (s : Bytes) : Bytes :=
  if max < s.length then s.take (charFloor s max) ++ ellipsis else s

theorem preview_of_length_le {max : Nat} {s : Bytes} (h : s.length ≤ max) : preview max s = s := by
  simp [preview, Nat.not_lt.2 h]

end FencedDiff
