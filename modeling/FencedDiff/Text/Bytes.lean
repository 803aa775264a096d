/-!
# Text as bytes

A document is held as the list of its UTF-8 bytes. Every mark this library looks for (line ends,
spaces, backticks, the letters of `diff`, diff markers) is one ASCII byte, and no byte of a longer
encoding is ASCII, so scanning, cutting and padding never have to decode. Offsets and lengths are
therefore plain list positions.
-/

namespace FencedDiff

abbrev Bytes := List UInt8

namespace Bytes

def newline : UInt8 := 0x0A

def carriageReturn : UInt8 := 0x0D

/-- The only byte that counts as indentation. -/
def space : UInt8 := 0x20

/-- A tab is a blank after a fence, but never indentation. -/
def tab : UInt8 := 0x09

def isBlankByte (b : UInt8) : Bool := b == space || b == tab

def isLineEnd (b : UInt8) : Bool := b == carriageReturn || b == newline

def spaces (n : Nat) : Bytes := List.replicate n space

@[simp] theorem length_spaces (n : Nat) : (spaces n).length = n := by simp [spaces]

@[simp] theorem spaces_zero : spaces 0 = [] := rfl

theorem spaces_succ (n : Nat) : spaces (n + 1) = space :: spaces n := rfl

theorem spaces_append (m n : Nat) : spaces m ++ spaces n = spaces (m + n) := by
  simp [spaces]

def leadingSpaces (s : Bytes) : Nat := (s.takeWhile (· == space)).length

@[simp] theorem leadingSpaces_nil : leadingSpaces [] = 0 := rfl

@[simp] theorem leadingSpaces_space_cons (s : Bytes) :
    leadingSpaces (space :: s) = leadingSpaces s + 1 := by
  simp [leadingSpaces]

theorem leadingSpaces_cons_of_ne {b : UInt8} (h : b ≠ space) (s : Bytes) :
    leadingSpaces (b :: s) = 0 := by
  simp [leadingSpaces, h]

theorem leadingSpaces_spaces_append (n : Nat) (s : Bytes) :
    leadingSpaces (spaces n ++ s) = n + leadingSpaces s := by
  induction n with
  | zero => simp
  | succ n ih => rw [spaces_succ, List.cons_append, leadingSpaces_space_cons, ih]; omega

theorem leadingSpaces_le_length (s : Bytes) : leadingSpaces s ≤ s.length := by
  unfold leadingSpaces
  exact (List.takeWhile_sublist _).length_le

theorem take_eq_spaces {s : Bytes} {n : Nat} (h : n ≤ leadingSpaces s) :
    s.take n = spaces n := by
  induction n generalizing s with
  | zero => simp
  | succ n ih =>
    cases s with
    | nil => simp at h
    | cons b s =>
      by_cases hb : b = space
      · subst hb
        rw [leadingSpaces_space_cons] at h
        rw [List.take_succ_cons, spaces_succ, ih (by omega)]
      · rw [leadingSpaces_cons_of_ne hb] at h
        omega

end Bytes

end FencedDiff
