import FencedDiff.Text.Bytes

/-!
# Blank texts

A text is blank when it consists of white space alone, in the sense of the Unicode property
White_Space: U+0009 to U+000D, U+0020, U+0085, U+00A0, U+1680, U+2000 to U+200A, U+2028, U+2029,
U+202F, U+205F and U+3000. The test reads the encodings of these characters, which have one, two or
three bytes.
-/

namespace FencedDiff

/-- White space of one byte: U+0009 to U+000D and the space. -/
def isWhite1 (b : UInt8) : Bool := (0x09 ≤ b && b ≤ 0x0D) || b == 0x20

/-- White space of two bytes: U+0085 and U+00A0. -/
def isWhite2 (b c : UInt8) : Bool := b == 0xC2 && (c == 0x85 || c == 0xA0)

/-- White space of three bytes: U+1680, U+2000 to U+200A, U+2028, U+2029, U+202F, U+205F and
U+3000. -/
def isWhite3 (b c d : UInt8) : Bool :=
  (b == 0xE1 && c == 0x9A && d == 0x80) ||
  (b == 0xE2 && c == 0x80 && ((0x80 ≤ d && d ≤ 0x8A) || d == 0xA8 || d == 0xA9 || d == 0xAF)) ||
  (b == 0xE2 && c == 0x81 && d == 0x9F) ||
  (b == 0xE3 && c == 0x80 && d == 0x80)

/-- A text of white space alone; the empty text is one. -/
def isBlank : Bytes → Bool
  | [] => true
  | b :: rest =>
    if isWhite1 b then isBlank rest
    else match rest with
      | [] => false
      | c :: rest =>
        if isWhite2 b c then isBlank rest
        else match rest with
          | [] => false
          | d :: rest => isWhite3 b c d && isBlank rest

@[simp] theorem isBlank_nil : isBlank [] = true := rfl

theorem isBlank_cons_of_isWhite1 {b : UInt8} (h : isWhite1 b = true) (s : Bytes) :
    isBlank (b :: s) = isBlank s := by
  rw [isBlank.eq_def]
  simp [h]

theorem isBlank_cons_of_ascii {b : UInt8} (hb : b < 0x80) (h : isWhite1 b = false) (s : Bytes) :
    isBlank (b :: s) = false := by
  have h2 : ∀ c, isWhite2 b c = false := by
    intro c
    have : b ≠ 0xC2 := by rintro rfl; revert hb; decide
    simp [isWhite2, this]
  have h3 : ∀ c d, isWhite3 b c d = false := by
    intro c d
    have h1 : b ≠ 0xE1 := by rintro rfl; revert hb; decide
    have h2 : b ≠ 0xE2 := by rintro rfl; revert hb; decide
    have h3 : b ≠ 0xE3 := by rintro rfl; revert hb; decide
    simp [isWhite3, h1, h2, h3]
  cases s with
  | nil => simp [isBlank, h]
  | cons c s =>
    cases s with
    | nil => simp [isBlank, h, h2]
    | cons d s => simp [isBlank, h, h2, h3]

@[simp] theorem isBlank_spaces_append (n : Nat) (s : Bytes) :
    isBlank (Bytes.spaces n ++ s) = isBlank s := by
  induction n with
  | zero => rfl
  | succ n ih =>
    rw [Bytes.spaces_succ, List.cons_append, isBlank_cons_of_isWhite1 (by decide), ih]

end FencedDiff
