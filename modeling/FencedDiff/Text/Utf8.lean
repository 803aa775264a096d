import FencedDiff.Text.Bytes

/-!
# Decoding UTF-8

Bytes are decoded from the left. The first byte of a character says how many continuation bytes
follow and how it narrows the first of them (no overlong forms, no surrogates, nothing past
U+10FFFF). A fault is reported at the index of the character that it breaks: either the text ends
inside the character, or some first bytes of it are the longest beginning that any character has.
-/

namespace FencedDiff.Utf8

inductive Fault where
  /-- The text ends before the character does. -/
  | truncated
  /-- The next `length` bytes begin a character that the byte after them rules out. -/
  | malformed (length : Nat)
  deriving DecidableEq, Repr

/-- The first place where a text stops being UTF-8. -/
structure Invalid where
  index : Nat
  fault : Fault
  deriving DecidableEq, Repr

def Invalid.message (e : Invalid) : String :=
  match e.fault with
  | .truncated => "incomplete utf-8 byte sequence from index " ++ toString e.index
  | .malformed n =>
    "invalid utf-8 sequence of " ++ toString n ++ " bytes from index " ++ toString e.index

/-- What the first byte of a character promises: the number of continuation bytes, the range of the
first of them, and the leading bits of the code point. -/
structure Lead where
  tails : Nat
  low : UInt8
  high : UInt8
  bits : Nat
  deriving DecidableEq, Repr

def lead? (b : UInt8) : Option Lead :=
  if b < 0x80 then some ⟨0, 0x80, 0xBF, b.toNat⟩
  else if b < 0xC2 then none
  else if b < 0xE0 then some ⟨1, 0x80, 0xBF, b.toNat - 0xC0⟩
  else if b < 0xF0 then
    some ⟨2, if b = 0xE0 then 0xA0 else 0x80, if b = 0xED then 0x9F else 0xBF, b.toNat - 0xE0⟩
  else if b < 0xF5 then
    some ⟨3, if b = 0xF0 then 0x90 else 0x80, if b = 0xF4 then 0x8F else 0xBF, b.toNat - 0xF0⟩
  else none

/-- Reads continuation bytes after `seen` bytes of a character that made up `code`: the first has
to lie between `low` and `high`, the others may be any continuation byte. -/
def readTails (low high : UInt8) (seen code : Nat) : Nat → Bytes → Except Fault (Nat × Bytes)
  | 0, rest => .ok (code, rest)
  | _ + 1, [] => .error .truncated
  | n + 1, b :: rest =>
    if low ≤ b && b ≤ high then
      readTails 0x80 0xBF (seen + 1) (code * 64 + (b.toNat - 0x80)) n rest
    else .error (.malformed seen)

theorem length_le_of_readTails {low high : UInt8} {seen code n : Nat} {s r : Bytes} {c : Nat}
    (h : readTails low high seen code n s = .ok (c, r)) : r.length ≤ s.length := by
  induction n generalizing low high seen code s with
  | zero =>
    simp only [readTails, Except.ok.injEq, Prod.mk.injEq] at h
    exact h.2 ▸ Nat.le_refl _
  | succ n ih =>
    cases s with
    | nil => simp [readTails] at h
    | cons b s =>
      simp only [readTails] at h
      split at h
      · exact Nat.le_trans (ih h) (Nat.le_succ _)
      · simp at h

/-- Decodes the rest of a text that continues at byte `index`, after the characters `done` in
reverse. -/
def decodeFrom (index : Nat) (done : List Char) (s : Bytes) : Except Invalid (List Char) :=
  match s with
  | [] => .ok done.reverse
  | b :: rest =>
    match lead? b with
    | none => .error ⟨index, .malformed 1⟩
    | some l =>
      match h : readTails l.low l.high 1 l.bits l.tails rest with
      | .error fault => .error ⟨index, fault⟩
      | .ok (code, after) => decodeFrom (index + 1 + l.tails) (Char.ofNat code :: done) after
termination_by s.length
decreasing_by
  have := length_le_of_readTails h
  simp only [List.length_cons]
  omega

/-- The characters of a text, or the first place where it is not UTF-8. -/
def decode (s : Bytes) : Except Invalid (List Char) := decodeFrom 0 [] s

def encode (s : String) : Bytes := s.toUTF8.data.toList

end FencedDiff.Utf8
