import FencedDiff.Text.Bytes

/-!
# Cursor

A cursor stands between two bytes of a document. It holds what is still to be read, the number of
bytes and of newlines behind it, and whether it stands at the start of a line; a step keeps all
four up to date, so nothing behind the cursor is looked at again. A cursor is a value: keeping it is
saving the place, and going on from a kept one is returning there.
-/

namespace FencedDiff

open Bytes

/-- A place in a document. -/
structure Cursor where
  /-- The bytes still to be read. -/
  rest : Bytes
  /-- The number of bytes behind the cursor. -/
  pos : Nat := 0
  /-- The number of the line that the cursor is on, counted from zero. -/
  line : Nat := 0
  /-- Whether no byte of the line is behind the cursor. -/
  atLineStart : Bool := true
  deriving DecidableEq, Repr

namespace Cursor

def ofText (text : Bytes) : Cursor := { rest := text }

def atEnd (c : Cursor) : Bool := c.rest.isEmpty

def peek? (c : Cursor) : Option UInt8 := c.rest.head?

def startsWith (c : Cursor) (pattern : Bytes) : Bool := pattern.isPrefixOf c.rest

/-- Moves over the next byte; at the end the cursor stays. -/
def bump (c : Cursor) : Cursor :=
  match c.rest with
  | [] => c
  | b :: rest =>
    { rest
      pos := c.pos + 1
      line := if b = newline then c.line + 1 else c.line
      atLineStart := b == newline }

/-- Moves over the next `n` bytes, or to the end. -/
def skip (c : Cursor) : Nat → Cursor
  | 0 => c
  | n + 1 => c.bump.skip n

/-- The number of bytes to be read before the first that fails the test. -/
def run (c : Cursor) (test : UInt8 → Bool) : Nat := (c.rest.takeWhile test).length

@[simp] theorem skip_zero (c : Cursor) : c.skip 0 = c := rfl

theorem rest_bump (c : Cursor) : c.bump.rest = c.rest.tail := by
  cases h : c.rest <;> simp [bump, h]

theorem rest_skip (c : Cursor) (n : Nat) : (c.skip n).rest = c.rest.drop n := by
  induction n generalizing c with
  | zero => simp
  | succ n ih => rw [skip, ih, rest_bump, List.drop_tail]

theorem length_rest_skip (c : Cursor) (n : Nat) :
    (c.skip n).rest.length = c.rest.length - n := by
  rw [rest_skip, List.length_drop]

theorem pos_skip (c : Cursor) {n : Nat} (h : n ≤ c.rest.length) :
    (c.skip n).pos = c.pos + n := by
  induction n generalizing c with
  | zero => rfl
  | succ n ih =>
    cases hr : c.rest with
    | nil => simp [hr] at h
    | cons b rest =>
      rw [hr, List.length_cons] at h
      rw [skip, ih c.bump (by rw [rest_bump, hr]; simpa using h)]
      simp [bump, hr]
      omega

end Cursor

end FencedDiff
