import FencedDiff.Text.Line

/-!
# Fence lines

A line opens a block when it consists of spaces, three backticks and the tag `diff`, whatever comes
then; it closes one when after the spaces there are three backticks and nothing but blanks. The
line's ending does not matter, and no line does both.
-/

namespace FencedDiff

open Bytes

/-- What a line is to the fences. -/
inductive Signature where
  /-- An opening fence with `indent` leading spaces. -/
  | opening (indent : Nat)
  /-- A closing fence. -/
  | closing
  deriving DecidableEq, Repr

def ticks : Bytes := [0x60, 0x60, 0x60]

def tag : Bytes := [0x64, 0x69, 0x66, 0x66]

/-- Reads a line without its ending: an opening fence, a closing fence or neither. -/
def signatureOfContent (content : Bytes) : Option Signature :=
  let indent := leadingSpaces content
  let fence := content.drop indent
  if (ticks ++ tag).isPrefixOf fence then some (.opening indent)
  else if ticks.isPrefixOf fence && (fence.drop ticks.length).all isBlankByte then some .closing
  else none

/-- The signature of a line, which may still have its ending. -/
def signature (line : Bytes) : Option Signature := signatureOfContent (lineContent line)

def opens : Option Signature → Option Nat
  | some (.opening indent) => some indent
  | _ => none

def closes : Option Signature → Bool
  | some .closing => true
  | _ => false

@[simp] theorem opens_eq_some_iff {s : Option Signature} {n : Nat} :
    opens s = some n ↔ s = some (.opening n) := by
  rcases s with _ | _ | _ <;> simp [opens]

@[simp] theorem closes_eq_true_iff {s : Option Signature} :
    closes s = true ↔ s = some .closing := by
  rcases s with _ | _ | _ <;> simp [closes]

end FencedDiff
