import FencedDiff.Body.Line
import FencedDiff.Options

/-!
# Realigning a body

Both policies give each line a new content and keep its ending. A policy also says how many lines it
changed: where a uniform shift is positive these are the code lines, and where only markers move
they are the lines whose content differs. A fence that is indented too deep is refused before
anything is written.
-/

namespace FencedDiff

open Bytes

structure Realigned where
  text : Bytes
  /-- The number of lines whose content changed. -/
  changedLines : Nat
  deriving DecidableEq, Repr

/-- Moves the marker of a removed or added line `n` columns right. The space behind the marker
stays; of those beyond it up to `n` are dropped, so that the code keeps its column if it can. -/
def moveMarker (n : Nat) : Bytes → Bytes
  | [] => []
  | marker :: code => spaces n ++ marker :: code.drop (min n (leadingSpaces code - 1))

/-- The content of a line of a body whose marked lines move to a fence at `n`. -/
def BodyLine.moved (n : Nat) (l : BodyLine) : Bytes :=
  match l.kind with
  | .changed => moveMarker n l.content
  | _ => l.content

def moveChangedLines (n : Nat) (body : Bytes) : Realigned :=
  let lines := bodyLines body
  { text := lines.flatMap fun l => l.moved n ++ l.ending
    changedLines := lines.countP fun l => l.moved n != l.content }

/-- The indentation of the least indented code line; 0 where there is no code. -/
def codeIndent (lines : List BodyLine) : Nat :=
  (((lines.filter BodyLine.isCode).map fun l => leadingSpaces l.content).min?).getD 0

/-- The content of a line of a body whose code moves right by `pad`. -/
def BodyLine.shifted (pad : Nat) (l : BodyLine) : Bytes :=
  if l.isCode then spaces pad ++ l.content else l.content

/-- Moves the code of a body right, until the least indented line is at `n` or deeper. -/
def shiftCode (n : Nat) (body : Bytes) : Realigned :=
  let lines := bodyLines body
  let pad := n - codeIndent lines
  { text := lines.flatMap fun l => l.shifted pad ++ l.ending
    changedLines := if pad = 0 then 0 else lines.countP BodyLine.isCode }

structure IndentTooLarge where
  indent : Nat
  max : Nat
  deriving DecidableEq, Repr

def IndentTooLarge.message (e : IndentTooLarge) : String :=
  "fence indent of " ++ toString e.indent ++ " exceeds the limit of " ++ toString e.max

def Policy.realign : Policy → (indent : Nat) → (body : Bytes) → Realigned
  | .changedLines => moveChangedLines
  | .baseline => shiftCode

/-- Realigns the body of a block whose fence is indented by `indent`, unless that is too deep. -/
def realignBody (options : Options) (indent : Nat) (body : Bytes) :
    Except IndentTooLarge Realigned :=
  let max := options.limits.maxFenceIndent.toNat
  if max < indent then .error ⟨indent, max⟩ else .ok (options.policy.realign indent body)

end FencedDiff
