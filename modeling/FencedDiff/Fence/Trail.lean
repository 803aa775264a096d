import FencedDiff.Fence.Cursor

/-!
# Trails

A trail is a cursor together with the places that were kept for a return, the latest first. It takes
one step at a time, and each step has an observation: what was read, whether a pattern follows, how
many places are kept.
-/

namespace FencedDiff

inductive CursorStep where
  /-- Read the next byte. -/
  | bump
  /-- Look at the next byte. -/
  | peek
  /-- Move over the next `count` bytes. -/
  | skip (count : Nat)
  /-- Ask whether the bytes to be read begin with a pattern. -/
  | startsWith (pattern : Bytes)
  /-- Keep the place. -/
  | save
  /-- Return to the place kept last, and forget it. -/
  | restore
  deriving DecidableEq, Repr

inductive Observation where
  /-- Nothing, as at the end of the text. -/
  | nothing
  /-- A byte. -/
  | byte (value : UInt8)
  /-- An answer. -/
  | answer (value : Bool)
  /-- A number of kept places. -/
  | count (value : Nat)
  deriving DecidableEq, Repr

def Observation.ofByte? : Option UInt8 → Observation
  | some b => .byte b
  | none => .nothing

/-- A cursor and the places kept, the latest first. -/
structure Trail where
  cursor : Cursor
  kept : List Cursor := []
  deriving DecidableEq, Repr

namespace Trail

def ofText (text : Bytes) : Trail := { cursor := Cursor.ofText text }

def step (t : Trail) : CursorStep → Trail × Observation
  | .bump => ({ t with cursor := t.cursor.bump }, .ofByte? t.cursor.peek?)
  | .peek => (t, .ofByte? t.cursor.peek?)
  | .skip n => ({ t with cursor := t.cursor.skip n }, .nothing)
  | .startsWith pattern => (t, .answer (t.cursor.startsWith pattern))
  | .save => ({ t with kept := t.cursor :: t.kept }, .count (t.kept.length + 1))
  | .restore =>
    match t.kept with
    | [] => (t, .answer false)
    | c :: kept => ({ cursor := c, kept }, .answer true)

/-- The trails after each of the steps, with what the step showed. -/
def steps (t : Trail) : List CursorStep → List (Trail × Observation)
  | [] => []
  | s :: rest => t.step s :: (t.step s).1.steps rest

def run (t : Trail) (steps : List CursorStep) : Trail :=
  steps.foldl (fun t s => (t.step s).1) t

end Trail

end FencedDiff
