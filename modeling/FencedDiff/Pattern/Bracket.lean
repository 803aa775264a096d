import FencedDiff.Pattern.Escape

/-!
# Sets in brackets

Brackets hold characters, ranges, classes and further brackets, whose union is meant; doubled marks
between two such unions mean what they have in common, their difference, or what is in one of them
only, from left to right. What is open is kept on a stack, the innermost first: a bracket with the
union that it stands in, or an operation with its left side.
-/

namespace FencedDiff.Pattern

open Reading

/-- What is open while a set in brackets is read. -/
inductive Level where
  /-- A bracket, and what stands before it in the bracket around. -/
  | bracket (around : CharSet) (negated : Bool) (opening : Stretch)
  /-- An operation, and its left side. -/
  | operation (combine : CharSet → CharSet → CharSet) (left : CharSet)

/-- The classes that may be named between brackets and colons. -/
def namedClasses : List (String × CodeRanges) := [
  ("alnum", [(0x30, 0x39), (0x41, 0x5A), (0x61, 0x7A)]),
  ("alpha", [(0x41, 0x5A), (0x61, 0x7A)]),
  ("ascii", [(0, 0x7F)]),
  ("blank", [(0x09, 0x09), (0x20, 0x20)]),
  ("cntrl", [(0, 0x1F), (0x7F, 0x7F)]),
  ("digit", [(0x30, 0x39)]),
  ("graph", [(0x21, 0x7E)]),
  ("lower", [(0x61, 0x7A)]),
  ("print", [(0x20, 0x7E)]),
  ("punct", [(0x21, 0x2F), (0x3A, 0x40), (0x5B, 0x60), (0x7B, 0x7E)]),
  ("space", [(0x09, 0x0D), (0x20, 0x20)]),
  ("upper", [(0x41, 0x5A)]),
  ("word", [(0x30, 0x39), (0x41, 0x5A), (0x5F, 0x5F), (0x61, 0x7A)]),
  ("xdigit", [(0x30, 0x39), (0x41, 0x46), (0x61, 0x66)])]

/-- The class named at the beginning of a text, and how many characters its name takes with the
brackets and colons around it. -/
def namedClass? (cs : List Char) : Option (CharSet × Nat) :=
  match cs with
  | '[' :: ':' :: rest =>
    let negated := rest.head? == some '^'
    let rest := if negated then rest.tail else rest
    let name := rest.takeWhile (· != ':')
    match rest.drop name.length with
    | ':' :: ']' :: _ =>
      (namedClasses.lookup (String.ofList name)).map fun ranges =>
        (if negated then .complement (.ranges ranges) else .ranges ranges,
          name.length + if negated then 5 else 4)
    | _ => none
  | _ => none

def bracketItem : Reading (Primitive × Stretch) := do
  let start ← here
  match ← peek with
  | some '\\' =>
    let p ← escapeSequence
    return (p, ⟨start, ← here⟩)
  | c =>
    let _ ← take 1
    return (.literal (c.getD '\\'), ⟨start, ← here⟩)

def itemSet (p : Primitive) (stretch : Stretch) : Reading CharSet :=
  match p with
  | .literal c => return .single c
  | .set s => return s
  | .place _ => fail .classEscapeInvalid stretch.start stretch.stop

def boundary (p : Primitive) (stretch : Stretch) : Reading Char :=
  match p with
  | .literal c => return c
  | _ => fail .classRangeLiteral stretch.start stretch.stop

def lastOpening : List Level → Stretch
  | [] => ⟨0, 0⟩
  | .bracket _ _ opening :: _ => opening
  | .operation .. :: levels => lastOpening levels

/-- Ends because of a bracket that is not closed. -/
def failOpen {α : Type} (levels : List Level) : Reading α :=
  fail .classUnclosed (lastOpening levels).start (lastOpening levels).stop

/-- Reads one thing in brackets, or a range from one to another. -/
def bracketRange (levels : List Level) : Reading CharSet := do
  let (p, first) ← bracketItem
  skipSpace
  if (← peek).isNone then failOpen levels
  let beyond ← peekBeyond
  if (← peek) ≠ some '-' ∨ beyond = some ']' ∨ beyond = some '-' then itemSet p first
  else
    if !(← advance) then failOpen levels
    let (q, last) ← bracketItem
    let low ← boundary p first
    let high ← boundary q last
    if high.toNat < low.toNat then fail .classRangeInvalid first.start last.stop
    return .between low high

/-- Reads dashes that stand first in brackets; `found` says whether there were any so far. -/
def leadingDashes (start : Nat) (found : Bool) : Nat → Reading Bool
  | 0 => return found
  | steps + 1 => do
    if (← peek) ≠ some '-' then return found
    if !(← advance) then fail .classUnclosed start start
    leadingDashes start true steps

/-- Reads the beginning of a bracket; answers whether it is negated, and what stands in it as first
character for lack of another meaning. -/
def openBracket : Reading (Bool × CharSet × Stretch) := do
  let start ← here
  if !(← advance) then fail .classUnclosed start (← here)
  let negated := (← peek) == some '^'
  if negated then
    if !(← advance) then fail .classUnclosed start (← here)
  if ← leadingDashes start false (← steps) then return (negated, .single '-', ⟨start, ← here⟩)
  if (← peek) = some ']' then
    if !(← advance) then fail .classUnclosed start (← here)
    return (negated, .single ']', ⟨start, ← here⟩)
  return (negated, .empty, ⟨start, ← here⟩)

/-- Ends the operation whose right side is read, if there is one. -/
def settle (right : CharSet) : List Level → Reading (CharSet × List Level)
  | .operation combine left :: levels => do
    return (combine (← folded left) (← folded right), levels)
  | levels => return (right, levels)

def operation? (cs : List Char) : Option (CharSet → CharSet → CharSet) :=
  match cs with
  | '&' :: '&' :: _ => some .inter
  | '-' :: '-' :: _ => some .minus
  | '~' :: '~' :: _ => some .difference
  | _ => none

/-- Reads brackets from what is open in them; `items` is the union that is being read. -/
def insideBrackets (levels : List Level) (items : CharSet) : Nat → Reading CharSet
  | 0 => failOpen levels
  | steps + 1 => do
    skipSpace
    let r ← get
    match r.rest with
    | [] => failOpen levels
    | '[' :: _ =>
      match if levels.isEmpty then none else namedClass? r.rest with
      | some (s, length) =>
        let _ ← take length
        insideBrackets levels (.union items s) steps
      | none =>
        let (negated, first, opening) ← openBracket
        insideBrackets (.bracket items negated opening :: levels) first steps
    | ']' :: _ =>
      let (s, levels) ← settle items levels
      let _ ← take 1
      match levels with
      | .bracket around negated opening :: levels =>
        let s ← folded s
        if negated && !(← flags).unicode then note .notUtf8 ⟨opening.start, ← here⟩
        let s := if negated then .complement s else s
        if levels.isEmpty then return s
        insideBrackets levels (.union around s) steps
      | _ => failOpen levels
    | cs =>
      match operation? cs with
      | some combine =>
        let (s, levels) ← settle items levels
        let _ ← take 2
        insideBrackets (.operation combine s :: levels) .empty steps
      | none => insideBrackets levels (.union items (← bracketRange levels)) steps

def bracketSet : Reading CharSet := do insideBrackets [] .empty (← steps)

end FencedDiff.Pattern
