import FencedDiff.Pattern.CharSet

/-!
# Patterns

A pattern describes stretches of a text: a character of a set, one pattern behind another, one of
two, or one over and over; some describe the place between two characters instead. A place is known
by the characters around it, and a set of places of a text is a list of truth values, one for each.
From the places where a stretch may begin, `Pattern.ends` finds those where one that the pattern
describes ends. A text matches when there is such a stretch anywhere in it, so which of several is
found, and in what order, makes no difference.
-/

namespace FencedDiff

/-- A place in a text: the characters before and behind it. -/
structure Place where
  before : Option Char
  after : Option Char
  deriving DecidableEq, Repr

/-- The places of a text behind `before`, from the first to the last. -/
def placesAfter (before : Option Char) : List Char → List Place
  | [] => [⟨before, none⟩]
  | c :: rest => ⟨before, some c⟩ :: placesAfter (some c) rest

def places (text : List Char) : List Place := placesAfter none text

theorem length_placesAfter (before : Option Char) (text : List Char) :
    (placesAfter before text).length = text.length + 1 := by
  induction text generalizing before with
  | nil => rfl
  | cons c rest ih => simp [placesAfter, ih]

inductive Assertion where
  | textStart
  | textEnd
  /-- At the start of the text or behind a newline; of the two characters `\r\n`, which then make
  one newline as either makes one alone, behind the second. -/
  | lineStart (crlf : Bool)
  /-- At the end of the text or before a newline. -/
  | lineEnd (crlf : Bool)
  /-- Where exactly one side is in a word. -/
  | wordEdge (word : CharSet)
  | noWordEdge (word : CharSet)
  | wordStart (word : CharSet)
  | wordEnd (word : CharSet)
  /-- Behind what is no word. -/
  | noWordBefore (word : CharSet)
  /-- Before what is no word. -/
  | noWordAfter (word : CharSet)
  deriving DecidableEq, Repr

def Assertion.holds (a : Assertion) (p : Place) : Bool :=
  match a with
  | .textStart => p.before.isNone
  | .textEnd => p.after.isNone
  | .lineStart false => p.before.isNone || p.before == some '\n'
  | .lineStart true =>
    p.before.isNone || p.before == some '\n' || (p.before == some '\r' && p.after != some '\n')
  | .lineEnd false => p.after.isNone || p.after == some '\n'
  | .lineEnd true =>
    p.after.isNone || p.after == some '\r' || (p.after == some '\n' && p.before != some '\r')
  | .wordEdge word => p.before.any word.contains != p.after.any word.contains
  | .noWordEdge word => p.before.any word.contains == p.after.any word.contains
  | .wordStart word => !p.before.any word.contains && p.after.any word.contains
  | .wordEnd word => p.before.any word.contains && !p.after.any word.contains
  | .noWordBefore word => !p.before.any word.contains
  | .noWordAfter word => !p.after.any word.contains

inductive Pattern where
  /-- Describes the empty stretch. -/
  | empty
  | chars (set : CharSet)
  | place (a : Assertion)
  | andThen (p q : Pattern)
  | either (p q : Pattern)
  /-- At least `min` times one behind another, and at most `max` times if that is given. -/
  | repeated (p : Pattern) (min : Nat) (max : Option Nat)
  deriving DecidableEq, Repr

namespace Pattern

def join (s t : List Bool) : List Bool := List.zipWith (· || ·) s t

/-- Applies `step` a number of times, or until nothing changes any more. -/
def times (step : List Bool → List Bool) : Nat → List Bool → List Bool
  | 0, s => s
  | n + 1, s =>
    let t := step s
    if t == s then s else times step n t

/-- The places behind a character of a set. -/
def behind (ps : List Place) (set : CharSet) (starts : List Bool) : List Bool :=
  false :: (List.zipWith (fun p s => s && p.after.any set.contains) ps starts).dropLast

/-- The places where a stretch ends that the pattern describes and that begins at one of `starts`.
More repetitions than there are places lead nowhere new: some of them would be empty, and an empty
one can be left out or put in anywhere. -/
def ends (ps : List Place) : Pattern → List Bool → List Bool
  | .empty, starts => starts
  | .chars set, starts => behind ps set starts
  | .place a, starts => List.zipWith (fun p s => s && a.holds p) ps starts
  | .andThen p q, starts => ends ps q (ends ps p starts)
  | .either p q, starts => join (ends ps p starts) (ends ps q starts)
  | .repeated p low high, starts =>
    let most := ps.length
    let required := times (ends ps p) (min low most) starts
    let more := match high with
      | some high => min (high - low) most
      | none => most
    times (fun s => join required (ends ps p s)) more required

/-- Whether the pattern describes a stretch anywhere in a text. -/
def isIn (p : Pattern) (text : String) : Bool :=
  let ps := places text.toList
  (p.ends ps (ps.map fun _ => true)).any id

end Pattern

end FencedDiff
