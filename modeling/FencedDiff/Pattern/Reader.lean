import FencedDiff.Pattern.Basic
import FencedDiff.Pattern.Fault

/-!
# Reading a written pattern

A written pattern is read character by character. Flags may be set on the way; one of them makes
white space and comments between characters count for nothing, so skipping them is part of going on.
Some faults are only noted when they are met, because a fault of form that comes later goes first.
-/

namespace FencedDiff.Pattern

/-- What flags make of the characters that follow. -/
structure Flags where
  /-- Letters stand for both cases. -/
  caseless : Bool := false
  /-- Places at the ends of lines count as ends of the text. -/
  multiline : Bool := false
  /-- The dot stands for newlines too. -/
  dotAll : Bool := false
  /-- A newline may be of two characters. -/
  crlf : Bool := false
  /-- Classes and cases are those of all scripts. -/
  unicode : Bool := true
  /-- White space and comments count for nothing. -/
  verbose : Bool := false
  deriving DecidableEq, Repr

structure Reader where
  /-- The number of characters that are read. -/
  pos : Nat := 0
  rest : List Char
  flags : Flags := {}
  /-- The first fault that is only noted. -/
  noted : Option Fault := none

abbrev Reading := StateT Reader (Except Fault)

namespace Reading

def fail {α : Type} (reason : Reason) (start stop : Nat) : Reading α :=
  throw ⟨reason, ⟨start, stop⟩, none⟩

/-- Notes a fault, unless there was one before. -/
def note (reason : Reason) (stretch : Stretch) : Reading Unit :=
  modify fun r => { r with noted := r.noted <|> some ⟨reason, stretch, none⟩ }

/-- The number of characters that are read. -/
def here : Reading Nat := return (← get).pos

def flags : Reading Flags := return (← get).flags

def peek : Reading (Option Char) := return (← get).rest.head?

/-- How many steps are enough to read what is left, when each takes a character. -/
def steps : Reading Nat := return (← get).rest.length + 1

/-- Takes `n` characters; answers whether any is left. -/
def take (n : Nat) : Reading Bool := do
  let r ← get
  let rest := r.rest.drop n
  set { r with pos := r.pos + (r.rest.length - rest.length), rest }
  return !rest.isEmpty

def takeIf (cs : List Char) : Reading Bool := do
  if cs.isPrefixOf (← get).rest then
    let _ ← take cs.length
    return true
  else return false

/-- What is left behind white space and comments; `comment` says whether a comment goes on. -/
def behindSpace (comment : Bool) : List Char → List Char
  | [] => []
  | c :: rest =>
    if comment then behindSpace (c != '\n') rest
    else if isWhiteSpace c then behindSpace false rest
    else if c = '#' then behindSpace true rest
    else c :: rest

/-- Skips white space and comments if they count for nothing. -/
def skipSpace : Reading Unit := do
  let r ← get
  if r.flags.verbose then
    let rest := behindSpace false r.rest
    set { r with pos := r.pos + (r.rest.length - rest.length), rest }

/-- Takes a character and skips; answers whether any is left. -/
def advance : Reading Bool := do
  if ← take 1 then
    skipSpace
    return (← peek).isSome
  else return false

/-- The next character that is no white space behind one that is about to be taken. A number sign
before it counts as white space. -/
def solid (comment : Bool) : List Char → Option Char
  | [] => none
  | c :: rest =>
    if isWhiteSpace c then solid comment rest
    else if !comment && c == '#' then solid true rest
    else some c

/-- The character behind the next, or behind the white space there if that counts for nothing. -/
def peekBeyond : Reading (Option Char) := do
  let r ← get
  return if r.flags.verbose then solid false r.rest.tail else r.rest.tail.head?

/-- Characters of a set, and those of the other case if letters stand for both. -/
def folded (set : CharSet) : Reading CharSet := do
  let fs ← flags
  return if !fs.caseless then set
    else if fs.unicode then .caseless set
    else .union set (.inter (.caseless set) .ascii)

end Reading

end FencedDiff.Pattern
