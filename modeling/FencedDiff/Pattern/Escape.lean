import FencedDiff.Pattern.Property
import FencedDiff.Pattern.Reader

/-!
# Escapes in patterns

A backslash makes a mark stand for itself, gives a character by its number, names a set of
characters, or says something about a place. An escape is read with its backslash; what it means is
the same inside brackets and outside.
-/

namespace FencedDiff.Pattern

open Reading

/-- What an escape or a character by itself means. -/
inductive Primitive where
  | literal (c : Char)
  | set (s : CharSet)
  | place (a : Assertion)

def hexDigit? (c : Char) : Option Nat :=
  if '0' ≤ c ∧ c ≤ '9' then some (c.toNat - '0'.toNat)
  else if 'a' ≤ c ∧ c ≤ 'f' then some (c.toNat - 'a'.toNat + 10)
  else if 'A' ≤ c ∧ c ≤ 'F' then some (c.toNat - 'A'.toNat + 10)
  else none

def ofHex? (digits : List Char) : Option Char :=
  let n := digits.foldl (fun n c => n * 16 + (hexDigit? c).getD 0) 0
  if n.isValidChar then some (Char.ofNat n) else none

/-- Reads hexadecimal digits of a fixed number; `done` are those so far, in reverse. -/
def hexDigits (done : List Char) : Nat → Reading (List Char)
  | 0 => return done.reverse
  | count + 1 => do
    if !done.isEmpty then
      if !(← advance) then fail .escapeUnfinished (← here) (← here)
    match ← peek with
    | none => fail .escapeUnfinished (← here) (← here)
    | some c =>
      if (hexDigit? c).isNone then fail .escapeHexInvalidDigit (← here) ((← here) + 1)
      hexDigits (c :: done) count

/-- Reads what stands in braces, up to the closing one, in at most `steps` steps. -/
def inBraces (accepts : Char → Bool) (done : List Char) : Nat → Reading (List Char)
  | 0 => return done.reverse
  | steps + 1 => do
    if !(← advance) then return done.reverse
    match ← peek with
    | none => return done.reverse
    | some c =>
      if c = '\x7d' then return done.reverse
      if !accepts c then fail .escapeHexInvalidDigit (← here) ((← here) + 1)
      inBraces accepts (c :: done) steps

/-- Reads a number of `count` hexadecimal digits, or of any in braces, from the letter in front. -/
def hexEscape (count : Nat) : Reading Char := do
  if !(← advance) then fail .escapeUnfinished (← here) (← here)
  let start ← here
  if (← peek) = some '\x7b' then
    let digits ← inBraces (fun c => (hexDigit? c).isSome) [] (← steps)
    let stop ← here
    if (← peek).isNone then fail .escapeUnfinished start stop
    let _ ← advance
    if digits.isEmpty then fail .escapeHexEmpty start (← here)
    match ofHex? digits with
    | some c => return c
    | none => fail .escapeHexInvalid (start + 1) stop
  else
    let digits ← hexDigits [] count
    let _ ← advance
    match ofHex? digits with
    | some c => return c
    | none => fail .escapeHexInvalid start (← here)

def cutAt (mark : List Char) : List Char → Option (List Char × List Char)
  | [] => none
  | c :: rest =>
    if mark.isPrefixOf (c :: rest) then some ([], (c :: rest).drop mark.length)
    else (cutAt mark rest).map fun r => (c :: r.1, r.2)

/-- The characters that a property class names. A category may have the name of its sort in front,
and then be ruled out instead. -/
def classNamed? (name : List Char) : Option CharSet :=
  let value (kind word : List Char) : Option CharSet :=
    if ["gc", "generalcategory"].contains (String.ofList (plainName kind)) then property? word
    else none
  match cutAt ['!', '='] name with
  | some (kind, word) => (value kind word).map .complement
  | none =>
    match cutAt [':'] name <|> cutAt ['='] name with
    | some (kind, word) => value kind word
    | none => property? name

/-- Reads a class by its property, from the letter behind the backslash at `start`. -/
def propertyClass (start : Nat) (negated : Bool) : Reading CharSet := do
  if !(← advance) then fail .escapeUnfinished (← here) (← here)
  let name ← match ← peek with
    | some '\x7b' =>
      let name ← inBraces (fun _ => true) [] (← steps)
      if (← peek).isNone then fail .escapeUnfinished (← here) (← here)
      let _ ← take 1
      pure name
    | some '\\' => fail .unicodeClassInvalid (← here) ((← here) + 1)
    | some c =>
      let _ ← advance
      pure [c]
    | none => fail .escapeUnfinished (← here) (← here)
  match classNamed? name with
  | some s =>
    let s ← folded s
    return if negated then .complement s else s
  | none =>
    note .unicodePropertyNotFound ⟨start, ← here⟩
    return .empty

def letterClass (unicode : Bool) (letter : Char) : CharSet :=
  if letter = 'd' then if unicode then .digit else .asciiDigit
  else if letter = 's' then if unicode then .space else .asciiSpace
  else if unicode then .word else .asciiWord

def wordSet : Reading CharSet := return letterClass (← flags).unicode 'w'

/-- Whether a character has a meaning of its own in patterns, outside of brackets or inside. -/
def isMeta (c : Char) : Bool := "\\.+*?()|[]\x7b\x7d^$#&-~".contains c

/-- Whether a backslash may stand before a character that then stands for itself. -/
def isEscapable (c : Char) : Bool :=
  isMeta c || (c.toNat < 0x80 && !(c.isAlphanum || c == '<' || c == '>'))

/-- The assertion that a word in braces gives about the edge of a word. -/
def edge? (word : CharSet) (name : String) : Option Assertion :=
  match name with
  | "start" => some (.wordStart word)
  | "end" => some (.wordEnd word)
  | "start-half" => some (.noWordBefore word)
  | "end-half" => some (.noWordAfter word)
  | _ => none

/-- Reads letters and dashes; `done` are those so far, in reverse. -/
def edgeName (done : List Char) : Nat → Reading (List Char)
  | 0 => return done.reverse
  | steps + 1 => do
    match ← peek with
    | none => return done.reverse
    | some c =>
      if !(c.isAlpha || c == '-') then return done.reverse
      let _ ← advance
      edgeName (c :: done) steps

/-- Reads the braces behind `\b` if they hold the name of an edge; if they are those of a
repetition, they are left. -/
def namedEdge (start : Nat) : Reading (Option Assertion) := do
  let before ← get
  if !(← advance) then fail .edgeOrRepetitionUnfinished start (← here)
  let first ← here
  if !(← peek).any fun c => c.isAlpha || c == '-' then
    set before
    return none
  let name ← edgeName [] (← steps)
  if (← peek) ≠ some '\x7d' then fail .edgeUnclosed before.pos (← here)
  let stop ← here
  let _ ← take 1
  match edge? (← wordSet) (String.ofList name) with
  | some a => return some a
  | none => fail .edgeUnrecognized first stop

def controlEscape? (c : Char) : Option Char :=
  if c = 'a' then some '\x07'
  else if c = 'f' then some '\x0c'
  else if c = 't' then some '\t'
  else if c = 'n' then some '\n'
  else if c = 'r' then some '\r'
  else if c = 'v' then some '\x0b'
  else none

def placeEscape? (word : CharSet) (c : Char) : Option Assertion :=
  if c = 'A' then some .textStart
  else if c = 'z' then some .textEnd
  else if c = 'b' then some (.wordEdge word)
  else if c = 'B' then some (.noWordEdge word)
  else if c = '<' then some (.wordStart word)
  else if c = '>' then some (.wordEnd word)
  else none

/-- What the letter or mark behind the backslash at `start` means, when it is all there is of the
escape but for braces behind `\b`. -/
def shortEscape (start : Nat) (c : Char) : Reading Primitive := do
  let _ ← take 1
  if isEscapable c then return .literal c
  match controlEscape? c, placeEscape? (← wordSet) c with
  | some d, _ => return .literal d
  | none, some a =>
    if c = 'b' ∧ (← peek) = some '\x7b' then return .place ((← namedEdge start).getD a)
    else return .place a
  | none, none => fail .escapeUnrecognized start (← here)

def hexCount (c : Char) : Nat :=
  if c = 'x' then 2 else if c = 'u' then 4 else if c = 'U' then 8 else 0

/-- Reads an escape from its backslash on. -/
def escapeSequence : Reading Primitive := do
  let start ← here
  if !(← take 1) then fail .escapeUnfinished start (← here)
  let c := (← peek).getD '\\'
  if c.isDigit then fail .backreference start ((← here) + 1)
  if 0 < hexCount c then
    let d ← hexEscape (hexCount c)
    if !(← flags).unicode && c == 'x' && 0x80 ≤ d.toNat && d.toNat ≤ 0xFF then
      note .notUtf8 ⟨start, ← here⟩
    return .literal d
  else if c = 'p' ∨ c = 'P' then return .set (← propertyClass start (c == 'P'))
  else if "dswDSW".contains c then
    let _ ← take 1
    let unicode := (← flags).unicode
    let s := letterClass unicode c.toLower
    if c.isLower then return .set s
    if !unicode then note .notUtf8 ⟨start, ← here⟩
    return .set (.complement s)
  else shortEscape start c

end FencedDiff.Pattern
