import FencedDiff.Pattern.Bracket
import FencedDiff.Text.Alphanumeric

/-!
# Written patterns

A written pattern is a row of alternatives, parted by bars; an alternative is a row of items, each
of which may have a mark behind it that says how often it is repeated; parentheses make a pattern
one item. A question mark behind the opening one gives a name to the group or sets flags, for the
group or up to the end of the group around. `Pattern.ofText` reads a pattern, or says what the first
fault is.
-/

namespace FencedDiff.Pattern

open Reading

/-! ## Alternatives -/

/-- What is read of a row of alternatives. -/
structure Row where
  /-- The alternatives before the last. -/
  earlier : Option Pattern := none
  /-- The last alternative but for its last item. -/
  front : Pattern := .empty
  /-- The last item, if it can be repeated. -/
  last : Option Pattern := none

namespace Row

/-- The last alternative as it is so far. -/
def current (r : Row) : Pattern :=
  match r.last with
  | some p => .andThen r.front p
  | none => r.front

def pattern (r : Row) : Pattern :=
  match r.earlier with
  | some p => .either p r.current
  | none => r.current

def push (r : Row) (p : Pattern) : Row := { r with front := r.current, last := some p }

/-- The row behind something that cannot be repeated. -/
def pause (r : Row) : Row := { r with front := r.current, last := none }

def next (r : Row) : Row := { earlier := some r.pattern }

end Row

/-! ## Groups -/

/-- A group that is open: the row and the flags around it, and its parenthesis. -/
structure OpenGroup where
  around : Row
  flags : Flags
  opening : Stretch

abbrev GroupName := List Char × Stretch

def Flags.switch (fs : Flags) (flag : Char) (on : Bool) : Flags :=
  if flag = 'i' then { fs with caseless := on }
  else if flag = 'm' then { fs with multiline := on }
  else if flag = 's' then { fs with dotAll := on }
  else if flag = 'R' then { fs with crlf := on }
  else if flag = 'u' then { fs with unicode := on }
  else if flag = 'x' then { fs with verbose := on }
  else fs

/-- The flags after several are switched: on, or off behind a dash. -/
def Flags.switchAll (fs : Flags) (items : List Char) : Flags :=
  (items.foldl (fun (state : Flags × Bool) item =>
    if item = '-' then (state.1, false) else (state.1.switch item state.2, state.2)) (fs, true)).1

/-- Reads flags up to a colon or a parenthesis; `items` are those so far with their places, in
reverse. -/
def flagItems (items : List (Char × Nat)) : Nat → Reading (List (Char × Nat))
  | 0 => return items
  | steps + 1 => do
    let pos ← here
    match ← peek with
    | none => return items
    | some c =>
      if c = ':' ∨ c = ')' then return items
      if !"-imsURux".contains c then fail .flagUnrecognized pos (pos + 1)
      match items.lookup c with
      | some first =>
        throw ⟨if c = '-' then .flagRepeatedNegation else .flagDuplicate, ⟨pos, pos + 1⟩,
          some ⟨first, first + 1⟩⟩
      | none =>
        if !(← take 1) then fail .flagUnfinished (← here) (← here)
        flagItems ((c, pos) :: items) steps

def isNameChar (isFirst : Bool) (c : Char) : Bool :=
  c == '_' ||
    if isFirst then isAlphanumeric c && !numeralRanges.contains c
    else c == '.' || c == '[' || c == ']' || isAlphanumeric c

/-- Reads the characters of a group's name; `done` are those so far, in reverse. -/
def nameChars (done : List Char) : Nat → Reading (List Char)
  | 0 => return done.reverse
  | steps + 1 => do
    match ← peek with
    | none => return done.reverse
    | some c =>
      if c = '>' then return done.reverse
      if !isNameChar done.isEmpty c then fail .groupNameInvalid (← here) ((← here) + 1)
      let _ ← take 1
      nameChars (c :: done) steps

/-- Reads the name of a group; `names` are those that there are. -/
def groupName (names : List GroupName) : Reading GroupName := do
  let start ← here
  let name ← nameChars [] (← steps)
  let stop ← here
  if (← peek).isNone then fail .groupNameUnfinished stop stop
  let _ ← take 1
  if name.isEmpty then fail .groupNameEmpty start start
  match names.lookup name with
  | some first => throw ⟨.groupNameDuplicate, ⟨start, stop⟩, some first⟩
  | none => return (name, ⟨start, stop⟩)

inductive Opening where
  /-- Flags for what follows. -/
  | flags (items : List Char)
  /-- A group, with flags and maybe a name of its own. -/
  | group (items : List Char) (name : Option GroupName)

def groupOpening (names : List GroupName) : Reading Opening := do
  let start ← here
  let _ ← take 1
  skipSpace
  let inner ← here
  for ahead in [['?', '='], ['?', '!'], ['?', '<', '='], ['?', '<', '!']] do
    if ← takeIf ahead then fail .lookAround start (← here)
  if (← takeIf ['?', 'P', '<']) || (← takeIf ['?', '<']) then
    return .group [] (some (← groupName names))
  else if ← takeIf ['?'] then
    if (← peek).isNone then fail .groupUnclosed start (start + 1)
    let items ← flagItems [] (← steps)
    match items with
    | ('-', pos) :: _ => fail .flagDanglingNegation pos (pos + 1)
    | _ => pure ()
    let closing ← peek
    let _ ← take 1
    let flags := (items.map Prod.fst).reverse
    if closing = some ')' then
      if flags.isEmpty then fail .repetitionMissing inner inner
      return .flags flags
    else return .group flags none
  else return .group [] none

/-! ## Repetitions -/

/-- Reads digits; `done` are those so far, in reverse. -/
def countDigits (done : List Char) : Nat → Reading (List Char)
  | 0 => return done.reverse
  | steps + 1 => do
    match ← peek with
    | none => return done.reverse
    | some c =>
      if !c.isDigit then return done.reverse
      let _ ← advance
      countDigits (c :: done) steps

/-- Reads the number of a repetition, with the white space around it. A fault in it is answered, not
thrown, as it may turn out that the braces are not closed. -/
def count : Reading (Except Fault Nat) := do
  let _ ← take ((← get).rest.takeWhile isWhiteSpace).length
  let start ← here
  let digits ← countDigits [] (← steps)
  let stretch : Stretch := ⟨start, ← here⟩
  let _ ← take ((← get).rest.takeWhile isWhiteSpace).length
  skipSpace
  let n := digits.foldl (fun n c => n * 10 + (c.toNat - '0'.toNat)) 0
  return if digits.isEmpty then .error ⟨.repetitionDecimalEmpty, stretch, none⟩
    else if n < 4294967296 then .ok n
    else .error ⟨.decimalInvalid, stretch, none⟩

/-- Reads how often an item is repeated from the opening brace on: at least and at most. -/
def counts : Reading (Nat × Option Nat) := do
  let start ← here
  if !(← advance) then fail .repetitionUnclosed start (← here)
  let low ← count
  let range ← match ← peek with
    | none => fail .repetitionUnclosed start (← here)
    | some ',' =>
      if !(← advance) then fail .repetitionUnclosed start (← here)
      if (← peek) = some '\x7d' then
        let n ← low
        pure (n, none)
      else
        let m ← low
        let n ← (← count)
        pure (m, some n)
    | _ =>
      let n ← low
      pure (n, some n)
  if (← peek) ≠ some '\x7d' then fail .repetitionUnclosed start (← here)
  if (← advance) && (← peek) == some '?' then
    let _ ← take 1
  if range.2.any (· < range.1) then fail .repetitionInvalid start (← here)
  return range

def repetition (mark : Char) : Reading (Nat × Option Nat) := do
  if mark = '\x7b' then counts
  else
    if (← take 1) && (← peek) == some '?' then
      let _ ← take 1
    return (if mark = '+' then 1 else 0, if mark = '?' then some 1 else none)

/-! ## Items -/

/-- What a character that is no part of any other form means. -/
def plainItem (c : Char) : Reading Pattern := do
  let pos ← here
  let fs ← flags
  let _ ← take 1
  if c = '.' then
    if !fs.unicode then note .notUtf8 ⟨pos, pos + 1⟩
    return .chars (if fs.dotAll then .all
      else if fs.crlf then .complement (.union (.single '\n') (.single '\r'))
      else .complement (.single '\n'))
  else if c = '^' then return .place (if fs.multiline then .lineStart fs.crlf else .textStart)
  else if c = '$' then return .place (if fs.multiline then .lineEnd fs.crlf else .textEnd)
  else return .chars (← folded (.single c))

def item (c : Char) : Reading Pattern := do
  if c = '[' then return .chars (← bracketSet)
  else if c = '\\' then
    match ← escapeSequence with
    | .literal d => return .chars (← folded (.single d))
    | .set s => return .chars s
    | .place a => return .place a
  else plainItem c

def setFlags (fs : Flags) : Reading Unit := modify fun r => { r with flags := fs }

/-- Reads a pattern up to the end, from the groups that are open, the row of the innermost, and the
names of groups so far. -/
def groups (opened : List OpenGroup) (row : Row) (names : List GroupName) : Nat → Reading Pattern
  | 0 => return row.pattern
  | steps + 1 => do
    skipSpace
    let pos ← here
    let fs ← flags
    match ← peek with
    | none =>
      match opened with
      | [] => return row.pattern
      | g :: _ => fail .groupUnclosed g.opening.start g.opening.stop
    | some c =>
      if c = '(' then
        match ← groupOpening names with
        | .flags items =>
          setFlags (fs.switchAll items)
          groups opened row.pause names steps
        | .group items name =>
          setFlags (fs.switchAll items)
          groups (⟨row, fs, ⟨pos, pos + 1⟩⟩ :: opened) {} (name.toList ++ names) steps
      else if c = ')' then
        match opened with
        | [] => fail .groupUnopened pos (pos + 1)
        | g :: opened =>
          let _ ← take 1
          setFlags g.flags
          groups opened (g.around.push row.pattern) names steps
      else if c = '|' then
        let _ ← take 1
        groups opened row.next names steps
      else if c = '?' ∨ c = '*' ∨ c = '+' ∨ c = '\x7b' then
        match row.last with
        | none => fail .repetitionMissing pos pos
        | some p =>
          let (low, high) ← repetition c
          groups opened { row with last := some (.repeated p low high) } names steps
      else groups opened (row.push (← item c)) names steps

def ofText (text : String) : Except Fault Pattern :=
  match (groups [] {} [] (text.length + 1)).run { rest := text.toList } with
  | .error f => .error f
  | .ok (p, r) =>
    match r.noted with
    | some f => .error f
    | none => .ok p

end FencedDiff.Pattern
