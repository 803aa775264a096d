import FencedDiff.Toml.Value

/-!
# TOML scalars

A value that is written without quotes or brackets is a boolean, an integer, a floating point
number, a date or a time. Digits may be parted by single underscores, decimal integers have no
leading zero, and dates have to be in the calendar. Behind an underscore an integer may hold
anything; it is then an integer without a value.
-/

namespace FencedDiff.Toml

def digitValue? (base : Nat) (c : Char) : Option Nat :=
  let value :=
    if '0' ≤ c ∧ c ≤ '9' then c.toNat - '0'.toNat
    else if 'a' ≤ c ∧ c ≤ 'f' then c.toNat - 'a'.toNat + 10
    else if 'A' ≤ c ∧ c ≤ 'F' then c.toNat - 'A'.toNat + 10
    else base
  if value < base then some value else none

/-- Reads digits, parted by single underscores if at all, as the rest of a number that begins with
`high`. -/
def digits? (base high : Nat) : List Char → Option Nat
  | [] => none
  | c :: rest =>
    match digitValue? base c with
    | none => none
    | some d =>
      let high := high * base + d
      match rest with
      | [] => some high
      | '_' :: rest => digits? base high rest
      | c :: rest => digits? base high (c :: rest)

/-- Reads an integer without sign in decimal: no zero in front of other digits. -/
def decimal? : List Char → Option Nat
  | ['0'] => some 0
  | '0' :: _ => none
  | cs => digits? 10 0 cs

def sign : List Char → Bool × List Char
  | '-' :: rest => (true, rest)
  | '+' :: rest => (false, rest)
  | cs => (false, cs)

/-- Whether every underscore stands between two characters that `isDigit` accepts; `before` says
whether the character in front is one. -/
def partsDigits (isDigit : Char → Bool) (before : Bool) : List Char → Bool
  | [] => true
  | '_' :: rest => before && rest.head?.any isDigit && partsDigits isDigit false rest
  | c :: rest => partsDigits isDigit (isDigit c) rest

/-- The integer that digits of a base give, if underscores stand between digits alone. Digits of
another base, or none at all, still make an integer, but a broken one. -/
def integer (base : Nat) (negative : Bool) (cs : List Char) : Option Value :=
  if partsDigits (fun c => (digitValue? 16 c).isSome) false cs then
    match digits? base 0 cs with
    | some n => some (.integer (if negative then -(n : Int) else n))
    | none => some .brokenInteger
  else none

def prefixed? (base : Nat) (cs : List Char) : Option Value :=
  if cs.all fun c => c == '_' || (digitValue? base c).isSome then integer base false cs else none

def power? (cs : List Char) : Option Int :=
  let s := sign cs
  (digits? 10 0 s.2).map fun n => if s.1 then -(n : Int) else n

/-- Reads a floating point number: digits with a fraction, a power of ten or both. -/
def float? (cs : List Char) : Option FloatLiteral :=
  let s := sign cs
  let isE := fun c => c == 'e' || c == 'E'
  let plain := s.2.takeWhile fun c => !isE c
  let power := s.2.dropWhile fun c => !isE c
  let whole := plain.takeWhile (· != '.')
  let fraction := plain.dropWhile (· != '.')
  match decimal? whole, fraction, power with
  | none, _, _ => none
  | some _, [], [] => none
  | some n, [], _ :: power =>
    (power? power).map fun e => .finite ⟨s.1, n, e⟩
  | some n, _ :: fraction, power =>
    match digits? 10 n fraction with
    | none => none
    | some m =>
      let places : Int := (fraction.filter (· != '_')).length
      match power with
      | [] => some (.finite ⟨s.1, m, -places⟩)
      | _ :: power => (power? power).map fun e => .finite ⟨s.1, m, e - places⟩

/-- Reads `count` digits, without underscores. -/
def exactly? (count : Nat) (cs : List Char) : Option (Nat × List Char) :=
  let front := cs.take count
  if front.length = count && front.all Char.isDigit then
    (digits? 10 0 front).map fun n => (n, cs.drop count)
  else none

def daysIn (year month : Nat) : Nat :=
  if month = 2 then
    if year % 4 = 0 && (year % 100 != 0 || year % 400 = 0) then 29 else 28
  else if month = 4 || month = 6 || month = 9 || month = 11 then 30
  else 31

/-- Reads a date; answers what comes after it. -/
def date? (cs : List Char) : Option (List Char) :=
  match exactly? 4 cs with
  | some (year, '-' :: rest) =>
    match exactly? 2 rest with
    | some (month, '-' :: rest) =>
      match exactly? 2 rest with
      | some (day, rest) =>
        if 1 ≤ month && month ≤ 12 && 1 ≤ day && day ≤ daysIn year month then some rest else none
      | none => none
    | _ => none
  | _ => none

def secondFraction? : List Char → Option (List Char)
  | '.' :: rest =>
    if (rest.takeWhile Char.isDigit).isEmpty then none else some (rest.dropWhile Char.isDigit)
  | cs => some cs

/-- Reads a time of day; answers what comes after it. Seconds may be left out. -/
def time? (cs : List Char) : Option (List Char) :=
  match exactly? 2 cs with
  | some (hour, ':' :: rest) =>
    match exactly? 2 rest with
    | some (minute, rest) =>
      if hour ≤ 23 && minute ≤ 59 then
        match rest with
        | ':' :: rest =>
          match exactly? 2 rest with
          | some (second, rest) => if second ≤ 60 then secondFraction? rest else none
          | none => none
        | _ => some rest
      else none
    | none => none
  | _ => none

/-- Whether this is the offset from universal time, or nothing. -/
def isOffset : List Char → Bool
  | [] => true
  | [c] => c == 'Z' || c == 'z'
  | c :: rest =>
    (c == '+' || c == '-') &&
      match exactly? 2 rest with
      | some (hour, ':' :: rest) =>
        match exactly? 2 rest with
        | some (minute, rest) => hour ≤ 23 && minute ≤ 59 && rest.isEmpty
        | none => false
      | _ => false

/-- Whether this is a date, a time of day, or both with or without an offset. -/
def isDatetime (cs : List Char) : Bool :=
  match date? cs with
  | some [] => true
  | some (c :: rest) =>
    (c == 'T' || c == 't' || c == ' ') &&
      match time? rest with
      | some offset => isOffset offset
      | none => false
  | none => time? cs == some []

/-- Reads a number of digits, or a date or time. What the first characters that are no digits are
tells the sorts apart: all of `token` is a date or time when these are a dash or a colon, and of an
integer they are an underscore. -/
def numeric? (negative : Bool) (token body : List Char) : Option Value :=
  let rest := body.dropWhile Char.isDigit
  match rest with
  | '-' :: _ | ':' :: _ => if isDatetime token then some .datetime else none
  | _ =>
    if rest.contains ' ' then none
    else if rest.any fun c => c == '.' || c == 'e' || c == 'E' then (float? token).map .float
    else if rest.head?.any (· != '_') || (body.head? == some '0' && 1 < body.length) then none
    else integer 10 negative body

def scalar? (cs : List Char) : Option Value :=
  if cs = ['t', 'r', 'u', 'e'] then some (.boolean true)
  else if cs = ['f', 'a', 'l', 's', 'e'] then some (.boolean false)
  else
    match cs with
    | '0' :: 'x' :: rest => prefixed? 16 rest
    | '0' :: 'o' :: rest => prefixed? 8 rest
    | '0' :: 'b' :: rest => prefixed? 2 rest
    | _ =>
      let s := sign cs
      match s.2 with
      | ['i', 'n', 'f'] => some (.float (.infinite s.1))
      | ['n', 'a', 'n'] => some (.float .notANumber)
      | [] => none
      | c :: _ => if c.isDigit || c == '_' then numeric? s.1 cs s.2 else none

def isScalarChar (c : Char) : Bool :=
  !(c == '=' || c == ',' || c == '[' || c == ']' || c == '\x7b' || c == '\x7d' || c == ' ' ||
    c == '\t' || c == '#' || c == '\r' || c == '\n')

/-- Whether what comes behind blanks goes on with a scalar. -/
def goesOn : List Char → Bool
  | [] => false
  | ' ' :: rest => goesOn rest
  | '\t' :: rest => goesOn rest
  | c :: _ => isScalarChar c && !(c == '.' || c == '"' || c == '\'')

/-- Cuts the scalar at the beginning of a text; `done` are its characters so far, in reverse. Words
with blanks between them are taken together, as a date and a time may be parted by a space. -/
def cutScalar (done : List Char) : List Char → List Char × List Char
  | [] => (done.reverse, [])
  | c :: rest =>
    if isScalarChar c then cutScalar (c :: done) rest
    else if (c == ' ' || c == '\t') && goesOn rest then cutScalar (c :: done) rest
    else (done.reverse, c :: rest)

end FencedDiff.Toml
