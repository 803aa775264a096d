/-!
# What is wrong with a written pattern

A fault has a reason and the stretch of the pattern that it is about, counted in characters. It is
reported with the pattern, carets under the stretch, and the reason. Two faults are about a second
stretch as well, which they repeat. A pattern of several lines is shown with the numbers of its
lines.
-/

namespace FencedDiff.Pattern

inductive Reason where
  | classEscapeInvalid
  | classRangeInvalid
  | classRangeLiteral
  | classUnclosed
  | decimalInvalid
  | escapeHexEmpty
  | escapeHexInvalid
  | escapeHexInvalidDigit
  | escapeUnfinished
  | escapeUnrecognized
  | flagDanglingNegation
  | flagDuplicate
  | flagRepeatedNegation
  | flagUnfinished
  | flagUnrecognized
  | groupNameDuplicate
  | groupNameEmpty
  | groupNameInvalid
  | groupNameUnfinished
  | groupUnclosed
  | groupUnopened
  | repetitionInvalid
  | repetitionDecimalEmpty
  | repetitionUnclosed
  | repetitionMissing
  | edgeUnclosed
  | edgeUnrecognized
  | edgeOrRepetitionUnfinished
  | unicodeClassInvalid
  | unicodePropertyNotFound
  | backreference
  | lookAround
  | notUtf8
  deriving DecidableEq, Repr

def Reason.text : Reason → String
  | .classEscapeInvalid => "invalid escape sequence found in character class"
  | .classRangeInvalid => "invalid character class range, the start must be <= the end"
  | .classRangeLiteral => "invalid range boundary, must be a literal"
  | .classUnclosed => "unclosed character class"
  | .decimalInvalid => "decimal literal invalid"
  | .escapeHexEmpty => "hexadecimal literal empty"
  | .escapeHexInvalid => "hexadecimal literal is not a Unicode scalar value"
  | .escapeHexInvalidDigit => "invalid hexadecimal digit"
  | .escapeUnfinished => "incomplete escape sequence, reached end of pattern prematurely"
  | .escapeUnrecognized => "unrecognized escape sequence"
  | .flagDanglingNegation => "dangling flag negation operator"
  | .flagDuplicate => "duplicate flag"
  | .flagRepeatedNegation => "flag negation operator repeated"
  | .flagUnfinished => "expected flag but got end of regex"
  | .flagUnrecognized => "unrecognized flag"
  | .groupNameDuplicate => "duplicate capture group name"
  | .groupNameEmpty => "empty capture group name"
  | .groupNameInvalid => "invalid capture group character"
  | .groupNameUnfinished => "unclosed capture group name"
  | .groupUnclosed => "unclosed group"
  | .groupUnopened => "unopened group"
  | .repetitionInvalid => "invalid repetition count range, the start must be <= the end"
  | .repetitionDecimalEmpty => "repetition quantifier expects a valid decimal"
  | .repetitionUnclosed => "unclosed counted repetition"
  | .repetitionMissing => "repetition operator missing expression"
  | .edgeUnclosed =>
    "special word boundary assertion is either unclosed or contains an invalid character"
  | .edgeUnrecognized =>
    "unrecognized special word boundary assertion, valid choices are: start, end, start-half " ++
      "or end-half"
  | .edgeOrRepetitionUnfinished =>
    "found either the beginning of a special word boundary or a bounded repetition on a \\b " ++
      "with an opening brace, but no closing brace"
  | .unicodeClassInvalid => "invalid Unicode character class"
  | .unicodePropertyNotFound => "Unicode property not found"
  | .backreference => "backreferences are not supported"
  | .lookAround => "look-around, including look-ahead and look-behind, is not supported"
  | .notUtf8 => "pattern can match invalid UTF-8"

/-- The characters of a written pattern from `start` up to, not including, `stop`. -/
structure Stretch where
  start : Nat
  stop : Nat
  deriving DecidableEq, Repr

structure Fault where
  reason : Reason
  stretch : Stretch
  /-- What the fault repeats. -/
  repeats : Option Stretch := none
  deriving DecidableEq, Repr

/-- A line of a pattern: where it begins, and its characters. -/
structure PatternLine where
  start : Nat
  chars : List Char

/-- The lines of a pattern; `line` is what is read of the one that begins at `start`, in reverse. -/
def linesOf (start : Nat) (line : List Char) : List Char → List PatternLine
  | [] => [⟨start, line.reverse⟩]
  | c :: rest =>
    if c = '\n' then ⟨start, line.reverse⟩ :: linesOf (start + line.length + 1) [] rest
    else linesOf start (c :: line) rest

def PatternLine.holds (l : PatternLine) (place : Nat) : Bool :=
  l.start ≤ place && place ≤ l.start + l.chars.length

/-- Puts carets under stretches of a line, in their order, from column `column` on. -/
def carets (line : PatternLine) (column : Nat) : List Stretch → List Char
  | [] => []
  | s :: rest =>
    let first := s.start - line.start
    let count := max 1 (s.stop - s.start)
    List.replicate (first - column) ' ' ++ List.replicate count '^' ++
      carets line (max column first + count) rest

/-- The line and column of a place, counted from one. -/
def lineAndColumn (ls : List PatternLine) (place : Nat) : Nat × Nat :=
  match ls.zipIdx.find? fun l => l.1.holds place with
  | some (l, i) => (i + 1, place - l.start + 1)
  | none => (1, 1)

/-- The stretches that a fault is about, in the order of the pattern. -/
def Fault.stretches (f : Fault) : List Stretch :=
  match f.repeats with
  | none => [f.stretch]
  | some s => if s.start < f.stretch.start then [s, f.stretch] else [f.stretch, s]

def flushRight (width : Nat) (s : String) : String :=
  String.ofList (List.replicate (width - s.length) ' ') ++ s

def Fault.message (f : Fault) (pattern : String) : String :=
  let all := linesOf 0 [] pattern.toList
  let several := pattern.contains '\n'
  let width := (toString all.length).length
  let shown := all.zipIdx.flatMap fun (line, i) =>
    let margin := if several then flushRight width (toString (i + 1)) ++ ": " else "    "
    let inLine := f.stretches.filter fun s => line.holds s.start && line.holds s.stop
    let isLast := several && i + 1 == all.length && line.chars.isEmpty
    (if isLast then [] else [margin ++ String.ofList line.chars]) ++
      if inLine.isEmpty || isLast then []
      else [String.ofList (List.replicate margin.length ' ' ++ carets line 0 inLine)]
  let apart := f.stretches.filter fun s =>
    !all.any fun line => line.holds s.start && line.holds s.stop
  let notes := apart.map fun s =>
    let first := lineAndColumn all s.start
    let last := lineAndColumn all s.stop
    "on line " ++ toString first.1 ++ " (column " ++ toString first.2 ++ ") through line " ++
      toString last.1 ++ " (column " ++ toString last.2 ++ ")"
  let divider := String.ofList (List.replicate 79 '~')
  let body := if several then [divider] ++ shown ++ [divider] ++ notes else shown
  "\n".intercalate (["regex parse error:"] ++ body ++ ["error: " ++ f.reason.text])

end FencedDiff.Pattern
