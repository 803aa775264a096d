import FencedDiff.Document.Log
import FencedDiff.Files.Expansion
import FencedDiff.Pattern.Group
import FencedDiff.Text.ControlSequence

/-!
# Which records are shown

A filter is a list of directives parted by commas: a level for everything, or a target and a level.
The directive with the longest target that begins a record's target decides; a record is shown when
its level matters at least as much as the directive's. Without any directive only errors are shown.
Behind a slash there may be a pattern, which a message has to match besides. Words that are no
directives and patterns with faults are left out, with a warning.
-/

namespace FencedDiff

/-- Levels from most to least important, counted from one. -/
def Level.rank : Level → Nat
  | .error => 1
  | .warn => 2
  | .info => 3
  | .debug => 4
  | .trace => 5

/-- How a level is written, padded to one width. -/
def Level.label : Level → String
  | .error => "ERROR"
  | .warn => "WARN "
  | .info => "INFO "
  | .debug => "DEBUG"
  | .trace => "TRACE"

/-- A record as a line of the log. The lines of a message after its first are indented. -/
def LogRecord.line (r : LogRecord) : String :=
  withoutControls ("[" ++ r.level.label ++ " " ++ r.target ++ "] " ++
    "\n    ".intercalate (r.message.splitOn "\n"))

/-- Records whose target begins so, or all without a target, are shown up to a rank. -/
structure Directive where
  target : Option String := none
  rank : Nat
  deriving DecidableEq, Repr

/-- Which records are shown: the directives, in the order of their first use, and the pattern that
messages have to match. -/
structure LogFilter where
  directives : List Directive := []
  pattern : Option Pattern := none
  deriving Repr

namespace LogFilter

/-- The rank named by a word, whatever its case; `off` shows nothing. -/
def rank? (word : String) : Option Nat :=
  match word.toLower with
  | "off" => some 0
  | "error" => some 1
  | "warn" => some 2
  | "info" => some 3
  | "debug" => some 4
  | "trace" => some 5
  | _ => none

/-- Reads a directive; answers the text that is no level if it is none. A target alone shows all
that is written under it. -/
def directive (word : String) : Except String Directive :=
  match word.splitOn "=" with
  | [name] =>
    match rank? name with
    | some rank => .ok { rank }
    | none => .ok { target := some name, rank := 5 }
  | [target, level] =>
    let level := trimmed level
    if level.isEmpty then .ok { target := some target, rank := 5 }
    else
      match rank? level with
      | some rank => .ok { target := some target, rank }
      | none => .error level
  | _ => .error word

/-- Reads the words between commas, without the white space around them. -/
def readWords (words : String) : List (Except String Directive) :=
  (((words.splitOn ",").map trimmed).filter fun word => !word.isEmpty).map directive

/-- The directives with another one, which takes the place of one with the same target. -/
def withDirective (ds : List Directive) (d : Directive) : List Directive :=
  if ds.any fun e => e.target == d.target then
    ds.map fun e => if e.target == d.target then d else e
  else ds ++ [d]

def warning (text : String) : String := "warning: " ++ text ++ ", ignoring it"

/-- Reads the words of a filter; what is said about those that are left out comes with it. -/
def ofWords (words : String) : LogFilter × List String :=
  let found := readWords words
  ({ directives := (found.filterMap Except.toOption).foldl withDirective [] },
    found.filterMap fun r =>
      match r with
      | .ok _ => none
      | .error text => some (warning ("invalid logging spec '" ++ text ++ "'")))

def ofSpec (spec : String) : LogFilter × List String :=
  match spec.splitOn "/" with
  | [words] => ofWords words
  | [words, pattern] =>
    let (filter, warnings) := ofWords words
    match Pattern.ofText pattern with
    | .ok p => ({ filter with pattern := some p }, warnings)
    | .error fault =>
      (filter, warnings ++ [warning ("invalid regex filter - " ++ fault.message pattern)])
  | _ => ({}, [warning ("invalid logging spec '" ++ spec ++ "' (too many '/'s)")])

def variableName : String := "RUST_LOG"

/-- The filter of an environment, with what is said about it; warnings are shown by default. -/
def ofEnvironment (env : Environment) : LogFilter × List String :=
  ofSpec ((env.value? variableName).getD "warn")

def isAbout (target : String) (d : Directive) : Bool :=
  match d.target with
  | some start => target.startsWith start
  | none => true

/-- How many bytes of a target a directive fixes. -/
def weight (d : Directive) : Nat := (d.target.getD "").utf8ByteSize

/-- Of two directives, the one with the longer target; the later of equals. -/
def closer (a : Option Directive) (b : Directive) : Option Directive :=
  match a with
  | some a => if weight b < weight a then some a else some b
  | none => some b

/-- The greatest rank that is shown of a target. -/
def rankOf? (f : LogFilter) (target : String) : Option Nat :=
  if f.directives.isEmpty then some 1
  else ((f.directives.filter (isAbout target)).foldl closer none).map Directive.rank

def shows (f : LogFilter) (r : LogRecord) : Bool :=
  (f.rankOf? r.target).any (r.level.rank ≤ ·) && f.pattern.all fun p => p.isIn r.message

def lines (f : LogFilter) (records : List LogRecord) : List String :=
  (records.filter f.shows).map LogRecord.line

end LogFilter

end FencedDiff
