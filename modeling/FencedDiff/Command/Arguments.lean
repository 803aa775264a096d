import FencedDiff.Options
import FencedDiff.Text.ControlSequence

/-!
# The arguments of the command

Arguments are read from left to right. A flag counts at once. An option keeps its value until the
next flag, option or positional argument is met, and only then is the value read and a second use
noticed; so of two faults the one met first in this sense is reported. After `--` everything is
positional. At the end the arguments that are there are checked against each other, in the order of
their first use.
-/

namespace FencedDiff.Command

inductive Arg where
  | input
  | output
  | inPlace
  | check
  | policy
  | scanner
  | config
  | initConfig
  | help
  | version
  deriving DecidableEq, Repr

namespace Arg

def display : Arg → String
  | .input => "[INPUT]"
  | .output => "--output <OUTPUT>"
  | .inPlace => "--in-place"
  | .check => "--check"
  | .policy => "--policy <POLICY>"
  | .scanner => "--scanner <SCANNER>"
  | .config => "--config <CONFIG>"
  | .initConfig => "--init-config"
  | .help => "--help"
  | .version => "--version"

def takesValue : Arg → Bool
  | .input | .output | .policy | .scanner | .config => true
  | .inPlace | .check | .initConfig | .help | .version => false

def ofLong? (name : String) : Option Arg :=
  match name with
  | "output" => some .output
  | "in-place" => some .inPlace
  | "check" => some .check
  | "policy" => some .policy
  | "scanner" => some .scanner
  | "config" => some .config
  | "init-config" => some .initConfig
  | "help" => some .help
  | "version" => some .version
  | _ => none

def ofShort? (name : Char) : Option Arg :=
  match name with
  | 'o' => some .output
  | 'i' => some .inPlace
  | 'h' => some .help
  | 'V' => some .version
  | _ => none

def excludes : Arg → List Arg
  | .output => [.inPlace, .check]
  | .inPlace => [.check]
  | .initConfig => [.input, .output, .inPlace, .check, .policy, .scanner]
  | _ => []

/-- Whether two arguments cannot stand together. -/
def conflicts (a b : Arg) : Bool := a.excludes.contains b || b.excludes.contains a

end Arg

inductive UsageError where
  | unexpectedArgument (text : String)
  | unexpectedValue (value : String) (arg : Arg)
  | missingValue (arg : Arg)
  | invalidValue (value : String) (arg : Arg)
  | repeated (arg : Arg)
  | conflict (arg : Arg) (others : List Arg)
  | missingInput
  deriving DecidableEq, Repr

/-- A word as messages show it. Each is shown in a style of its own, which is reset behind it; what
is left of a control sequence in the word goes with the reset. -/
def shown (word : String) : String := withoutControls (word ++ "\x1b[0m")

/-- The first line of what a user is told. -/
def UsageError.message : UsageError → String
  | .unexpectedArgument text => "error: unexpected argument '" ++ shown text ++ "' found"
  | .unexpectedValue value arg =>
    "error: unexpected value '" ++ shown value ++ "' for '" ++ arg.display ++
      "' found; no more were expected"
  | .missingValue arg =>
    "error: a value is required for '" ++ arg.display ++ "' but none was supplied"
  | .invalidValue value arg =>
    "error: invalid value '" ++ shown value ++ "' for '" ++ arg.display ++ "'"
  | .repeated arg =>
    "error: the argument '" ++ arg.display ++ "' cannot be used multiple times"
  | .conflict arg [other] =>
    "error: the argument '" ++ arg.display ++ "' cannot be used with '" ++ other.display ++ "'"
  | .conflict arg _ => "error: the argument '" ++ arg.display ++ "' cannot be used with:"
  | .missingInput => "error: the following required arguments were not provided:"

/-- Why reading the arguments ends early. -/
inductive Stop where
  | usage (error : UsageError)
  | help
  | version
  deriving DecidableEq, Repr

structure Arguments where
  input : Option String := none
  output : Option String := none
  inPlace : Bool := false
  check : Bool := false
  policy : Option Policy := none
  scanner : Option ScannerKind := none
  config : Option String := none
  initConfig : Bool := false
  deriving DecidableEq, Repr

/-- The arguments read so far, and those that are there in the order of their first use. -/
structure Matches where
  arguments : Arguments := {}
  present : List Arg := []
  deriving DecidableEq, Repr

namespace Matches

def note (m : Matches) (arg : Arg) (arguments : Arguments) : Matches :=
  { arguments, present := m.present ++ [arg] }

/-- Reads a path, which cannot be empty. -/
def path (arg : Arg) (value : String) : Except Stop String :=
  if value.isEmpty then .error (.usage (.missingValue arg)) else .ok value

def choice {α : Type} (arg : Arg) (ofName? : String → Option α) (value : String) :
    Except Stop α :=
  match ofName? value with
  | some a => .ok a
  | none =>
    .error (.usage (if value.isEmpty then .missingValue arg else .invalidValue value arg))

def set (m : Matches) (arg : Arg) (value : String) : Except Stop Matches :=
  if m.present.contains arg then .error (.usage (.repeated arg))
  else
    let a := m.arguments
    match arg with
    | .input => (path arg value).map fun v => m.note arg { a with input := some v }
    | .output => (path arg value).map fun v => m.note arg { a with output := some v }
    | .config => (path arg value).map fun v => m.note arg { a with config := some v }
    | .policy =>
      (choice arg Policy.ofName? value).map fun v => m.note arg { a with policy := some v }
    | .scanner =>
      (choice arg ScannerKind.ofName? value).map fun v => m.note arg { a with scanner := some v }
    | _ => .ok m

/-- Sets a flag; help and version end the reading. -/
def setFlag (m : Matches) (arg : Arg) : Except Stop Matches :=
  if m.present.contains arg then .error (.usage (.repeated arg))
  else
    let a := m.arguments
    match arg with
    | .inPlace => .ok (m.note arg { a with inPlace := true })
    | .check => .ok (m.note arg { a with check := true })
    | .initConfig => .ok (m.note arg { a with initConfig := true })
    | .help => .error .help
    | .version => .error .version
    | _ => .ok m

/-- The first argument that conflicts with others, and these. -/
def conflict? (m : Matches) : Option (Arg × List Arg) :=
  m.present.findSome? fun arg =>
    match m.present.filter fun other => arg.conflicts other with
    | [] => none
    | others => some (arg, others)

def checked (m : Matches) : Except Stop Arguments :=
  match m.conflict? with
  | some (arg, others) => .error (.usage (.conflict arg others))
  | none =>
    if m.arguments.inPlace && m.arguments.input.isNone then .error (.usage .missingInput)
    else .ok m.arguments

end Matches

structure Reading where
  found : Matches := {}
  /-- An argument whose value is not read yet, with the value once it is there. -/
  pending : Option (Arg × Option String) := none
  /-- Whether `--` has been met. -/
  positionalOnly : Bool := false
  /-- Whether the positional argument has been met. -/
  hasInput : Bool := false

namespace Reading

/-- Reads the value that is pending. -/
def settle (r : Reading) : Except Stop Reading :=
  match r.pending with
  | none => .ok r
  | some (arg, none) => .error (.usage (.missingValue arg))
  | some (arg, some value) =>
    (r.found.set arg value).map fun found => { r with found, pending := none }

def flag (r : Reading) (arg : Arg) : Except Stop Reading := do
  let r ← r.settle
  return { r with found := ← r.found.setFlag arg }

def attached (r : Reading) (arg : Arg) (value : String) : Except Stop Reading := do
  let r ← r.settle
  return { r with found := ← r.found.set arg value }

/-- Takes an option whose value is to come. -/
def await (r : Reading) (arg : Arg) : Except Stop Reading := do
  let r ← r.settle
  return { r with pending := some (arg, none) }

def positional (r : Reading) (text : String) : Except Stop Reading :=
  if r.hasInput then .error (.usage (.unexpectedArgument text))
  else do
    let r ← r.settle
    return { r with pending := some (.input, some text), hasInput := true }

/-- Takes a long argument, without its two dashes. -/
def long (r : Reading) (text : List Char) : Except Stop Reading :=
  let name := String.ofList (text.takeWhile (· != '='))
  let value? :=
    match text.dropWhile (· != '=') with
    | [] => none
    | _ :: value => some (String.ofList value)
  match Arg.ofLong? name with
  | none => .error (.usage (.unexpectedArgument ("--" ++ name)))
  | some arg =>
    match arg.takesValue, value? with
    | true, some value => r.attached arg value
    | true, none => r.await arg
    | false, some value => .error (.usage (.unexpectedValue value arg))
    | false, none => r.flag arg

/-- Takes short arguments in one word, without its dash. What comes behind one that takes a value is
the value, maybe after an equals sign. -/
def short (r : Reading) : List Char → Except Stop Reading
  | [] => .ok r
  | c :: rest =>
    match Arg.ofShort? c with
    | none => .error (.usage (.unexpectedArgument ("-" ++ String.singleton c)))
    | some arg =>
      if arg.takesValue then
        match rest with
        | [] => r.await arg
        | '=' :: value => r.attached arg (String.ofList value)
        | value => r.attached arg (String.ofList value)
      else do (← r.flag arg).short rest

/-- Takes a word that is neither a long nor short argument. -/
def plain (r : Reading) (text : String) : Except Stop Reading :=
  match r.pending with
  | some (arg, none) => .ok { r with pending := some (arg, some text) }
  | _ => r.positional text

def take (r : Reading) (word : String) : Except Stop Reading :=
  if r.positionalOnly then r.positional word
  else
    match word.toList with
    | ['-', '-'] => .ok { r with positionalOnly := true }
    | '-' :: '-' :: text => r.long text
    | ['-'] => r.plain word
    | '-' :: text => r.short text
    | _ => r.plain word

end Reading

def Arguments.read (words : List String) : Except Stop Arguments := do
  let r ← words.foldlM Reading.take {}
  let r ← r.settle
  r.found.checked

end FencedDiff.Command
