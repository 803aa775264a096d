import FencedDiff.Files.Tree
import FencedDiff.Text.Quoted
import FencedDiff.Text.Utf8

/-!
# What can be wrong with a configuration

A configuration file can be unreadable, no TOML, hold a key or value that means nothing, or a value
that is out of range. The reason is told for keys and for values of known fields, and of the faults
of a text that is no TOML for one only; the others and values of a wrong shape for a choice are
reported as such.
-/

namespace FencedDiff.Config

/-- Names in a list, each between backticks. -/
def listed (names : List String) : String :=
  ", ".intercalate (names.map fun name => "`" ++ name ++ "`")

def expected : List String → String
  | [a, b] => "expected `" ++ a ++ "` or `" ++ b ++ "`"
  | names => "expected one of " ++ listed names

/-- Why a text, or a key or value in it, means nothing. -/
inductive ValueError where
  /-- An escape in a string gives no character. -/
  | noCharacter
  /-- No field has this name. -/
  | unknownField (name : String) (known : List String)
  /-- A choice does not have this alternative. -/
  | unknownVariant (name : String) (known : List String)
  /-- A number that counts something is negative. -/
  | negative (value : Int)
  /-- A number was wanted, and `found` stands there. -/
  | notANumber (found : String)
  /-- Something else, which is not told. -/
  | untold
  deriving DecidableEq, Repr

def ValueError.reason? : ValueError → Option String
  | .noCharacter => some "invalid value, expected unicode hexadecimal value"
  | .unknownField name known => some ("unknown field `" ++ name ++ "`, " ++ expected known)
  | .unknownVariant name known => some ("unknown variant `" ++ name ++ "`, " ++ expected known)
  | .negative value => some ("invalid value: integer `" ++ toString value ++ "`, expected usize")
  | .notANumber found => some ("invalid type: " ++ found ++ ", expected usize")
  | .untold => none

inductive ReadError where
  | file (cause : FileError)
  | notText
  deriving DecidableEq, Repr

def ReadError.message : ReadError → String
  | .file cause => cause.message
  | .notText => "stream did not contain valid UTF-8"

end FencedDiff.Config

namespace FencedDiff

inductive ConfigError where
  /-- The file cannot be read. -/
  | unreadable (path : String) (cause : Config.ReadError)
  /-- The file is no TOML, or a key or value in it means nothing. -/
  | unparsable (path : String) (cause : Config.ValueError)
  /-- A field that has to be positive is zero. -/
  | zero (path field : String)
  deriving DecidableEq, Repr

/-- What is wrong, in general; the cause of a parse error is not part of it. -/
def ConfigError.headline : ConfigError → String
  | .unreadable path cause =>
    "Failed to read config file at " ++ path ++ ": " ++ cause.message
  | .unparsable path _ => "Failed to parse config file at " ++ path
  | .zero path field =>
    "Invalid value for `" ++ field ++ "` in " ++ path ++ ": must be at least 1"

/-- What is wrong, with the cause of a parse error if that is told. -/
def ConfigError.message (e : ConfigError) : String :=
  match e with
  | .unparsable _ cause => e.headline ++ ": " ++ cause.reason?.getD ""
  | _ => e.headline

end FencedDiff
