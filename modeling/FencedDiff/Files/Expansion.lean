import FencedDiff.Text.Alphanumeric

/-!
# Variables and the home directory in paths

A path may name variables, `$NAME` or `${NAME}` or `${NAME:-default}`, and the home directory, by a
tilde that is the whole path or stands before its first slash. Two dollars stand for one. Values are
taken as they are: neither variables nor a tilde in them are expanded again. A variable that is not
set and has no default makes the whole path undefined.
-/

namespace FencedDiff

abbrev Environment := List (String × String)

/-- The value of a variable. A name and a value are kept as one word with an equals sign between
them, so it is the rest of the first word that begins with the name and the sign, even if the name
has such a sign in it. The empty name is that of no variable. -/
def Environment.value? (env : Environment) (name : String) : Option String :=
  if name.isEmpty then none
  else env.findSome? fun e =>
    ((name ++ "=").toList.isPrefixOf? (e.1 ++ "=" ++ e.2).toList).map String.ofList

namespace Expansion

/-- Whether a character can stand in the name of a variable without braces. -/
def isNameChar (c : Char) : Bool := isAlphanumeric c || c == '_'

/-- Cuts a text at its first `:-`. -/
def cutDefault : List Char → Option (List Char × List Char)
  | [] => none
  | ':' :: '-' :: rest => some ([], rest)
  | c :: rest => (cutDefault rest).map fun r => (c :: r.1, r.2)

/-- A part of a path: text, or a variable with what stands for it if it is not set. -/
inductive Piece where
  | literal (cs : List Char)
  | named (name : List Char) (default : Option (List Char))
  deriving DecidableEq, Repr

/-- What stands between braces: a name, maybe with a default. A default needs a name in front of
it. -/
def braced (inner : List Char) : Piece :=
  match cutDefault inner with
  | some (c :: name, default) => .named (c :: name) (some default)
  | _ => .named inner none

def pieces (cs : List Char) : List Piece :=
  match cs with
  | [] => []
  | '$' :: '\x7b' :: rest =>
    match rest.dropWhile (· != '\x7d') with
    | [] => .literal ['$', '\x7b'] :: pieces rest
    | _ :: _ =>
      let inner := rest.takeWhile (· != '\x7d')
      braced inner :: pieces (rest.drop (inner.length + 1))
  | '$' :: '$' :: rest => .literal ['$'] :: pieces rest
  | '$' :: rest =>
    let name := rest.takeWhile isNameChar
    if name.isEmpty then .literal ['$'] :: pieces rest
    else .named name none :: pieces (rest.drop name.length)
  | c :: rest => .literal [c] :: pieces rest
termination_by cs.length
decreasing_by all_goals (simp only [List.length_cons, List.length_drop]; omega)

def mentioned (cs : List Char) : List String :=
  (pieces cs).filterMap fun piece =>
    match piece with
    | .literal _ => none
    | .named name _ => some (String.ofList name)

/-- What a piece stands for, unless it is a variable that is not set and has no default. -/
def Piece.value? (env : Environment) : Piece → Option (List Char)
  | .literal cs => some cs
  | .named name default =>
    match Environment.value? env (String.ofList name) with
    | some value => some value.toList
    | none => default

def variables? (env : Environment) (cs : List Char) : Option (List Char) :=
  ((pieces cs).mapM (Piece.value? env)).map List.flatten

def hasTilde : List Char → Bool
  | '~' :: _ => true
  | _ => false

/-- Puts the home directory for the tilde of a path. A tilde with a name behind it stays. -/
def tilde (home : Option (List Char)) (cs : List Char) : List Char :=
  match home, cs with
  | some home, ['~'] => home
  | some home, '~' :: '/' :: rest => home ++ '/' :: rest
  | _, _ => cs

/-- Expands a path. A tilde that a variable brought in stays. -/
def full? (env : Environment) (home : Option (List Char)) (cs : List Char) :
    Option (List Char) :=
  (variables? env cs).map fun expanded =>
    if hasTilde expanded && !hasTilde cs then expanded else tilde home expanded

end Expansion

namespace Environment

/-- The home directory, unless it is empty or not known. -/
def home? (env : Environment) : Option (List Char) :=
  match env.value? "HOME" with
  | some "" => none
  | some home => some home.toList
  | none => none

/-- The path with variables and home directory expanded; none if a variable is not set. -/
def expand? (env : Environment) (path : String) : Option String :=
  (Expansion.full? env env.home? path.toList).map String.ofList

/-- Where the configuration is kept unless the command is told otherwise. -/
def configPath (env : Environment) : String :=
  String.ofList (Expansion.tilde env.home? "~/.config/diffence".toList) ++ "/config.toml"

end Environment

end FencedDiff
