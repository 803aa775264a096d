import FencedDiff.Toml.Quotation

/-!
# The grammar of TOML documents

A document is a list of statements, one a line: a key with its value, a header of a table, or a
header in double brackets. Here the text is taken apart into statements, whose words stay as they
are written; what a string, a number or a bare key means, and whether it means anything, is not
asked. Arrays and inline tables nest up to `maxDepth` deep, which is also what bounds the recursion
on values; every other loop makes the text shorter.
-/

namespace FencedDiff.Toml

/-! ## Words as they are written -/

inductive KeyWord where
  | bare (cs : List Char)
  | quoted (q : Quotation)
  deriving Repr

/-- A key: the parts before the last, and the last. -/
structure KeyPath where
  path : List KeyWord
  last : KeyWord
  deriving Repr

inductive Node where
  | scalar (cs : List Char)
  | quoted (q : Quotation)
  | array (items : List Node)
  | inlined (definitions : List (KeyPath × Node))
  deriving Repr

inductive Statement where
  /-- A key has a value. -/
  | define (key : KeyPath) (value : Node)
  /-- The definitions that follow belong to a table. -/
  | header (key : KeyPath)
  /-- The definitions that follow belong to a new table of those with this name. -/
  | nextHeader (key : KeyPath)
  deriving Repr

/-! ## Reading -/

/-- How deep arrays and inline tables may nest. -/
def maxDepth : Nat := 80

def skipBlanks (cs : List Char) : List Char := cs.dropWhile isBlankChar

def newline? : List Char → Option (List Char)
  | '\n' :: rest => some rest
  | '\r' :: '\n' :: rest => some rest
  | _ => none

def skipComment : List Char → List Char
  | '#' :: rest => rest.dropWhile fun c => !isForbidden c
  | cs => cs

/-- Drops blanks, newlines and comments; `comment` says whether a comment goes on. -/
def skipGap (comment : Bool) : List Char → List Char
  | [] => []
  | '\n' :: rest => skipGap false rest
  | '\r' :: '\n' :: rest => skipGap false rest
  | c :: rest =>
    if comment then if isForbidden c then c :: rest else skipGap true rest
    else if isBlankChar c then skipGap false rest
    else if c = '#' then skipGap true rest
    else c :: rest

/-- Reads the items between two brackets, parted by commas; a comma may follow the last. `done` are
the items so far, in reverse. -/
def items? {α : Type} (item? : List Char → Option (α × List Char)) (close : Char) (done : List α)
    (cs : List Char) : Option (List α × List Char) :=
  match skipGap false cs with
  | [] => none
  | c :: rest =>
    if c = close then some (done.reverse, rest)
    else
      match item? (c :: rest) with
      | none => none
      | some (a, after) =>
        match skipGap false after with
        | [] => none
        | d :: next =>
          if d = close then some ((a :: done).reverse, next)
          else if d = ',' ∧ next.length < cs.length then items? item? close (a :: done) next
          else none
termination_by cs.length

/-- Whether a character can stand in a part of a key without quotation marks. -/
def isKeyChar (c : Char) : Bool := isScalarChar c && c != '.'

def keyWord? (cs : List Char) : Option (KeyWord × List Char) :=
  match quotation? cs with
  | some (q, rest) => some (.quoted q, rest)
  | none =>
    let bare := cs.takeWhile isKeyChar
    if bare.isEmpty then none else some (.bare bare, cs.dropWhile isKeyChar)

/-- Reads a key, whose parts have dots and maybe blanks between them, and blanks behind it. `done`
are the parts so far, in reverse. -/
def keyPath? (done : List KeyWord) (cs : List Char) : Option (KeyPath × List Char) :=
  match keyWord? (skipBlanks cs) with
  | none => none
  | some (word, after) =>
    match skipBlanks after with
    | '.' :: next =>
      if next.length < cs.length then keyPath? (word :: done) next else none
    | rest => some (⟨done.reverse, word⟩, rest)
termination_by cs.length

/-- Reads a key, an equals sign and a value; `skip` drops what may stand around the sign. -/
def definition? (skip : List Char → List Char) (value? : List Char → Option (Node × List Char))
    (cs : List Char) : Option ((KeyPath × Node) × List Char) :=
  match keyPath? [] cs with
  | none => none
  | some (key, after) =>
    match skip after with
    | '=' :: rest => (value? (skip rest)).map fun v => ((key, v.1), v.2)
    | _ => none

/-- Reads a value in which arrays and inline tables nest at most `depth` deep. -/
def value? (depth : Nat) (cs : List Char) : Option (Node × List Char) :=
  match cs with
  | [] => none
  | c :: rest =>
    if c = '[' then
      match depth with
      | 0 => none
      | depth + 1 => (items? (value? depth) ']' [] rest).map fun r => (.array r.1, r.2)
    else if c = '\x7b' then
      match depth with
      | 0 => none
      | depth + 1 =>
        (items? (definition? (skipGap false) (value? depth)) '\x7d' [] rest).map fun r =>
          (.inlined r.1, r.2)
    else
      match quotation? cs with
      | some (q, after) => some (.quoted q, after)
      | none =>
        let word := cutScalar [] cs
        if word.1.isEmpty then none else some (.scalar word.1, word.2)

def statement? (cs : List Char) : Option (Statement × List Char) :=
  match cs with
  | '[' :: '[' :: rest =>
    match keyPath? [] rest with
    | some (key, ']' :: ']' :: after) => some (.nextHeader key, after)
    | _ => none
  | '[' :: rest =>
    match keyPath? [] rest with
    | some (key, ']' :: after) => some (.header key, after)
    | _ => none
  | _ => (definition? skipBlanks (value? maxDepth) cs).map fun d => (.define d.1.1 d.1.2, d.2)

/-- Reads a line up to its newline or the end of the text: a statement or none. -/
def line? (cs : List Char) : Option (Option Statement × List Char) :=
  let cs := skipBlanks cs
  let finish (s : Option Statement) (rest : List Char) :
      Option (Option Statement × List Char) :=
    match skipComment (skipBlanks rest) with
    | [] => some (s, [])
    | rest => (newline? rest).map fun next => (s, next)
  match cs with
  | [] => some (none, [])
  | c :: _ =>
    if c = '#' ∨ (newline? cs).isSome then finish none cs
    else
      match statement? cs with
      | some (s, rest) => finish (some s) rest
      | none => none

/-- Reads the statements of a text; `done` are those so far, in reverse. -/
def statements? (done : List Statement) (cs : List Char) : Option (List Statement) :=
  if cs.isEmpty then some done.reverse
  else
    match line? cs with
    | none => none
    | some (s, rest) =>
      if rest.length < cs.length then statements? (s.toList ++ done) rest else none
termination_by cs.length

/-- Drops the mark that may stand in front of a text to say that it is Unicode. -/
def dropByteOrderMark : List Char → List Char
  | '\ufeff' :: rest => rest
  | cs => cs

end FencedDiff.Toml
