import FencedDiff.Number.Binary64

/-!
# TOML values and tables

A table is a list of keys and values in the order of their definition; no key stands twice in it.
How a table came about decides whether a later line may add to it: a table with a header of its own
cannot be defined again, one that is only on the way to a deeper header can still get its header,
one that dotted keys made belongs to dotted keys, and an inline table is complete. Each operation
here adds one definition to a table and refuses what would define something twice.
-/

namespace FencedDiff.Toml

/-- How a table came about. -/
inductive TableKind where
  /-- By a header of its own. -/
  | header
  /-- On the way to the table of a header. -/
  | implied
  /-- On the way to the value of a dotted key. -/
  | dotted
  /-- In braces. -/
  | inlined
  deriving DecidableEq, Repr

inductive Malformed where
  /-- The number of an escape is not that of a character. -/
  | noCharacter
  /-- Anything else. -/
  | other
  deriving DecidableEq, Repr

inductive FloatLiteral where
  | finite (value : Decimal)
  | infinite (negative : Bool)
  | notANumber
  deriving DecidableEq, Repr

inductive Value where
  | string (text : String)
  | integer (value : Int)
  /-- An integer whose digits give no number. -/
  | brokenInteger
  | float (value : FloatLiteral)
  | boolean (value : Bool)
  /-- A date, a time of day, or both. -/
  | datetime
  | array (items : List Value)
  | table (kind : TableKind) (entries : List (String × Value))
  /-- The tables of a header in double brackets: the earlier ones, and the one that is open. -/
  | tables (earlier : List (List (String × Value))) (last : List (String × Value))
  deriving Repr

/-- A table: its keys and values in the order of their definition. -/
abbrev Table := List (String × Value)

namespace Table

def get? (t : Table) (key : String) : Option Value := List.lookup key t

/-- The table with another value for a key that it has. -/
def replace (t : Table) (key : String) (value : Value) : Table :=
  t.map fun e => if e.1 == key then (key, value) else e

/-- Adds a key that the table does not have. -/
def insert? (t : Table) (key : String) (value : Value) : Option Table :=
  match t.get? key with
  | some _ => none
  | none => some (t ++ [(key, value)])

/-- Changes the table that a header names, starting from `t`. Tables missing on the way are
implied; of tables in double brackets the open one is meant. -/
def change? (f : Table → Option Table) : List String → Table → Option Table
  | [], t => f t
  | key :: path, t =>
    match t.get? key with
    | none => (change? f path []).map fun u => t ++ [(key, .table .implied u)]
    | some (.table .inlined _) => none
    | some (.table kind u) => (change? f path u).map fun v => t.replace key (.table kind v)
    | some (.tables us u) => (change? f path u).map fun v => t.replace key (.tables us v)
    | some _ => none

/-- Gives a table its header. A table that is only implied so far may get one. -/
def openTable? (key : String) (t : Table) : Option Table :=
  match t.get? key with
  | none => some (t ++ [(key, .table .header [])])
  | some (.table .implied u) => some (t.replace key (.table .header u))
  | some _ => none

def openNext? (key : String) (t : Table) : Option Table :=
  match t.get? key with
  | none => some (t ++ [(key, .tables [] [])])
  | some (.tables us u) => some (t.replace key (.tables (us ++ [u]) []))
  | some _ => none

/-- Defines the value of a dotted key: `path` leads to the table, `key` is the last part. The table
that gets the key has to be one that dotted keys made, unless there is no path. -/
def define? (key : String) (value : Value) : List String → Table → Option Table
  | [], t => t.insert? key value
  | next :: path, t =>
    match t.get? next with
    | none => (define? key value path []).map fun u => t ++ [(next, .table .dotted u)]
    | some (.table .dotted u) =>
      (define? key value path u).map fun v => t.replace next (.table .dotted v)
    | some (.table .implied u) =>
      if path.isEmpty then none
      else (define? key value path u).map fun v => t.replace next (.table .implied v)
    | some (.tables us u) =>
      if path.isEmpty then none
      else (define? key value path u).map fun v => t.replace next (.tables us v)
    | some _ => none

end Table

end FencedDiff.Toml
