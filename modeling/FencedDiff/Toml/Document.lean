import FencedDiff.Toml.Syntax

/-!
# TOML documents

Reading a document has two stages. The first takes the text apart and knows only the grammar. The
second goes through the statements in order, finds out what their words mean, and builds the table;
it ends at the first word that means nothing, key that is too long, or definition that is there
already. So a fault of grammar anywhere in a text comes before a fault of any other sort.
-/

namespace FencedDiff.Toml

def maxParts : Nat := 80

def orMalformed {α : Type} : Option α → Except Malformed α
  | some a => .ok a
  | none => .error .other

def isBareKeyChar (c : Char) : Bool := c.isAlphanum || c == '_' || c == '-'

/-- The text of a part of a key. A part cannot go over several lines. -/
def KeyWord.text : KeyWord → Except Malformed String
  | .bare cs => if cs.all isBareKeyChar then .ok (String.ofList cs) else .error .other
  | .quoted q => if q.isLong then .error .other else q.text

def KeyPath.texts (k : KeyPath) : Except Malformed (List String × String) := do
  let path ← k.path.mapM KeyWord.text
  let last ← k.last.text
  if maxParts ≤ path.length then throw .other
  return (path, last)

mutual

def Node.value : Node → Except Malformed Value
  | .scalar cs => orMalformed (scalar? cs)
  | .quoted q => q.text.map .string
  | .array items => (valuesOf [] items).map .array
  | .inlined definitions => (definedBy [] definitions).map (.table .inlined)

/-- The values that are meant; `done` are those so far, in reverse. -/
def valuesOf (done : List Value) : List Node → Except Malformed (List Value)
  | [] => .ok done.reverse
  | node :: rest => do
    let value ← node.value
    valuesOf (value :: done) rest

def definedBy (t : Table) : List (KeyPath × Node) → Except Malformed Table
  | [] => .ok t
  | (key, node) :: rest => do
    let (path, last) ← key.texts
    let value ← node.value
    let t ← orMalformed (Table.define? last value path t)
    definedBy t rest

end

/-- A table that is being built, and the header that definitions go to. -/
structure Builder where
  root : Table := []
  here : List String := []

def Builder.add (b : Builder) : Statement → Except Malformed Builder
  | .define key node => do
    let (path, last) ← key.texts
    let value ← node.value
    let root ← orMalformed (Table.change? (Table.define? last value path) b.here b.root)
    return { b with root }
  | .header key => do
    let (path, last) ← key.texts
    let root ← orMalformed (Table.change? (Table.openTable? last) path b.root)
    return { root, here := path ++ [last] }
  | .nextHeader key => do
    let (path, last) ← key.texts
    let root ← orMalformed (Table.change? (Table.openNext? last) path b.root)
    return { root, here := path ++ [last] }

def Table.ofStatements (statements : List Statement) : Except Malformed Table :=
  (statements.foldlM Builder.add {}).map Builder.root

def parse (cs : List Char) : Except Malformed Table := do
  Table.ofStatements (← orMalformed (statements? [] (dropByteOrderMark cs)))

end FencedDiff.Toml
