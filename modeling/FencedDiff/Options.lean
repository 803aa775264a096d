/-!
# Options

What a formatting pass may be told: how bodies move, which scanner finds the blocks, and the limits
that keep a pass from taking on too much. Limits are 64-bit words, since that is what a
configuration can hold; they are compared with lengths and indents as natural numbers.
-/

namespace FencedDiff

/-- How the lines of a body move. -/
inductive Policy where
  /-- Only removed and added lines move: the fence's indentation goes in front of the marker, and up
  to as many spaces behind it are dropped. -/
  | changedLines
  /-- All code lines move right by the same amount, until the least indented one is as deep as the
  fence. -/
  | baseline
  deriving DecidableEq, Repr, Inhabited

def Policy.name : Policy → String
  | .changedLines => "changed-lines"
  | .baseline => "baseline"

/-- Every policy, in the order in which messages list them. -/
def Policy.all : List Policy := [.changedLines, .baseline]

def Policy.ofName? (name : String) : Option Policy := Policy.all.find? fun p => p.name == name

/-- How the blocks of a document are found. -/
inductive ScannerKind where
  /-- Line by line, each line taken on its own. -/
  | lines
  /-- Byte by byte, rewinding after a failed attempt, within a budget of steps. -/
  | backtracking
  deriving DecidableEq, Repr, Inhabited

def ScannerKind.name : ScannerKind → String
  | .lines => "lines"
  | .backtracking => "backtracking"

/-- Every scanner, in the order in which messages list them. -/
def ScannerKind.all : List ScannerKind := [.lines, .backtracking]

def ScannerKind.ofName? (name : String) : Option ScannerKind :=
  ScannerKind.all.find? fun k => k.name == name

@[simp] theorem Policy.ofName?_name (p : Policy) : Policy.ofName? p.name = some p := by
  cases p <;> rfl

@[simp] theorem ScannerKind.ofName?_name (k : ScannerKind) :
    ScannerKind.ofName? k.name = some k := by
  cases k <;> rfl

/-- The bounds of a formatting pass. -/
structure Limits where
  /-- The longest document that is taken on, in bytes. -/
  maxDocumentBytes : UInt64 := 104857600
  /-- The deepest opening fence that is taken on. -/
  maxFenceIndent : UInt64 := 1000
  /-- The backtracking scanner may take this many steps for each byte, and for the end. -/
  scanBudgetFactor : UInt64 := 8
  deriving DecidableEq, Repr, Inhabited

/-- The greatest 64-bit word. -/
def maxWord : Nat := 18446744073709551615

theorem toNat_le_maxWord (w : UInt64) : w.toNat ≤ maxWord :=
  Nat.le_of_lt_succ w.toNat_lt

/-- The steps that the backtracking scanner may take on a document of `length` bytes; a budget is
never more than a word. -/
def Limits.scanBudget (limits : Limits) (length : Nat) : Nat :=
  min (limits.scanBudgetFactor.toNat * (length + 1)) maxWord

/-- Everything that a formatting pass needs besides the document. -/
structure Options where
  policy : Policy := .changedLines
  scanner : ScannerKind := .lines
  limits : Limits := {}
  deriving DecidableEq, Repr, Inhabited

end FencedDiff
