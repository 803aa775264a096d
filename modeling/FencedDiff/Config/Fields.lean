import FencedDiff.Config.Error
import FencedDiff.Options
import FencedDiff.Toml.Value

/-!
# The fields of a configuration

A configuration holds the options of a formatting pass, one field each; a field that is missing has
its default. Fields are read in the order of their names, so of several faults the one with the
least name is reported, whatever the order in the file.
-/

namespace FencedDiff.Config

open Toml

/-- The names of the fields, in the order in which they are written and listed. -/
def fieldNames : List String :=
  ["policy", "scanner", "max_document_bytes", "max_fence_indent", "scan_budget_factor"]

/-- How a number is called that does not fit 64 bits. -/
def wideInteger (value : Int) (type : String) : ValueError :=
  .notANumber ("integer `" ++ toString value ++ "` as " ++ type)

/-- How a floating point number is called where it has no place. -/
def floatError : FloatLiteral → ValueError
  | .finite d =>
    match d.written? with
    | some text => .notANumber ("floating point `" ++ text ++ "`")
    | none => .untold
  | .infinite negative => .notANumber ("floating point `" ++ (if negative then "-inf`" else "inf`"))
  | .notANumber => .notANumber "floating point `NaN`"

def maxSigned64 : Int := 9223372036854775807

def max64 : Int := 18446744073709551615

def maxSigned128 : Int := 170141183460469231731687303715884105727

def max128 : Int := 340282366920938463463374607431768211455

/-- Reads a count: an integer from 0 up to the greatest 64-bit word. -/
def count? : Value → Except ValueError UInt64
  | .integer n =>
    if n < -maxSigned128 - 1 then .error .untold
    else if n < -maxSigned64 - 1 then .error (wideInteger n "i128")
    else if n < 0 then .error (.negative n)
    else if n ≤ max64 then .ok n.toNat.toUInt64
    else if n ≤ maxSigned128 then .error (wideInteger n "i128")
    else if n ≤ max128 then .error (wideInteger n "u128")
    else .error .untold
  | .brokenInteger => .error .untold
  | .string s => .error (.notANumber ("string " ++ quoted s))
  | .float f => .error (floatError f)
  | .boolean b => .error (.notANumber ("boolean `" ++ toString b ++ "`"))
  | .array _ | .tables .. => .error (.notANumber "sequence")
  | .table .. | .datetime => .error (.notANumber "map")

/-- Whether a value holds nothing, as behind an alternative that takes no arguments. -/
def holdsNothing : Value → Bool
  | .array items => items.isEmpty
  | .table _ entries => entries.isEmpty
  | _ => false

/-- Reads a choice: the name of an alternative, or a table with that name for its only key and
nothing for its value. -/
def choice? {α : Type} (ofName? : String → Option α) (known : List String) :
    Value → Except ValueError α
  | .string name =>
    match ofName? name with
    | some a => .ok a
    | none => .error (.unknownVariant name known)
  | .table _ [(name, value)] =>
    match ofName? name with
    | some a => if holdsNothing value then .ok a else .error .untold
    | none => .error (.unknownVariant name known)
  | _ => .error .untold

def setField (options : Options) (field : String × Value) : Except ValueError Options :=
  let (name, value) := field
  if name = "policy" then
    (choice? Policy.ofName? (Policy.all.map Policy.name) value).map fun policy =>
      { options with policy }
  else if name = "scanner" then
    (choice? ScannerKind.ofName? (ScannerKind.all.map ScannerKind.name) value).map fun scanner =>
      { options with scanner }
  else if name = "max_document_bytes" then
    (count? value).map fun maxDocumentBytes =>
      { options with limits := { options.limits with maxDocumentBytes } }
  else if name = "max_fence_indent" then
    (count? value).map fun maxFenceIndent =>
      { options with limits := { options.limits with maxFenceIndent } }
  else if name = "scan_budget_factor" then
    (count? value).map fun scanBudgetFactor =>
      { options with limits := { options.limits with scanBudgetFactor } }
  else .error (.unknownField name fieldNames)

def ofTable (t : Table) : Except ValueError Options :=
  (t.mergeSort fun a b => a.1 ≤ b.1).foldlM setField {}

/-- The field that has to be positive and is not. -/
def zeroField? (options : Options) : Option String :=
  if options.limits.scanBudgetFactor = 0 then some "scan_budget_factor"
  else if options.limits.maxDocumentBytes = 0 then some "max_document_bytes"
  else none

def render (options : Options) : String :=
  "policy = \"" ++ options.policy.name ++ "\"\n" ++
  "scanner = \"" ++ options.scanner.name ++ "\"\n" ++
  "max_document_bytes = " ++ toString options.limits.maxDocumentBytes.toNat ++ "\n" ++
  "max_fence_indent = " ++ toString options.limits.maxFenceIndent.toNat ++ "\n" ++
  "scan_budget_factor = " ++ toString options.limits.scanBudgetFactor.toNat ++ "\n"

end FencedDiff.Config
