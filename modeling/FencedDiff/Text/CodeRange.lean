/-!
# Sets of code points as ranges

A property of the Unicode standard is kept as the sorted list of the inclusive ranges of code
points that have it. The tables that use this are data of the standard (version 17.0), one property
a module.
-/

namespace FencedDiff

/-- Inclusive ranges of code points, in increasing order. -/
abbrev CodeRanges := List (Nat × Nat)

def CodeRanges.contains (ranges : CodeRanges) (c : Char) : Bool :=
  ranges.any fun r => r.1 ≤ c.toNat && c.toNat ≤ r.2

theorem CodeRanges.contains_iff {ranges : CodeRanges} {c : Char} :
    ranges.contains c = true ↔ ∃ r ∈ ranges, r.1 ≤ c.toNat ∧ c.toNat ≤ r.2 := by
  simp [contains]

end FencedDiff
