import FencedDiff.Text.CaseVariant
import FencedDiff.Text.Category.Digit
import FencedDiff.Text.WhiteSpace
import FencedDiff.Text.Word

/-!
# Sets of characters

What one place of a pattern accepts, as a value: ranges, and the operations by which a pattern
combines sets. What a set holds is said by `CharSet.contains` alone.
-/

namespace FencedDiff

inductive CharSet where
  | ranges (ranges : CodeRanges)
  | complement (s : CharSet)
  | union (s t : CharSet)
  | inter (s t : CharSet)
  /-- With each letter, those that differ from it in case only. -/
  | caseless (s : CharSet)
  deriving DecidableEq, Repr

namespace CharSet

def contains : CharSet → Char → Bool
  | .ranges rs, c => rs.contains c
  | .complement s, c => !s.contains c
  | .union s t, c => s.contains c || t.contains c
  | .inter s t, c => s.contains c && t.contains c
  | .caseless s, c => s.contains c || (caseVariants c).any s.contains

def empty : CharSet := .ranges []

def all : CharSet := .complement empty

/-- The characters between two, and these. -/
def between (first last : Char) : CharSet := .ranges [(first.toNat, last.toNat)]

def single (c : Char) : CharSet := between c c

def minus (s t : CharSet) : CharSet := .inter s (.complement t)

/-- The characters of one of two sets that are not in the other. -/
def difference (s t : CharSet) : CharSet := .union (s.minus t) (t.minus s)

def ascii : CharSet := .ranges [(0, 0x7F)]

def digit : CharSet := .ranges digitRanges

def space : CharSet := .ranges whiteSpaceRanges

def word : CharSet := .ranges wordRanges

def asciiDigit : CharSet := .ranges [(0x30, 0x39)]

def asciiSpace : CharSet := .ranges [(0x09, 0x0D), (0x20, 0x20)]

def asciiWord : CharSet := .ranges [(0x30, 0x39), (0x41, 0x5A), (0x5F, 0x5F), (0x61, 0x7A)]

theorem contains_minus (s t : CharSet) (c : Char) :
    (s.minus t).contains c = (s.contains c && !t.contains c) := rfl

theorem contains_difference (s t : CharSet) (c : Char) :
    (s.difference t).contains c = (s.contains c ^^ t.contains c) := by
  simp only [difference, contains, contains_minus]
  cases s.contains c <;> cases t.contains c <;> rfl

end CharSet

end FencedDiff
