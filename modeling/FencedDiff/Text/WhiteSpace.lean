import FencedDiff.Text.CodeRange

/-!
# White space

The characters with the property White_Space, and texts without those at their ends.
-/

namespace FencedDiff

/-- The ranges of White_Space. -/
def whiteSpaceRanges : CodeRanges := [
  (0x9, 0xD), (0x20, 0x20), (0x85, 0x85), (0xA0, 0xA0), (0x1680, 0x1680), (0x2000, 0x200A),
  (0x2028, 0x2029), (0x202F, 0x202F), (0x205F, 0x205F), (0x3000, 0x3000)]

def isWhiteSpace (c : Char) : Bool := whiteSpaceRanges.contains c

def trimmed (s : String) : String :=
  String.ofList ((s.toList.dropWhile isWhiteSpace).reverse.dropWhile isWhiteSpace).reverse

end FencedDiff
