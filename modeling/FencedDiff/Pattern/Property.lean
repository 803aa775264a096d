import FencedDiff.Pattern.CharSet
import FencedDiff.Text.Category.Letter
import FencedDiff.Text.Category.Lower
import FencedDiff.Text.Category.Mark
import FencedDiff.Text.Category.Numeral
import FencedDiff.Text.Category.Punctuation
import FencedDiff.Text.Category.Symbol
import FencedDiff.Text.Category.Upper

/-!
# Properties of characters by name

A pattern may name a general category of characters, by its letters or in full. Case, blanks, dashes
and underscores make no difference in a name, and neither does `is` in front of it.
-/

namespace FencedDiff.Pattern

/-- A name without what makes no difference in it. -/
def plainName (name : List Char) : List Char :=
  let lower := name.map Char.toLower
  let bare := match lower with
    | 'i' :: 's' :: rest => rest
    | cs => cs
  bare.filter fun c => !(c == ' ' || c == '_' || c == '-')

def separatorRanges : CodeRanges := [
  (0x20, 0x20), (0xA0, 0xA0), (0x1680, 0x1680), (0x2000, 0x200A), (0x2028, 0x2029),
  (0x202F, 0x202F), (0x205F, 0x205F), (0x3000, 0x3000)]

def properties : List (List String × CharSet) := [
  (["any"], .all),
  (["ascii"], .ascii),
  (["l", "letter"], .ranges letterRanges),
  (["lu", "uppercaseletter"], .ranges upperRanges),
  (["ll", "lowercaseletter"], .ranges lowerRanges),
  (["m", "mark", "combiningmark"], .ranges markRanges),
  (["n", "number"], .ranges numeralRanges),
  (["nd", "decimalnumber", "digit"], .digit),
  (["p", "punctuation", "punct"], .ranges punctuationRanges),
  (["s", "symbol"], .ranges symbolRanges),
  (["z", "separator"], .ranges separatorRanges),
  (["whitespace", "wspace", "space"], .space)]

def property? (name : List Char) : Option CharSet :=
  let plain := String.ofList (plainName name)
  (properties.find? fun p => p.1.contains plain).map Prod.snd

end FencedDiff.Pattern
