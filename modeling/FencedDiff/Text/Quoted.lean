import FencedDiff.Text.GraphemeExtend
import FencedDiff.Text.Unprintable

/-!
# Quoted text

A text in messages stands between quotation marks. Backslash, quotation mark, NUL, tab and the line
ends have an escape of their own; a character that would not be seen, or would attach to its
neighbour, is written as its code point in hexadecimal; an apostrophe stays as it is.
-/

namespace FencedDiff.Quoted

/-- A code point as an escape: lower-case hexadecimal digits in braces. -/
def codeEscape (c : Char) : List Char :=
  ['\\', 'u', '\x7b'] ++ Nat.toDigits 16 c.toNat ++ ['\x7d']

def escape (c : Char) : List Char :=
  if c = '\\' then ['\\', '\\']
  else if c = '"' then ['\\', '"']
  else if c = '\n' then ['\\', 'n']
  else if c = '\r' then ['\\', 'r']
  else if c = '\t' then ['\\', 't']
  else if c = '\x00' then ['\\', '0']
  else if extendsGrapheme c || isUnprintable c then codeEscape c
  else [c]

def quote (s : List Char) : List Char := '"' :: s.flatMap escape ++ ['"']

end FencedDiff.Quoted

namespace FencedDiff

def quoted (s : String) : String := String.ofList (Quoted.quote s.toList)

end FencedDiff
