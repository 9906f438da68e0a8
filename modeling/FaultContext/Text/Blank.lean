/-
# FaultContext.Text.Blank -- the characters that may surround a written number.

These are the blanks of ASCII and the blanks of the Unicode standard outside it.  The separators of
ASCII that lie between `U+001C` and `U+001F` are not among them.
-/
import FaultContext.Text.Numeral

namespace FaultContext.Text

/-- Ranges of blanks. -/
def blanks : List (Nat × Nat) := [
  (0x9, 0xd), (0x20, 0x20), (0x85, 0x85), (0xa0, 0xa0), (0x1680, 0x1680), (0x2000, 0x200a),
  (0x2028, 0x2029), (0x202f, 0x202f), (0x205f, 0x205f), (0x3000, 0x3000)]

/-- Whether a character is a blank. -/
def isBlank (c : Char) : Bool := inRanges blanks c

/-- A text without the blanks at its ends. -/
def trimmed (cs : List Char) : List Char :=
  ((cs.dropWhile isBlank).reverse.dropWhile isBlank).reverse

end FaultContext.Text
