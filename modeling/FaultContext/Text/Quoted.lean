/-
# FaultContext.Text.Quoted -- a text between quotes.

A quoted text shows where the text begins and ends and which characters it holds: the quote, the
backslash and every unprintable character are escaped.  Single quotes are preferred; double quotes
are taken exactly when the text holds a single quote and no double quote, so that fewer escapes are
needed.  The ASCII form escapes every character beyond ASCII as well.
-/
import FaultContext.Text.Printable

namespace FaultContext.Text

/-- The digits of a number in base sixteen, padded with zeros to at least the given width. -/
def hexDigits (width n : Nat) : List Char :=
  let digits := Nat.toDigits 16 n
  List.replicate (width - digits.length) '0' ++ digits

/-- The quote that encloses a text: double only where that saves escapes. -/
def quoteFor (cs : List Char) : Char :=
  if cs.contains '\'' && !cs.contains '"' then '"' else '\''

/-- The numeric escape of a character, in the shortest of three widths. -/
def numericEscape (c : Char) : List Char :=
  if c.toNat < 0x100 then '\\' :: 'x' :: hexDigits 2 c.toNat
  else if c.toNat < 0x10000 then '\\' :: 'u' :: hexDigits 4 c.toNat
  else '\\' :: 'U' :: hexDigits 8 c.toNat

/-- How one character is written between the given quotes. -/
def quotedChar (quote c : Char) : List Char :=
  if c = quote || c = '\\' then ['\\', c]
  else if c = '\t' then ['\\', 't']
  else if c = '\n' then ['\\', 'n']
  else if c = '\r' then ['\\', 'r']
  else if isPrintable c then [c]
  else numericEscape c

/-- The quoted form of a text. -/
def quoted (text : String) : String :=
  let quote := quoteFor text.toList
  String.ofList (quote :: text.toList.flatMap (quotedChar quote) ++ [quote])

/-- Every character beyond ASCII replaced by its numeric escape; for texts that are quoted already.
-/
def asciiOnly (text : String) : String :=
  String.ofList (text.toList.flatMap fun c => if c.toNat < 0x80 then [c] else numericEscape c)

/-- A byte inside quotes: what is no printable ASCII character is escaped. -/
def quotedByte (quote : Char) (code : Nat) : List Char :=
  let c := Char.ofNat code
  if c == quote || c == '\\' then ['\\', c]
  else if c == '\t' then ['\\', 't']
  else if c == '\n' then ['\\', 'n']
  else if c == '\r' then ['\\', 'r']
  else if 32 ≤ code && code < 127 then [c]
  else '\\' :: 'x' :: hexDigits 2 code

/-- Bytes in quotes, with the mark that tells them from a text. -/
def quotedBytes (codes : List Nat) : String :=
  let quote := quoteFor (codes.map Char.ofNat)
  String.ofList ('b' :: quote :: codes.flatMap (quotedByte quote) ++ [quote])

end FaultContext.Text
