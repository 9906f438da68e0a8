/-
# FaultContext.Text.Numeral -- the characters that count as digits.

Two classes are kept apart.  A *decimal digit* has a value from zero to nine and may stand in a
number; a *digit* is any character that denotes a single digit, which adds superscripts and
circled digits that no number may contain.  Both classes are data of the Unicode standard
(version 14), so they are tables here and are not derived from anything else.

Deliberately not here: signs, separators and blanks.  The readers that allow them say so themselves.
-/

namespace FaultContext.Text

/-! ## Decimal digits -/

/-- Every decimal digit lies in a block of ten that starts at one of these zeros. -/
def decimalZeros : List Nat := [
  0x30, 0x660, 0x6f0, 0x7c0, 0x966, 0x9e6, 0xa66, 0xae6, 0xb66, 0xbe6, 0xc66, 0xce6, 0xd66, 0xde6,
  0xe50, 0xed0, 0xf20, 0x1040, 0x1090, 0x17e0, 0x1810, 0x1946, 0x19d0, 0x1a80, 0x1a90, 0x1b50,
  0x1bb0, 0x1c40, 0x1c50, 0xa620, 0xa8d0, 0xa900, 0xa9d0, 0xa9f0, 0xaa50, 0xabf0, 0xff10, 0x104a0,
  0x10d30, 0x11066, 0x110f0, 0x11136, 0x111d0, 0x112f0, 0x11450, 0x114d0, 0x11650, 0x116c0, 0x11730,
  0x118e0, 0x11950, 0x11c50, 0x11d50, 0x11da0, 0x16a60, 0x16ac0, 0x16b50, 0x1d7ce, 0x1d7d8, 0x1d7e2,
  0x1d7ec, 0x1d7f6, 0x1e140, 0x1e2f0, 0x1e950, 0x1fbf0]

/-- The value of a decimal digit of any script, and nothing for any other character. -/
def decimalValue? (c : Char) : Option Nat :=
  (decimalZeros.find? fun start => start ≤ c.toNat && c.toNat < start + 10).map (c.toNat - ·)

/-- A decimal digit is worth less than ten, because blocks have ten members. -/
theorem decimalValue?_lt {c : Char} {n : Nat} (h : decimalValue? c = some n) : n < 10 := by
  unfold decimalValue? at h
  obtain ⟨start, hstart, rfl⟩ := Option.map_eq_some_iff.1 h
  have := List.find?_some hstart
  simp only [Bool.and_eq_true, decide_eq_true_eq] at this
  omega

/-! ## Digits that no number may contain -/

/-- Ranges of characters that denote a digit without being a decimal digit. -/
def digitSymbols : List (Nat × Nat) := [
  (0xb2, 0xb3), (0xb9, 0xb9), (0x1369, 0x1371), (0x19da, 0x19da), (0x2070, 0x2070),
  (0x2074, 0x2079), (0x2080, 0x2089), (0x2460, 0x2468), (0x2474, 0x247c), (0x2488, 0x2490),
  (0x24ea, 0x24ea), (0x24f5, 0x24fd), (0x24ff, 0x24ff), (0x2776, 0x277e), (0x2780, 0x2788),
  (0x278a, 0x2792), (0x10a40, 0x10a43), (0x10e60, 0x10e68), (0x11052, 0x1105a), (0x1f100, 0x1f10a)]

/-- Whether a character lies in one of the ranges, both ends included. -/
def inRanges (ranges : List (Nat × Nat)) (c : Char) : Bool :=
  ranges.any fun (first, last) => first ≤ c.toNat && c.toNat ≤ last

/-- Whether a character denotes a digit of either class. -/
def isDigit (c : Char) : Bool :=
  (decimalValue? c).isSome || inRanges digitSymbols c

/-- Every decimal digit is a digit. -/
theorem isDigit_of_decimalValue? {c : Char} {n : Nat} (h : decimalValue? c = some n) :
    isDigit c = true := by
  simp [isDigit, h]

/-- A text is numeric when it is not empty and holds digits only. -/
def isNumeric (cs : List Char) : Bool :=
  !cs.isEmpty && cs.all isDigit

end FaultContext.Text
