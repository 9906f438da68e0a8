/-
# FaultContext.Number.Integer -- integers as they are written.

A written integer has blanks around it, a sign, perhaps a mark that tells its base, and digits with
single underscores between them.  Digits of every script count.  The base is given; base zero stands
for the base that the mark tells, or ten.

What is wrong is noticed in this order: misplaced underscores among the digits, too many digits, and
only then what follows the digits.
-/
import FaultContext.Text.Blank

namespace FaultContext.Number

/-- Why a text is no integer. -/
inductive IntegerFault where
  | malformed
  | tooManyDigits (count : Nat)
  deriving DecidableEq, Repr

/-- Integers with more decimal digits than this are neither read nor written. -/
def longestInteger : Nat := 4300

/-- The value of a digit in bases up to thirty-six. -/
def digitValue? (c : Char) : Option Nat :=
  if 'a' ≤ c && c ≤ 'z' then some (c.toNat - 'a'.toNat + 10)
  else if 'A' ≤ c && c ≤ 'Z' then some (c.toNat - 'A'.toNat + 10)
  else Text.decimalValue? c

/-- Digits that have been read: their value and their count. -/
structure Digits where
  value : Nat
  count : Nat
  deriving DecidableEq, Repr

/-- Reads digits of a base as far as they go.  An underscore has to stand between two digits;
`open_` tells that a digit has to follow. -/
def scanDigits (base : Nat) (open_ : Bool) (read : Digits) :
    List Char → Except IntegerFault (Digits × List Char)
  | [] => if open_ then .error .malformed else .ok (read, [])
  | c :: rest =>
    if c = '_' then
      if open_ then .error .malformed else scanDigits base true read rest
    else
      match (digitValue? c).filter (· < base) with
      | some d => scanDigits base false ⟨read.value * base + d, read.count + 1⟩ rest
      | none => if open_ then .error .malformed else .ok (read, c :: rest)

/-- The base that a mark at the front of an integer tells. -/
def baseOfMark? : List Char → Option Nat
  | '0' :: c :: _ =>
    match c with
    | 'x' | 'X' => some 16
    | 'o' | 'O' => some 8
    | 'b' | 'B' => some 2
    | _ => none
  | _ => none

/-- An underscore may follow the mark of a base. -/
def dropMark (cs : List Char) : List Char :=
  match cs.drop 2 with
  | '_' :: rest => rest
  | rest => rest

/-- Whether every digit of a base stands for a whole number of bits; such integers may be of any
length. -/
def isBinaryBase (base : Nat) : Bool := [2, 4, 8, 16, 32].contains base

/-- Reads an integer without its sign.  In base zero, zeros in front of anything but zeros are
refused. -/
def readUnsigned (base : Nat) (cs : List Char) : Except IntegerFault Nat := do
  let mark := baseOfMark? cs
  let (actual, digits) :=
    if mark.isSome && (base = 0 || mark = some base) then (mark.getD 10, dropMark cs)
    else (if base = 0 then 10 else base, cs)
  let (read, rest) ← scanDigits actual true ⟨0, 0⟩ digits
  if !isBinaryBase actual && longestInteger < read.count then throw (.tooManyDigits read.count)
  if !(Text.trimmed rest).isEmpty then throw .malformed
  if base = 0 && mark.isNone && cs.head? = some '0' && read.value ≠ 0 then throw .malformed
  return read.value

/-- Reads an integer. -/
def readInteger (base : Nat) (text : String) : Except IntegerFault Int :=
  match text.toList.dropWhile Text.isBlank with
  | '-' :: rest => (readUnsigned base rest).map fun n => -(n : Int)
  | '+' :: rest => (readUnsigned base rest).map fun n => (n : Int)
  | cs => (readUnsigned base cs).map fun n => (n : Int)

end FaultContext.Number
