/-
# FaultContext.Number.Power -- powers and the bits of integers.

A power of a floating-point number is what the machine computes, so a number goes over to the
machine's format and back; both ways are exact.  The operations on bits treat a negative integer as
a row of ones without end, which makes the complement of a number its negative less one.
-/
import FaultContext.Number.Binary64

namespace FaultContext.Number

namespace Binary64

/-- A number in the machine's format. -/
def toMachine : Binary64 → Float
  | .nan => 0.0 / 0.0
  | .infinite negative => if negative then -1.0 / 0.0 else 1.0 / 0.0
  | .finite negative mantissa exponent =>
    let size := (Float.ofNat mantissa).scaleB exponent
    if negative then -size else size

/-- The number that the bits of the machine's format stand for. -/
def ofBits (bits : Nat) : Binary64 :=
  let negative := bits / Nat.pow 2 63 % 2 = 1
  let exponent := bits / Nat.pow 2 52 % 2048
  let fraction := bits % Nat.pow 2 52
  if exponent = 2047 then (if fraction = 0 then .infinite negative else .nan)
  else if exponent = 0 then .finite negative fraction leastExponent
  else .finite negative (fraction + Nat.pow 2 52) ((exponent : Int) - 1075)

/-- A number out of the machine's format. -/
def ofMachine (x : Float) : Binary64 := ofBits x.toBits.toNat

/-- A number raised to a power. -/
def pow (x y : Binary64) : Binary64 := ofMachine (x.toMachine.pow y.toMachine)

/-- Whether a number is finite. -/
def isFinite : Binary64 → Bool
  | .finite .. => true
  | _ => false

/-- Whether a number is an integer. -/
def isIntegral (x : Binary64) : Bool :=
  match x with
  | .finite _ m e =>
    let (num, den) := scaled m e
    num % den == 0
  | _ => false

end Binary64

/-! ## Bits -/

/-- The complement of an integer. -/
def complement (n : Int) : Int := -n - 1

/-- The bits that two integers share. -/
def bitAnd (a b : Int) : Int :=
  match a, b with
  | .ofNat m, .ofNat n => (m &&& n : Nat)
  | .ofNat m, .negSucc n => (m - (m &&& n) : Nat)
  | .negSucc m, .ofNat n => (n - (n &&& m) : Nat)
  | .negSucc m, .negSucc n => complement ((m ||| n : Nat) : Int)

/-- The bits that one of two integers has. -/
def bitOr (a b : Int) : Int := complement (bitAnd (complement a) (complement b))

/-- The bits that exactly one of two integers has. -/
def bitXor (a b : Int) : Int := bitOr a b - bitAnd a b

end FaultContext.Number
