/-
# FaultContext.Number.Binary64 -- exact floating-point numbers of 64 bits.

A finite number is `± mantissa · 2 ^ exponent` with `mantissa < 2 ^ 53`, kept in the one form in
which either the mantissa has all its 53 bits or the exponent is the least one.  Structural equality
is therefore equality of bit patterns, and every operation is "compute exactly, then round once":
the exact result is a fraction of natural numbers, and `ofFraction` is the only place that rounds.

Deliberately not here: how a number is written.  That is `FaultContext.Number.Decimal`.
-/

namespace FaultContext.Number

/-! ## Rounding a fraction to a natural number -/

/-- The natural number nearest to `num / den`; a tie goes to the even one. -/
def nearestEven (num den : Nat) : Nat :=
  let quotient := num / den
  let twice := 2 * (num % den)
  if twice < den then quotient
  else if den < twice then quotient + 1
  else quotient + quotient % 2

/-! ## The numbers -/

/-- A floating-point number; a zero keeps its sign. -/
inductive Binary64 where
  | finite (negative : Bool) (mantissa : Nat) (exponent : Int)
  | infinite (negative : Bool)
  | nan
  deriving DecidableEq, Repr, Inhabited

namespace Binary64

/-- The least exponent of a finite number. -/
def leastExponent : Int := -1074

/-- The greatest exponent of a finite number. -/
def greatestExponent : Int := 971

/-- Zero of the given sign. -/
def zero (negative : Bool) : Binary64 := .finite negative 0 leastExponent

/-- `mantissa · 2 ^ exponent` as a fraction. -/
def scaled (mantissa : Nat) (exponent : Int) : Nat × Nat :=
  match exponent with
  | .ofNat e => (mantissa * Nat.pow 2 e, 1)
  | .negSucc e => (mantissa, Nat.pow 2 (e + 1))

/-- The number nearest to `± num / den`, to the even mantissa on a tie; beyond the greatest finite
number it is infinite. -/
def ofFraction (negative : Bool) (num den : Nat) : Binary64 :=
  if num = 0 || den = 0 then zero negative
  else
    let guess : Int := max ((Nat.log2 num : Int) - (Nat.log2 den : Int) - 53) leastExponent
    let atScale (e : Int) : Nat × Nat :=
      match e with
      | .ofNat k => (num, den * Nat.pow 2 k)
      | .negSucc k => (num * Nat.pow 2 (k + 1), den)
    let (n₀, d₀) := atScale guess
    let exponent := if n₀ / d₀ < Nat.pow 2 53 then guess else guess + 1
    let (n, d) := atScale exponent
    let mantissa := nearestEven n d
    let (mantissa, exponent) :=
      if mantissa = Nat.pow 2 53 then (Nat.pow 2 52, exponent + 1) else (mantissa, exponent)
    if exponent > greatestExponent then .infinite negative else .finite negative mantissa exponent

/-- The number nearest to an integer. -/
def ofInt (n : Int) : Binary64 := ofFraction (n < 0) n.natAbs 1

/-- Whether the sign is minus; the sign of a NaN is not kept. -/
def isNegative : Binary64 → Bool
  | .finite negative _ _ => negative
  | .infinite negative => negative
  | .nan => false

/-- Whether the number is zero, of either sign. -/
def isZero : Binary64 → Bool
  | .finite _ mantissa _ => mantissa == 0
  | _ => false

/-- The number of opposite sign. -/
def neg : Binary64 → Binary64
  | .finite negative m e => .finite (!negative) m e
  | .infinite negative => .infinite (!negative)
  | .nan => .nan

/-- The number without its sign. -/
def abs : Binary64 → Binary64
  | .finite _ m e => .finite false m e
  | .infinite _ => .infinite false
  | .nan => .nan

/-! ## Arithmetic -/

/-- The exact value of a finite number as a multiple of `2 ^ exponent`, for an exponent that is not
above its own. -/
private def multiple (negative : Bool) (mantissa : Nat) (own exponent : Int) : Int :=
  let size : Int := mantissa * Nat.pow 2 (own - exponent).toNat
  if negative then -size else size

/-- The number nearest to `n · 2 ^ exponent`; an exact zero takes the given sign. -/
private def ofMultiple (n exponent : Int) (zeroSign : Bool) : Binary64 :=
  if n = 0 then zero zeroSign
  else
    let (num, den) := scaled n.natAbs exponent
    ofFraction (n < 0) num den

/-- The sum. -/
def add : Binary64 → Binary64 → Binary64
  | .nan, _ | _, .nan => .nan
  | .infinite s, .infinite t => if s = t then .infinite s else .nan
  | .infinite s, _ | _, .infinite s => .infinite s
  | .finite s m e, .finite t n f =>
    let least := min e f
    ofMultiple (multiple s m e least + multiple t n f least) least (s && t)

/-- The difference. -/
def sub (x y : Binary64) : Binary64 := x.add y.neg

/-- The product. -/
def mul : Binary64 → Binary64 → Binary64
  | .nan, _ | _, .nan => .nan
  | .infinite s, .infinite t => .infinite (s != t)
  | .infinite s, .finite t n _ | .finite t n _, .infinite s =>
    if n = 0 then .nan else .infinite (s != t)
  | .finite s m e, .finite t n f =>
    let (num, den) := scaled (m * n) (e + f)
    ofFraction (s != t) num den

/-- The quotient; division by zero is infinite, or no number when zero is divided. -/
def div : Binary64 → Binary64 → Binary64
  | .nan, _ | _, .nan => .nan
  | .infinite _, .infinite _ => .nan
  | .infinite s, .finite t _ _ => .infinite (s != t)
  | .finite s _ _, .infinite t => zero (s != t)
  | .finite s m e, .finite t n f =>
    if n = 0 then (if m = 0 then .nan else .infinite (s != t))
    else
      let (a, b) := scaled m e
      let (c, d) := scaled n f
      ofFraction (s != t) (a * d) (b * c)

/-- The remainder of the division toward zero, which is exact and has the sign of the dividend. -/
def remainder : Binary64 → Binary64 → Binary64
  | .nan, _ | _, .nan | .infinite _, _ => .nan
  | x, .infinite _ => x
  | .finite s m e, .finite _ n f =>
    if n = 0 then .nan
    else
      let least := min e f
      let rest := (multiple false m e least).toNat % (multiple false n f least).toNat
      ofMultiple (if s then -(rest : Int) else rest) least s

/-- The greatest whole number that is not above a number; a zero keeps its sign. -/
def floor : Binary64 → Binary64
  | .finite s m e =>
    if 0 ≤ e then .finite s m e
    else
      let (num, den) := scaled m e
      let whole := if s then (num + den - 1) / den else num / den
      ofFraction s whole 1
  | x => x

/-- The floor of the quotient.  It is found through the remainder, because rounding the quotient
first could reach the next whole number. -/
def floorDiv (x y : Binary64) : Binary64 :=
  let rest := x.remainder y
  let quotient := (x.sub rest).div y
  let quotient :=
    if !rest.isZero && (y.isNegative != rest.isNegative) then quotient.sub (ofInt 1) else quotient
  if quotient.isZero then zero (x.div y).isNegative
  else
    let whole := quotient.floor
    match quotient.sub whole with
    | .finite false m e =>
      let (num, den) := scaled m e
      if den < 2 * num then whole.add (ofInt 1) else whole
    | _ => whole

/-! ## Order -/

/-- How two numbers compare; nothing compares with a NaN. -/
def compare? (x y : Binary64) : Option Ordering :=
  match x, y with
  | .nan, _ | _, .nan => none
  | .infinite s, .infinite t => some (if s = t then .eq else if s then .lt else .gt)
  | .infinite s, _ => some (if s then .lt else .gt)
  | _, .infinite t => some (if t then .gt else .lt)
  | .finite s m e, .finite t n f =>
    let least := min e f
    some (compare (multiple s m e least) (multiple t n f least))

/-- How a number compares with an integer, without rounding the integer. -/
def compareInt? (x : Binary64) (n : Int) : Option Ordering :=
  match x with
  | .nan => none
  | .infinite s => some (if s then .lt else .gt)
  | .finite s m e =>
    let (num, den) := scaled m e
    some (compare (if s then -(num : Int) else (num : Int)) (n * den))

/-- The integer part of a finite number. -/
def truncate? : Binary64 → Option Int
  | .finite s m e =>
    let (num, den) := scaled m e
    let whole : Int := (num / den : Nat)
    some (if s then -whole else whole)
  | _ => none

end Binary64
end FaultContext.Number
