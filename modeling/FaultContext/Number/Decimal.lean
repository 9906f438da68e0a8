/-
# FaultContext.Number.Decimal -- decimal digits of a floating-point number, and back.

Three ways to choose digits are kept apart from the way they are laid out.  `shortest` gives the
fewest digits that read back as the same number and, of those, the nearest; `significant` gives a
fixed count of digits; `fixed` gives a fixed count of places after the point.  The last two round
the exact value once, to the even digit on a tie.  `Binary64.read?` reads a written number.

Deliberately not here: signs, exponents, grouping and padding, which belong to
`FaultContext.Format`.
-/
import FaultContext.Number.Binary64
import FaultContext.Text.Blank

namespace FaultContext.Number

/-- Digits `d₁ d₂ … dₙ` with the value `0.d₁d₂…dₙ · 10 ^ point`. -/
structure Decimal where
  digits : List Char
  point : Int
  deriving Repr, Inhabited

namespace Decimal

/-- The decimal digits of a natural number. -/
def digitsOf (n : Nat) : List Char := Nat.toDigits 10 n

/-- The least `k` with `num / den < 10 ^ k`, for a fraction that is not zero. -/
def magnitude (num den : Nat) : Int :=
  if den ≤ num then ((digitsOf (num / den)).length : Int)
  else
    let inverse := (den + num - 1) / num
    let k := (digitsOf inverse).length
    if den * 10 ≤ num * Nat.pow 10 k then 2 - (k : Int) else 1 - (k : Int)

/-- `num / den` in units of `10 ^ exponent`, as a fraction. -/
def inUnits (num den : Nat) (exponent : Int) : Nat × Nat :=
  match exponent with
  | .ofNat e => (num, den * Nat.pow 10 e)
  | .negSucc e => (num * Nat.pow 10 (e + 1), den)

/-- Exactly `count` digits of a fraction that is not zero. -/
def significant (count : Nat) (num den : Nat) : Decimal :=
  let point := magnitude num den
  let (n, d) := inUnits num den (point - count)
  let rounded := nearestEven n d
  if rounded = Nat.pow 10 count then ⟨digitsOf (Nat.pow 10 count / 10), point + 1⟩
  else ⟨digitsOf rounded, point⟩

/-- A fraction in units of the last of `places` places after the point. -/
def fixed (places : Nat) (num den : Nat) : Nat :=
  nearestEven (num * Nat.pow 10 places) den

/-- The interval of reals that round to `mantissa · 2 ^ exponent`, as three fractions over one
denominator: its lower end, the number itself and its upper end. -/
def interval (mantissa : Nat) (exponent : Int) : Nat × Nat × Nat × Nat :=
  let below := if mantissa = Nat.pow 2 52 && exponent > Binary64.leastExponent then 1 else 2
  let (num, den) := Binary64.scaled 1 (exponent - 2)
  ((4 * mantissa - below) * num, 4 * mantissa * num, (4 * mantissa + 2) * num, den)

/-- The fewest digits that read back as `mantissa · 2 ^ exponent`: on each grid of decimals only the
two neighbours of the number can be nearest, and seventeen digits always suffice. -/
def shortest (mantissa : Nat) (exponent : Int) : Decimal :=
  let (low, value, high, den) := interval mantissa exponent
  let closed := mantissa % 2 == 0
  let point := magnitude value den
  let attempt (count : Nat) : Option Decimal :=
    let (n, d) := inUnits value den (point - count)
    let (l, _) := inUnits low den (point - count)
    let (h, _) := inUnits high den (point - count)
    let inside (k : Nat) : Bool :=
      if closed then l ≤ k * d && k * d ≤ h else l < k * d && k * d < h
    let near := nearestEven n d
    let other := if near * d ≤ n then near + 1 else near - 1
    let written (k : Nat) : Decimal :=
      if k = Nat.pow 10 count then ⟨['1'], point + 1⟩ else ⟨digitsOf k, point⟩
    if inside near then some (written near)
    else if inside other then some (written other)
    else none
  match (List.range 17).findSome? fun k => attempt (k + 1) with
  | some decimal => decimal
  | none => significant 17 value den

end Decimal

/-! ## Reading -/

namespace Binary64

/-- The value of digits that may be parted by single underscores, with their count. -/
private def readDigits? (cs : List Char) : Option (Nat × Nat) :=
  let rec go (afterDigit : Bool) (value count : Nat) : List Char → Option (Nat × Nat)
    | [] => if afterDigit then some (value, count) else none
    | '_' :: rest => if afterDigit then go false value count rest else none
    | c :: rest =>
      match Text.decimalValue? c with
      | some d => go true (10 * value + d) (count + 1) rest
      | none => none
  go false 0 0 cs

/-- The number nearest to `± value · 10 ^ exponent`; exponents far outside the range are settled by
their size alone. -/
def ofScientific (negative : Bool) (value : Nat) (exponent : Int) : Binary64 :=
  let size : Int := (Decimal.digitsOf value).length + exponent
  if value = 0 || size < -400 then zero negative
  else if size > 400 then .infinite negative
  else
    match exponent with
    | .ofNat e => ofFraction negative (value * Nat.pow 10 e) 1
    | .negSucc e => ofFraction negative value (Nat.pow 10 (e + 1))

/-- A number without its sign: digits, a point, more digits and an exponent, or a word. -/
private def readUnsigned? (negative : Bool) (cs : List Char) : Option Binary64 :=
  let word := String.ofList (cs.map Char.toLower)
  if word == "inf" || word == "infinity" then some (.infinite negative)
  else if word == "nan" then some .nan
  else do
    let (body, power) := cs.span fun c => c != 'e' && c != 'E'
    let exponent : Int ← match power with
      | [] => some 0
      | _ :: '-' :: ds => (readDigits? ds).map fun r => -(r.1 : Int)
      | _ :: '+' :: ds => (readDigits? ds).map fun r => (r.1 : Int)
      | _ :: ds => (readDigits? ds).map fun r => (r.1 : Int)
    let (whole, fraction) := body.span (· != '.')
    let fraction := fraction.drop 1
    match whole, fraction with
    | [], [] => none
    | ds, [] => (readDigits? ds).map fun r => ofScientific negative r.1 exponent
    | [], ds => (readDigits? ds).map fun r => ofScientific negative r.1 (exponent - r.2)
    | ds, fs =>
      match readDigits? ds, readDigits? fs with
      | some w, some f => some (ofScientific negative (w.1 * Nat.pow 10 f.2 + f.1) (exponent - f.2))
      | _, _ => none

/-- Reads a written number: blanks around it, a sign, then digits or a word. -/
def read? (text : String) : Option Binary64 :=
  let cs := Text.trimmed text.toList
  match cs with
  | '-' :: rest => readUnsigned? true rest
  | '+' :: rest => readUnsigned? false rest
  | _ => readUnsigned? false cs

end Binary64
end FaultContext.Number
