/-
# FaultContext.Value.Operator -- the operators beyond sums, products and quotients to the floor.

Complex numbers take part in the basic operations and in nothing else.  The operators on bits also
combine sets, and the bar merges tables.  A set of natural numbers is kept in ascending order; every
other set keeps the order in which its items were added.
-/
import FaultContext.Number.Power
import FaultContext.Value.Arithmetic

namespace FaultContext.Store

open Number (Binary64)

/-! ## Sets -/

/-- The natural number that a value is. -/
def natural? : Value → Option Nat
  | .int _ (.ofNat n) => some n
  | _ => none

/-- The order in which a set keeps its items. -/
def setOrder (items : List Value) : List Value :=
  if items.all fun v => (natural? v).isSome then
    items.mergeSort fun a b => decide (((natural? a).getD 0) ≤ (natural? b).getD 0)
  else items

/-- Values without repetition, the first of equal ones staying. -/
def withoutRepetition (s : Store) (items : List Value) : List Value :=
  (items.foldl (fun seen v => if s.isAmong v seen then seen else v :: seen) []).reverse

/-- A set of values; each has to be one that can be a key. -/
def setOf (s : Store) (frozen : Bool) (items : List Value) : Except Fault Value :=
  match items.findSome? s.unhashable? with
  | some type => .error (.unhashable type)
  | none => .ok (.set .fresh frozen (setOrder (s.withoutRepetition items)))

/-- How two sets are combined. -/
inductive SetOperation where
  | union
  | intersection
  | difference
  | symmetric
  deriving DecidableEq, Repr

/-- Two sets combined. -/
def combine (s : Store) (op : SetOperation) (frozen : Bool) (a b : List Value) : Value :=
  let out (x y : List Value) := x.filter (!s.isAmong · y)
  let items := match op with
    | .union => a ++ out b a
    | .intersection => a.filter (s.isAmong · b)
    | .difference => out a b
    | .symmetric => out a b ++ out b a
  .set .fresh frozen (setOrder items)

/-! ## Complex numbers -/

/-- The parts of a number as a complex one. -/
def complexParts (v : Value) : Option (Except Fault (Binary64 × Binary64)) :=
  match v with
  | .complex _ re im => some (.ok (re, im))
  | v => v.number?.map fun n => do return (← toFloat n, Binary64.zero false)

/-- Whether a value is a complex number. -/
def isComplex : Value → Bool
  | .complex .. => true
  | _ => false

/-- An operation on two numbers of which one is complex; nothing for other values. -/
def onComplex? (op : Binary64 × Binary64 → Binary64 × Binary64 →
      Except Fault (Binary64 × Binary64)) (a b : Value) : Option (Except Fault Value) :=
  if isComplex a || isComplex b then
    match complexParts a, complexParts b with
    | some x, some y => some do
      let (re, im) ← op (← x) (← y)
      return .complex .fresh re im
    | _, _ => none
  else none

/-- The product of two complex numbers. -/
def complexMul (x y : Binary64 × Binary64) : Binary64 × Binary64 :=
  ((x.1.mul y.1).sub (x.2.mul y.2), (x.1.mul y.2).add (x.2.mul y.1))

/-- Whether the size of a number is at least that of another one. -/
def notSmaller (x y : Binary64) : Bool :=
  match x.abs.compare? y.abs with
  | some .lt | none => false
  | _ => true

/-- The quotient of two complex numbers: the greater part of the divisor is divided out first. -/
def complexDiv (x y : Binary64 × Binary64) : Except Fault (Binary64 × Binary64) :=
  if notSmaller y.1 y.2 then
    if y.1.isZero then .error (.plain .zeroDivisionError "complex division by zero")
    else
      let ratio := y.2.div y.1
      let denominator := y.1.add (y.2.mul ratio)
      .ok ((x.1.add (x.2.mul ratio)).div denominator, (x.2.sub (x.1.mul ratio)).div denominator)
  else
    let ratio := y.1.div y.2
    let denominator := (y.1.mul ratio).add y.2
    .ok (((x.1.mul ratio).add x.2).div denominator, ((x.2.mul ratio).sub x.1).div denominator)

/-- A complex number raised to a natural power, by squaring, from the lowest bit of the power on. -/
def complexPowNat (fuel : Nat) (n : Nat) (square product : Binary64 × Binary64) :
    Binary64 × Binary64 :=
  match fuel with
  | 0 => product
  | fuel + 1 =>
    if n = 0 then product
    else
      complexPowNat fuel (n / 2) (complexMul square square)
        (if n % 2 = 1 then complexMul product square else product)

/-- A complex number raised to a power that is an integer; other powers have no value. -/
def complexPow (x y : Binary64 × Binary64) : Except Fault (Binary64 × Binary64) :=
  let one : Binary64 × Binary64 := (Binary64.ofInt 1, Binary64.zero false)
  if y.2.isZero && y.1.isIntegral then
    match y.1.truncate?.getD 0 with
    | .ofNat n => .ok (complexPowNat 64 n x one)
    | .negSucc n => complexDiv one (complexPowNat 64 (n + 1) x one)
  else .ok (.nan, .nan)

/-! ## Numbers -/

/-- The quotient of two values. -/
def div (s : Store) (a b : Value) : Except Fault Value :=
  match onComplex? complexDiv a b with
  | some result => result
  | none =>
    match a.number?, b.number? with
    | some (.int m), some (.int n) =>
      if n = 0 then .error (.plain .zeroDivisionError "division by zero")
      else
        match Binary64.ofFraction ((m < 0) != (n < 0)) m.natAbs n.natAbs with
        | .infinite _ =>
          .error (.plain .overflowError "integer division result too large for a float")
        | x => .ok (.float .fresh (if m = 0 then Binary64.zero false else x))
    | some x, some y => do
      let x ← toFloat x
      let y ← toFloat y
      if y.isZero then throw (.plain .zeroDivisionError "float division by zero")
      return .float .fresh (x.div y)
    | _, _ => .error (.operands "/" (s.typeName a) (s.typeName b))

/-- The remainder that goes with the quotient to the floor: it has the sign of the divisor. -/
def floorRemainder (x y : Binary64) : Binary64 :=
  let r := x.remainder y
  if r.isZero then Binary64.zero y.isNegative
  else if r.isNegative != y.isNegative && r.isFinite then r.add y
  else r

/-- The remainder of two numbers. -/
def mod (s : Store) (a b : Value) : Except Fault Value :=
  match a.number?, b.number? with
  | some x, some y =>
    numeric
      (fun m n =>
        if n = 0 then .error (.plain .zeroDivisionError "integer modulo by zero")
        else .ok (m.fmod n))
      (fun x y =>
        if y.isZero then .error (.plain .zeroDivisionError "float modulo")
        else .ok (floorRemainder x y)) x y
  | _, _ => .error (.operands "%" (s.typeName a) (s.typeName b))

/-- A floating-point number raised to a power. -/
def floatPow (x y : Binary64) : Except Fault Value :=
  if x.isZero && y.isNegative && !y.isZero then
    .error (.plain .zeroDivisionError "0.0 cannot be raised to a negative power")
  else if x.isNegative && x.isFinite && y.isFinite && !y.isIntegral && !x.isZero then do
    let (re, im) ← complexPow (x, Binary64.zero false) (y, Binary64.zero false)
    return .complex .fresh re im
  else
    match x.pow y with
    | .infinite negative =>
      if x.isFinite && y.isFinite then
        .error (.plain .overflowError "(34, 'Numerical result out of range')")
      else .ok (.float .fresh (.infinite negative))
    | r => .ok (.float .fresh r)

/-- A value raised to a power. -/
def pow (s : Store) (a b : Value) : Except Fault Value :=
  match onComplex? complexPow a b with
  | some result => result
  | none =>
    match a.number?, b.number? with
    | some (.int m), some (.int (.ofNat n)) => .ok (.int .fresh (Int.pow m n))
    | some x, some y => do floatPow (← toFloat x) (← toFloat y)
    | _, _ => .error (.operands "** or pow()" (s.typeName a) (s.typeName b))

/-- The integers that two values are. -/
def integers? (a b : Value) : Option (Int × Int) :=
  match place? a, place? b with
  | some m, some n => some (m, n)
  | _, _ => none

/-- An integer moved by a number of bits. -/
def shift (s : Store) (sign : String) (move : Int → Nat → Int) (a b : Value) :
    Except Fault Value :=
  match integers? a b with
  | some (m, .ofNat n) => .ok (.int .fresh (move m n))
  | some _ => .error (.plain .valueError "negative shift count")
  | none => .error (.operands sign (s.typeName a) (s.typeName b))

/-- An integer moved to the left. -/
def shiftLeft (s : Store) : Value → Value → Except Fault Value :=
  s.shift "<<" fun m n => m * Int.pow 2 n

/-- An integer moved to the right. -/
def shiftRight (s : Store) : Value → Value → Except Fault Value :=
  s.shift ">>" fun m n => m.fdiv (Int.pow 2 n)

/-- An operator that works on bits, truth values and sets; nothing for other values. -/
def bitwise? (s : Store) (bits : Int → Int → Int) (op : SetOperation) (a b : Value) :
    Option Value :=
  match a, b with
  | .bool x, .bool y =>
    some (.bool (bits (if x then 1 else 0) (if y then 1 else 0) != 0))
  | .set _ frozen x, .set _ _ y => some (s.combine op frozen x y)
  | a, b => (integers? a b).map fun (m, n) => .int .fresh (bits m n)

/-- An operator that works on bits, truth values and sets. -/
def bitwise (s : Store) (sign : String) (bits : Int → Int → Int) (op : SetOperation)
    (a b : Value) : Except Fault Value :=
  match s.bitwise? bits op a b with
  | some v => .ok v
  | none => .error (.operands sign (s.typeName a) (s.typeName b))

/-- Two tables merged: the second one decides. -/
def merge (s : Store) (a b : List (Value × Value)) : Value :=
  .dict .fresh (b.foldl (fun entries (k, v) => s.putEntry entries k v) a)

/-! ## Sums and differences -/

/-- The sum of two values, complex numbers included. -/
def plus (s : Store) (a b : Value) : Except Fault Value :=
  match onComplex? (fun x y => .ok (x.1.add y.1, x.2.add y.2)) a b with
  | some result => result
  | none => s.add a b

/-- The difference of two values, complex numbers and sets included. -/
def minus (s : Store) (a b : Value) : Except Fault Value :=
  match onComplex? (fun x y => .ok (x.1.sub y.1, x.2.sub y.2)) a b with
  | some result => result
  | none =>
    match a, b with
    | .set _ frozen x, .set _ _ y => .ok (s.combine .difference frozen x y)
    | a, b => s.sub a b

/-- The product of two values, complex numbers included. -/
def times (s : Store) (a b : Value) : Except Fault Value :=
  match onComplex? (fun x y => .ok (complexMul x y)) a b with
  | some result => result
  | none => s.mul a b

/-! ## Operators in front -/

/-- The fault of an operator in front of a value that it does not fit. -/
def badOperand (s : Store) (sign : String) (v : Value) : Fault :=
  .plain .typeError ("bad operand type for unary " ++ sign ++ ": '" ++ s.typeName v ++ "'")

/-- The negative of a value. -/
def negative (s : Store) (v : Value) : Except Fault Value :=
  match v with
  | .complex _ re im => .ok (.complex .fresh re.neg im.neg)
  | v =>
    match v.number? with
    | some (.int n) => .ok (.int .fresh (-n))
    | some (.float x) => .ok (.float .fresh x.neg)
    | none => .error (s.badOperand "-" v)

/-- A value with a plus in front. -/
def positive (s : Store) (v : Value) : Except Fault Value :=
  match v with
  | .complex _ re im => .ok (.complex .fresh re im)
  | v =>
    match v.number? with
    | some (.int n) => .ok (.int .fresh n)
    | some (.float x) => .ok (.float .fresh x)
    | none => .error (s.badOperand "+" v)

/-- The complement of a value. -/
def inverted (s : Store) (v : Value) : Except Fault Value :=
  match place? v with
  | some n => .ok (.int .fresh (Number.complement n))
  | none => .error (s.badOperand "~" v)

/-! ## Membership -/

/-- Whether a list begins with or holds another one. -/
def hasPart {α : Type} [BEq α] (part : List α) : List α → Bool
  | [] => part.isEmpty
  | a :: rest => part.isPrefixOf (a :: rest) || hasPart part rest

/-- Whether a value holds another one. -/
def holds (s : Store) (v container : Value) : Except Fault Bool :=
  match container, v with
  | .str _ t, .str _ part => .ok (hasPart part.toList t.toList)
  | .str _ _, v =>
    .error (.plain .typeError
      ("'in <string>' requires string as left operand, not " ++ s.typeName v))
  | .bytes _ codes, .bytes _ part => .ok (hasPart part codes)
  | .bytes _ codes, v =>
    match place? v with
    | some n =>
      if n < 0 || 255 < n then .error (.plain .valueError "byte must be in range(0, 256)")
      else .ok (codes.contains n.toNat)
    | none =>
      .error (.plain .typeError ("a bytes-like object is required, not '" ++ s.typeName v ++ "'"))
  | .dict _ entries, v => (s.lookup entries v).map Option.isSome
  | .set _ _ items, v =>
    match s.unhashable? v with
    | some type => .error (.unhashable type)
    | none => .ok (s.isAmong v items)
  | container, v =>
    match s.iterate container with
    | .ok items => .ok (s.isAmong v items)
    | .error _ =>
      .error (.plain .typeError
        ("argument of type '" ++ s.typeName container ++ "' is not iterable"))

end FaultContext.Store
