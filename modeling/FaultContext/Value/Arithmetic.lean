/-
# FaultContext.Value.Arithmetic -- operators and conversions.

Numbers of both kinds mix: an integer meets a floating-point number as the nearest one, if there is
one.  Division of integers goes to the floor.  Texts and sequences are joined with `+` and repeated
with `*`.  What an operator refuses is a fault that names the types.
-/
import FaultContext.Value.Access
import FaultContext.Value.Text
import FaultContext.Text.Letter
import FaultContext.Number.Integer

namespace FaultContext.Store

open Number (Binary64)

/-! ## Numbers -/

/-- The floating-point number nearest to a number. -/
def toFloat : Numeric → Except Fault Binary64
  | .float x => .ok x
  | .int n =>
    match Binary64.ofInt n with
    | .infinite _ => .error .floatRange
    | x => .ok x

/-- An operation on two numbers: exact on integers, else on floating-point numbers. -/
def numeric (ints : Int → Int → Except Fault Int)
    (floats : Binary64 → Binary64 → Except Fault Binary64) :
    Numeric → Numeric → Except Fault Value
  | .int a, .int b => (ints a b).map (.int .fresh)
  | a, b => do return .float .fresh (← floats (← toFloat a) (← toFloat b))

/-- The sum of two values.  A text or tuple to which nothing is added stays what it is. -/
def add (s : Store) (a b : Value) : Except Fault Value :=
  match a, b with
  | .str i x, .str j y =>
    .ok (if x.isEmpty then .str j y else if y.isEmpty then .str i x else .str .fresh (x ++ y))
  | .list _ x, .list _ y => .ok (.list .fresh (x ++ y))
  | .bytes _ x, .bytes _ y => .ok (.bytes .fresh (x ++ y))
  | .tuple i x, .tuple j y =>
    .ok (if x.isEmpty then .tuple j y else if y.isEmpty then .tuple i x else .tuple .fresh (x ++ y))
  | .str _ _, b => .error (.concatenate "str" (s.typeName b))
  | .list _ _, b => .error (.concatenate "list" (s.typeName b))
  | .tuple _ _, b => .error (.concatenate "tuple" (s.typeName b))
  | .bytes _ _, b => .error (.plain .typeError ("can't concat " ++ s.typeName b ++ " to bytes"))
  | a, b =>
    match a.number?, b.number? with
    | some x, some y => numeric (fun m n => .ok (m + n)) (fun x y => .ok (x.add y)) x y
    | _, _ => .error (.operands "+" (s.typeName a) (s.typeName b))

/-- The difference of two values. -/
def sub (s : Store) (a b : Value) : Except Fault Value :=
  match a.number?, b.number? with
  | some x, some y => numeric (fun m n => .ok (m - n)) (fun x y => .ok (x.sub y)) x y
  | _, _ => .error (.operands "-" (s.typeName a) (s.typeName b))

/-- A list repeated; a negative count repeats it not at all. -/
def repeated {α : Type} (items : List α) (n : Int) : List α :=
  (List.replicate n.toNat items).flatten

/-- A text or sequence repeated; nothing for other values. -/
def repeatedValue? (s : Store) (v count : Value) : Option (Except Fault Value) :=
  let times (build : Int → Value) : Except Fault Value :=
    match place? count with
    | some n => if isPlace n then .ok (build n) else .error .countRange
    | none => .error (.repeatCount (s.typeName count))
  match v with
  | .str i x => some (times fun n => if n = 1 then .str i x else .ofText (repeated x.toList n))
  | .list _ x => some (times fun n => .list .fresh (repeated x n))
  | .bytes _ x => some (times fun n => .bytes .fresh (repeated x n))
  | .tuple i x =>
    some (times fun n => if n = 1 then .tuple i x else .tuple .fresh (repeated x n))
  | _ => none

/-- The product of two values. -/
def mul (s : Store) (a b : Value) : Except Fault Value :=
  match a.number?, b.number? with
  | some x, some y => numeric (fun m n => .ok (m * n)) (fun x y => .ok (x.mul y)) x y
  | _, _ =>
    match s.repeatedValue? a b with
    | some product => product
    | none =>
      match s.repeatedValue? b a with
      | some product => product
      | none => .error (.operands "*" (s.typeName a) (s.typeName b))

/-- The floor of the quotient of two values. -/
def floorDiv (s : Store) (a b : Value) : Except Fault Value :=
  match a.number?, b.number? with
  | some x, some y =>
    numeric (fun m n => if n = 0 then .error .integerDivision else .ok (m.fdiv n))
      (fun x y => if y.isZero then .error .floatDivision else .ok (x.floorDiv y)) x y
  | _, _ => .error (.operands "//" (s.typeName a) (s.typeName b))

/-- The absolute value of a number. -/
def absolute (s : Store) (v : Value) : Except Fault Value :=
  match v.number? with
  | some (.int n) => .ok (.int .fresh n.natAbs)
  | some (.float x) => .ok (.float .fresh x.abs)
  | none => .error (.badAbsolute (s.typeName v))

/-! ## Conversions -/

/-- An integer written in a base. -/
def readInteger (base : Nat) (text : String) : Except Fault Int :=
  (Number.readInteger base text).mapError fun
    | .malformed => .integerLiteral base text
    | .tooManyDigits count => .integerDigits count

/-- A value as an integer. -/
def toInteger (s : Store) (v : Value) : Except Fault Value :=
  match v with
  | .int i n => .ok (.int i n)
  | .str _ text => (readInteger 10 text).map (.int .fresh)
  | _ =>
    match v.number? with
    | some (.int n) => .ok (.int .fresh n)
    | some (.float x) =>
      match x with
      | .nan => .error .nanInteger
      | .infinite _ => .error .infiniteInteger
      | x => .ok (.int .fresh (x.truncate?.getD 0))
    | none => .error (.notInteger (s.typeName v))

/-! ## Sequences -/

/-- The number of items of a value. -/
def length (s : Store) (v : Value) : Except Fault Value :=
  match v with
  | .str _ t => .ok (.int .fresh t.length)
  | .list _ items | .tuple _ items => .ok (.int .fresh items.length)
  | .dict _ entries => .ok (.int .fresh entries.length)
  | .bytes _ codes => .ok (.int .fresh codes.length)
  | .set _ _ items => .ok (.int .fresh items.length)
  | .range _ start stop step => .ok (.int .fresh (rangeLength start stop step))
  | v => .error (.noLength (s.typeName v))

/-- The items of a value in order. -/
def iterate (s : Store) (v : Value) : Except Fault (List Value) :=
  match v with
  | .str _ t => .ok (characters t)
  | .list _ items | .tuple _ items => .ok items
  | .dict _ entries => .ok (entries.map Prod.fst)
  | .bytes _ codes => .ok (codes.map fun (code : Nat) => .int .fresh (code : Int))
  | .set _ _ items => .ok items
  | .range _ start stop step => .ok ((rangeItems start stop step).map (.int .fresh))
  | .classAlias c args => .ok [.spreadAlias c args]
  | .spreadAlias c args => .ok [.spreadAlias c args]
  | .generic .. | .typing .. | .unpacked _ => .ok [.unpacked v]
  | .object r =>
    match (s.get? r).map Object.body with
    | some (.iterator _ items) => .ok items
    | _ => .error (.notIterable (s.typeName v))
  | v => .error (.notIterable (s.typeName v))

end FaultContext.Store
