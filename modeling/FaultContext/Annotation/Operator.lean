/-
# FaultContext.Annotation.Operator -- what the operators of expressions mean.

Every operator is a function of its operands and of the store.  A bar joins types, a percent sign
behind a text fills it, and an item is picked by what stands in brackets.
-/
import FaultContext.Format.Percent
import FaultContext.TypeHint.Build

namespace FaultContext.Annotation

/-- The value of an operator between two operands. -/
def BinaryOperator.apply (s : Store) (op : BinaryOperator) (a b : Value) : Except Fault Value :=
  match op with
  | .or => TypeHint.bar s a b
  | .xor => s.bitwise "^" Number.bitXor .symmetric a b
  | .and => s.bitwise "&" Number.bitAnd .intersection a b
  | .shiftLeft => s.shiftLeft a b
  | .shiftRight => s.shiftRight a b
  | .add => s.plus a b
  | .sub => s.minus a b
  | .mul => s.times a b
  | .matMul => .error (.operands "@" (s.typeName a) (s.typeName b))
  | .div => s.div a b
  | .floorDiv => s.floorDiv a b
  | .mod =>
    match a with
    | .str _ t => Format.Percent.fill s t b
    | a => s.mod a b
  | .pow => s.pow a b

/-- The value of an operator in front of an operand. -/
def UnaryOperator.apply (s : Store) (op : UnaryOperator) (v : Value) : Except Fault Value :=
  match op with
  | .not => .ok (.bool !Store.truthy v)
  | .invert => s.inverted v
  | .plus => s.positive v
  | .minus => s.negative v

/-- Whether a comparison holds. -/
def Comparison.holds (s : Store) (op : Comparison) (a b : Value) : Except Fault Bool :=
  match op with
  | .eq => .ok (s.equal a b)
  | .ne => .ok !s.equal a b
  | .lt => s.before .less a b
  | .le => s.before .atMost a b
  | .gt => s.before .greater a b
  | .ge => s.before .atLeast a b
  | .is => .ok (a.same b)
  | .isNot => .ok !a.same b
  | .isIn => s.holds a b
  | .notIn => (s.holds a b).map Bool.not

end FaultContext.Annotation
