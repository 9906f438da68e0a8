/-
# FaultContext.Call.Body -- what the body of a function computes.

An expression is evaluated with the values of the parameters.  Operands are evaluated from left to
right before an operation looks at any of them; only branches, sequences and log entries decide what
is evaluated next.  Calling is left to an engine, so the recursion here is on the expression alone.
-/
import FaultContext.Call.Native
import FaultContext.Call.Outcome
import FaultContext.Format.Render
import FaultContext.Language.Evaluate

namespace FaultContext

open Eval

namespace Operation

/-! ## Raising -/

/-- The exception that a value stands for when it is raised: a class stands for a new instance. -/
def raisable? (v : Value) : Eval (Option Ref) := do
  let s ← store
  match v with
  | .cls c =>
    if s.isExceptionClass c then
      let made ← construct c [] []
      return (← store).exception? made
    else return none
  | v => return s.exception? v

/-- The exception that a value stands for when it is raised. -/
def raisable (v : Value) : Eval Ref := do
  match ← raisable? v with
  | some r => return r
  | none => fault .notRaisable

/-- The cause that a value stands for. -/
def causeOf (v : Value) : Eval (Option Ref) := do
  match v with
  | .none => return none
  | v =>
    match ← raisable? v with
    | some r => return some r
    | none => fault .causeNotException

/-- Raises a value with a cause. -/
def raiseWithCause (v cause : Value) : Eval Value := do
  let r ← raisable v
  Eval.setCause r (← causeOf cause)
  Eval.raise r

/-! ## Texts -/

/-- The text that a method of texts is called on. -/
def textFor (method : String) (v : Value) : Eval String := do
  match v with
  | .str _ t => return t
  | v => fault (.noAttribute ((← store).typeName v) method)

/-- The text of a value; a text stays what it is. -/
def asText (v : Value) : Eval Value := do
  match v with
  | .str i t => return .str i t
  | v => return .str .fresh (← str v)

/-- Adds a note to a value. -/
def noted (v note : Value) : Eval Value := do
  match (← store).exception? v with
  | some r => addNote r note
  | none => fault (.noAttribute ((← store).typeName v) "add_note")
  return v

/-- Applies an operation to the values of its operands. -/
def apply (engine : Engine) : Operation → List Value → Eval Value
  | .raise, [v] => do Eval.raise (← raisable v)
  | .raiseFrom, [v, cause] => raiseWithCause v cause
  | .ok, [v] => Eval.ok v
  | .err, [v] => Eval.err v
  | .floorDiv, [a, b] => do lift ((← store).floorDiv a b)
  | .add, [a, b] => do lift ((← store).add a b)
  | .sub, [a, b] => do lift ((← store).sub a b)
  | .mul, [a, b] => do lift ((← store).mul a b)
  | .eq, [a, b] => do return .bool ((← store).equal a b)
  | .lt, [a, b] => do return .bool (← lift ((← store).before .less a b))
  | .len, [v] => do lift ((← store).length v)
  | .index, [v, key] => do lift ((← store).item v key)
  | .text, [v] => asText v
  | .repr, [v] => do return .str .fresh (← Eval.repr v)
  | .int, [v] => do lift ((← store).toInteger v)
  | .upper, [v] => do return .str .fresh (Text.upper (← textFor "upper" v))
  | .sorted, [v] => Native.callSorted engine [v] []
  | .list, items => return .list .fresh items
  | .tuple, items => return .tuple .fresh items
  | .format, v :: args => do
    let format ← textFor "format" v
    return .str .fresh (← lift (FaultContext.Format.render (← store) ⟨args, []⟩ format))
  | .contextError, [context] => Eval.contextError context .none
  | .contextError, [context, source] => Eval.contextError context source
  | .report, args => construct Standard.report args []
  | .note, [v, added] => noted v added
  | .setCause, [v, cause] => do
    assign v "__cause__" cause
    return v
  | .unwrap, [v] => Outcome.unwrapped v
  | _, _ => return .none

end Operation

mutual

/-- The value of an expression, given the values of the parameters. -/
def Expr.eval (engine : Engine) (locals : Named) : Expr → Eval Value
  | .value term => term.eval engine
  | .argument id => named (locals.get? id) id
  | .locals => handOut (Signature.collected locals)
  | .branch condition whenTrue whenFalse => do
    if Store.truthy (← Expr.eval engine locals condition) then
      Expr.eval engine locals whenTrue
    else Expr.eval engine locals whenFalse
  | .sequence items => do return (← evalExprs engine locals items).getLastD .none
  | .log tag rest => do
    Eval.log tag
    Expr.eval engine locals rest
  | .construct cls args => do
    let cls ← cls.eval engine
    handOut (← engine.call cls (← evalExprs engine locals args) [])
  | .call function args named => do
    let f ← definedFunction function
    let args ← evalExprs engine locals args
    handOut (← engine.call f args (← evalNamedExprs engine locals [] named))
  | .attribute object id => do
    let v ← Expr.eval engine locals object
    handOut (← lift ((← store).attr v id))
  | .operation op operands => do handOut (← op.apply engine (← evalExprs engine locals operands))

/-- The values of several expressions. -/
def evalExprs (engine : Engine) (locals : Named) : List Expr → Eval (List Value)
  | [] => return []
  | e :: rest => do
    let v ← Expr.eval engine locals e
    return v :: (← evalExprs engine locals rest)

/-- Adds the values of named expressions to names. -/
def evalNamedExprs (engine : Engine) (locals : Named) (names : Named) :
    List (String × Expr) → Eval Named
  | [] => return names
  | (id, e) :: rest => do
    let v ← Expr.eval engine locals e
    evalNamedExprs engine locals (names.set id v) rest

end

end FaultContext
