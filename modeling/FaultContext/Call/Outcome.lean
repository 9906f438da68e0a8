/-
# FaultContext.Call.Outcome -- successes and failures as values.

A result holds the value of a success or the error of a failure.  Unwrapping takes out what is held;
a failure that is unwrapped like a success is raised, if it can be.
-/
import FaultContext.World.Construct

namespace FaultContext

open Eval

/-- What a value holds as a success or a failure. -/
inductive Outcome where
  | ok (value : Value)
  | err (error : Value)

namespace Outcome

/-- What a value holds, if it is a success or a failure. -/
def of? (s : Store) : Value → Option Outcome
  | .object r =>
    match s.get? r with
    | some ⟨_, _, .ok value⟩ => some (.ok value)
    | some ⟨_, _, .err error⟩ => some (.err error)
    | _ => none
  | _ => none

/-- What a value holds; a value that is neither has no such method. -/
def need (method : String) (v : Value) : Eval Outcome := do
  match of? (← store) v with
  | some found => return found
  | none => fault (.noAttribute ((← store).typeName v) method)

/-- Whether a value is a success. -/
def isOk (s : Store) (v : Value) : Bool :=
  match of? s v with
  | some (.ok _) => true
  | _ => false

/-- Whether a value is a failure. -/
def isErr (s : Store) (v : Value) : Bool :=
  match of? s v with
  | some (.err _) => true
  | _ => false

/-- The value of a success; a failure is raised. -/
def unwrapped (v : Value) : Eval Value := do
  match ← need "unwrap" v with
  | .ok value => return value
  | .err error =>
    match (← store).exception? error with
    | some r => Eval.raise r
    | none => raiseNew .valueError ("called unwrap on Err: " ++ (← str error))

/-- The error of a failure. -/
def unwrapErr (v : Value) : Eval Value := do
  match ← need "unwrap_err" v with
  | .ok value => raiseNew .valueError ("called unwrap_err on Ok: " ++ (← Eval.repr value))
  | .err error => return error

/-- The value of a success, or another one. -/
def unwrapOr (v other : Value) : Eval Value := do
  match ← need "unwrap_or" v with
  | .ok value => return value
  | .err _ => return other

/-- A result with its success mapped. -/
def map (f : Value → Eval Value) (v : Value) : Eval Value := do
  match ← need "map" v with
  | .ok value => Eval.ok (← f value)
  | .err _ => return v

/-- A result with its failure mapped. -/
def mapErr (f : Value → Eval Value) (v : Value) : Eval Value := do
  match ← need "map_err" v with
  | .ok _ => return v
  | .err error => Eval.err (← f error)

end Outcome
end FaultContext
