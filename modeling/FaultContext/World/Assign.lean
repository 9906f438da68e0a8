/-
# FaultContext.World.Assign -- attributes that a program sets.

The links of an exception take an exception or the value none.  Successes and failures are frozen.
Plain data has no attributes that could be set, and neither have the classes every program knows.
-/
import FaultContext.World.Construct

namespace FaultContext.Eval

/-- The exception that a link is set to. -/
def linkTarget (link : String) (v : Value) : Eval (Option Ref) := do
  match v with
  | .none => return none
  | v =>
    match (← store).exception? v with
    | some r => return some r
    | none => fault (.assignedCause link)

/-- Sets the arguments of an exception. -/
def setArgs (r : Ref) (args : List Value) : Eval Unit :=
  modifyObject r
    (fun o =>
      match o.body with
      | .exception _ cause context => { o with body := .exception args cause context }
      | _ => o)
    fun ⟨_, _, body⟩ => by cases body <;> rfl

/-- Sets an attribute of an exception. -/
def assignToException (r : Ref) (name : String) (v : Value) : Eval Unit := do
  match name with
  | "__cause__" => setCause r (← linkTarget "cause" v)
  | "__context__" => setContext r (← linkTarget "context" v)
  | "args" => setArgs r (← lift ((← store).iterate v))
  | _ => setAttribute r name v

/-- Sets an attribute of a function. -/
def assignToFunction (r : Ref) (name : String) (v : Value) : Eval Unit :=
  modifyObject r
    (fun o =>
      match o.body with
      | .function f =>
        { o with body := .function { f with attributes := f.attributes.set name v } }
      | _ => o)
    fun ⟨_, _, body⟩ => by cases body <;> rfl

/-- Sets a member of a class that the program has declared. -/
def assignToClass (index : Nat) (name : String) (v : Value) : Eval Unit :=
  changeStore (fun s => ((), { s with members := s.members.modify index (·.set name v) }))
    fun _ => ⟨fun _ _ h => h, rfl⟩

/-- Sets an attribute of a value. -/
def assign (target : Value) (name : String) (v : Value) : Eval Unit := do
  let s ← store
  match target with
  | .object r =>
    match (s.get? r).map Object.body with
    | some (.exception ..) => assignToException r name v
    | some (.ok _) | some (.err _) => raise (← newException Standard.frozenInstanceError [] [])
    | some (.function _) => assignToFunction r name v
    | some (.generator _) => fault (.noAttribute (s.typeName target) name)
    | _ => setAttribute r name v
  | .cls (.declared k) => assignToClass k name v
  | .cls (.standard c) =>
    fault (.plain .typeError s!"cannot set '{name}' attribute of immutable type '{c.name}'")
  | _ => fault (.noAttribute (s.typeName target) name)

end FaultContext.Eval
