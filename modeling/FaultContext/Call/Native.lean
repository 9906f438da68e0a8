/-
# FaultContext.Call.Native -- functions that are not written in the language.

Each native checks its arguments before it does anything, and has its own wording for arguments that
do not fit.  The two methods here are those of the classes every program knows: one makes a copy of
the failure that remembers the context, and the other is the open method of the interface.
-/
import FaultContext.Sorting.Runs
import FaultContext.World.Construct

namespace FaultContext.Native

open Eval

/-! ## Arguments -/

/-- The argument of a native that takes exactly one. -/
def onlyArgument (name : String) (args : List Value) (named : Named) : Eval Value :=
  if !named.isEmpty then fault (.plain .typeError (name ++ "() takes no keyword arguments"))
  else
    match args with
    | [v] => pure v
    | _ => fault (.plain .typeError s!"{name}() takes exactly one argument ({args.length} given)")

/-- Refuses every keyword but the given ones. -/
def checkKeywords (shown : String) (known : List String) (named : Named) : Eval Unit :=
  match named.find? fun (k, _) => !known.contains k with
  | some (k, _) =>
    fault (.plain .typeError s!"'{k}' is an invalid keyword argument for {shown}()")
  | none => pure ()

/-- A keyword argument that counts as absent when it is the value none. -/
def optional (named : Named) (name : String) : Option Value :=
  match named.get? name with
  | some .none | none => none
  | some v => some v

/-- What a value is compared by. -/
def keyOf (engine : Engine) (key : Option Value) (v : Value) : Eval Value :=
  match key with
  | none => pure v
  | some f => engine.call f [v] []

/-! ## The greatest and the least value -/

/-- The first of several values by their keys in an order; of equal ones the first. -/
def extremeBy (engine : Engine) (rel : Store.Relation) (key : Option Value) (best bestKey : Value) :
    List Value → Eval Value
  | [] => return best
  | v :: rest => do
    let k ← keyOf engine key v
    if ← lift ((← store).before rel k bestKey) then extremeBy engine rel key v k rest
    else extremeBy engine rel key best bestKey rest

/-- The greatest or the least of the arguments, or of the items of a single argument. -/
def callExtreme (engine : Engine) (name : String) (rel : Store.Relation) (args : List Value)
    (named : Named) : Eval Value := do
  if args.isEmpty then fault (.plain .typeError s!"{name} expected at least 1 argument, got 0")
  checkKeywords name ["key", "default"] named
  if 1 < args.length && named.has "default" then
    fault (.plain .typeError
      s!"Cannot specify a default for {name}() with multiple positional arguments")
  let items ← match args with
    | [v] => lift ((← store).iterate v)
    | _ => pure args
  let key := optional named "key"
  match items with
  | v :: rest => extremeBy engine rel key v (← keyOf engine key v) rest
  | [] =>
    match named.get? "default" with
    | some v => return v
    | none => fault (.plain .valueError s!"{name}() arg is an empty sequence")

/-! ## Values in order -/

/-- The keys of several values, beside the values. -/
def withKeys (engine : Engine) (key : Option Value) : List Value → Eval (List (Value × Value))
  | [] => return []
  | v :: rest => do
    let k ← keyOf engine key v
    return (k, v) :: (← withKeys engine key rest)

/-- Values in the order of their keys; equal ones keep their places. -/
def sortByKey (s : Store) (items : List (Value × Value)) : Except Fault (List (Value × Value)) :=
  Sorting.sort (fun a b => s.before .less a.1 b.1) items

/-- Whether a keyword argument asks for the reversed order. -/
def reversed (named : Named) : Eval Bool := do
  match named.get? "reverse" with
  | none => return false
  | some v =>
    match Store.place? v with
    | some n => return n ≠ 0
    | none =>
      let type := (← store).typeName v
      fault (.plain .typeError s!"'{type}' object cannot be interpreted as an integer")

/-- The items of a value in order. -/
def callSorted (engine : Engine) (args : List Value) (named : Named) : Eval Value := do
  match args with
  | [v] =>
    let items ← lift ((← store).iterate v)
    checkKeywords "sort" ["key", "reverse"] named
    let backwards ← reversed named
    let keyed ← withKeys engine (optional named "key") items
    if backwards then
      return .list .fresh ((← lift (sortByKey (← store) keyed.reverse)).reverse.map Prod.snd)
    else return .list .fresh ((← lift (sortByKey (← store) keyed)).map Prod.snd)
  | _ => fault (.plain .typeError s!"sorted expected 1 argument, got {args.length}")

/-! ## Methods -/

/-- The slots of a method that takes an object and a context. -/
def enterMethod (name : String) (args : List Value) (named : Named) : Eval Named :=
  match Signature.enter [⟨"self", .standard, none⟩, ⟨"context", .standard, none⟩] args named with
  | .ok slots => pure slots
  | .error f => fault (.call name f)

/-- A copy of a failure that remembers a context. -/
def remembering (args : List Value) (named : Named) : Eval Value := do
  let slots ← enterMethod "ErrorWithContext.wrap_err" args named
  let msg ← lift ((← store).attr (slots.slot "self") "msg")
  let cx ← str (slots.slot "context")
  construct Standard.errorWithContext [msg] [("cx", .str .fresh cx)]

/-- The open method of the interface. -/
def unimplemented (args : List Value) (named : Named) : Eval Value := do
  discard (enterMethod "WrapErr.wrap_err" args named)
  raise (← newException Standard.notImplementedError [] [])

end FaultContext.Native
