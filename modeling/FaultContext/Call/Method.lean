/-
# FaultContext.Call.Method -- the methods of values.

A method is called on a value, which is given first where the method is taken from a class.  Methods
that stand for operators do what the operators do, and answer with a mark of their own where they do
not know the other operand.
-/
import FaultContext.Annotation.Operator
import FaultContext.Binding.Resolution
import FaultContext.Call.Outcome
import FaultContext.Chain

namespace FaultContext.Method

open Eval
open Annotation (BinaryOperator Comparison)

/-! ## Operators as methods -/

/-- The operator that a method stands for, and whether its operands are swapped. -/
def operator? : String → Option (BinaryOperator × Bool)
  | "__add__" => some (.add, false)
  | "__radd__" => some (.add, true)
  | "__sub__" => some (.sub, false)
  | "__rsub__" => some (.sub, true)
  | "__mul__" => some (.mul, false)
  | "__rmul__" => some (.mul, true)
  | "__truediv__" => some (.div, false)
  | "__floordiv__" => some (.floorDiv, false)
  | "__mod__" => some (.mod, false)
  | "__pow__" => some (.pow, false)
  | "__or__" => some (.or, false)
  | "__ror__" => some (.or, true)
  | "__and__" => some (.and, false)
  | "__rand__" => some (.and, true)
  | "__xor__" => some (.xor, false)
  | "__rxor__" => some (.xor, true)
  | "__lshift__" => some (.shiftLeft, false)
  | "__rshift__" => some (.shiftRight, false)
  | _ => none

/-- The comparison that a method stands for. -/
def comparison? : String → Option Comparison
  | "__lt__" => some .lt
  | "__le__" => some .le
  | "__gt__" => some .gt
  | "__ge__" => some .ge
  | _ => none

/-- A value, or the mark for an operand that is not known. -/
def orUnknown (r : Except Fault Value) : Eval Value :=
  match r with
  | .error (.operands ..) | .error (.notOrdered ..) => pure .notImplemented
  | r => lift r

/-- Whether two values can be compared at all. -/
def comparable (s : Store) (a b : Value) : Bool :=
  (a.number?.isSome && b.number?.isSome) || s.classOf a == s.classOf b

/-! ## Sequences and tables -/

/-- The place of the first item that agrees with a value. -/
def placeOf (s : Store) (v : Value) (items : List Value) : Option Nat :=
  items.findIdx? (s.agree v)

/-- Calls a method of a value that has items; nothing where there is no such method. -/
def ofItems? (engine : Engine) (self : Value) (name : String) (args : List Value) :
    Option (Eval Value) :=
  match self, name, args with
  | .list _ items, "index", v :: _ | .tuple _ items, "index", v :: _ => some do
    match placeOf (← store) v items with
    | some k => return .int .fresh k
    | none =>
      match self with
      | .list .. => fault (.plain .valueError ((← repr v) ++ " is not in list"))
      | _ => fault (.plain .valueError "tuple.index(x): x not in tuple")
  | .list _ items, "count", [v] | .tuple _ items, "count", [v] => some do
    let s ← store
    return .int .fresh (items.filter (s.agree v)).length
  | .list _ items, "copy", [] => some (pure (.list .fresh items))
  | .list _ items, "pop", [] => some
    (match items.getLast? with
      | some v => pure v
      | none => fault (.plain .indexError "pop from empty list"))
  | .list .., "append", [_] | .list .., "extend", [_] | .list .., "insert", [_, _]
  | .list .., "sort", _ | .list .., "reverse", [] | .list .., "clear", []
  | .set .., "add", [_] | .set .., "discard", [_] | .set .., "clear", []
  | .dict .., "clear", [] | .dict .., "update", _ => some (pure .none)
  | .dict _ entries, "get", key :: rest => some do
    return (← lift ((← store).lookup entries key)).getD (rest.headD .none)
  | .dict _ entries, "pop", key :: rest => some do
    match ← lift ((← store).lookup entries key), rest with
    | some v, _ | none, v :: _ => return v
    | none, [] => fault (.missingKey key)
  | .dict _ entries, "copy", [] => some (pure (.dict .fresh entries))
  | .dict _ entries, "keys", [] => some (pure (.list .fresh (entries.map Prod.fst)))
  | .dict _ entries, "values", [] => some (pure (.list .fresh (entries.map Prod.snd)))
  | .dict _ entries, "items", [] =>
    some (pure (.list .fresh (entries.map fun (k, v) => .tuple .fresh [k, v])))
  | .set _ frozen items, "copy", [] => some (pure (.set .fresh frozen items))
  | .set _ frozen items, "union", others => some do
    let more ← others.flatMapM (Items.take engine)
    lift ((← store).setOf frozen (items ++ more))
  | .set _ frozen items, "intersection", [v] => some do
    let s ← store
    return s.combine .intersection frozen items (← Items.take engine v)
  | .set _ frozen items, "difference", [v] => some do
    let s ← store
    return s.combine .difference frozen items (← Items.take engine v)
  | .set _ _ items, "issubset", [v] => some do
    let s ← store
    let others ← Items.take engine v
    return .bool (items.all (s.isAmong · others))
  | .bytes _ codes, "decode", _ => some
    (match String.fromUTF8? (ByteArray.mk (codes.map UInt8.ofNat).toArray) with
      | some t => pure (.str .fresh t)
      | none => fault (.plain .unicodeError "cannot decode bytes"))
  | .bytes _ codes, "hex", [] => some (pure (.ofText (codes.flatMap (Text.hexDigits 2))))
  | _, _, _ => none

/-! ## Numbers -/

/-- Calls a method of a number; nothing where there is no such method. -/
def ofNumber? (self : Value) (name : String) : Option Value :=
  match self, name with
  | .float _ x, "is_integer" => some (.bool x.isIntegral)
  | .complex _ re im, "conjugate" => some (.complex .fresh re im.neg)
  | self, "conjugate" => some self
  | self, name =>
    match self.number?, name with
    | some (.int n), "bit_length" =>
      some (.int .fresh (if n = 0 then 0 else Nat.log2 n.natAbs + 1))
    | some (.int n), "__index__" | some (.int n), "__int__" | some (.int n), "__trunc__" =>
      some (.int .fresh n)
    | some (.int n), "as_integer_ratio" => some (.tuple .fresh [.int .fresh n, .int .fresh 1])
    | _, _ => none

/-! ## Built-in uses -/

/-- Calls a method that every value has in its own way; nothing where there is no such method. -/
def ofAny? (engine : Engine) (self : Value) (name : String) (args : List Value) (named : Named) :
    Option (Eval Value) :=
  match name, args with
  | "__init__", _ => some (pure .none)
  | "__str__", [] => some do return .str .fresh (← str self)
  | "__repr__", [] => some do return .str .fresh (← repr self)
  | "__len__", [] => some do lift ((← store).length self)
  | "__bool__", [] => some (pure (.bool (Store.truthy self)))
  | "__hash__", [] => some (Builtin.callHash self)
  | "__abs__", [] => some do lift ((← store).absolute self)
  | "__neg__", [] => some do lift ((← store).negative self)
  | "__pos__", [] => some do lift ((← store).positive self)
  | "__invert__", [] => some do lift ((← store).inverted self)
  | "__iter__", [] => some (Builtin.iteratorOver self)
  | "__next__", [] => some (Builtin.nextOf engine self none)
  | "__format__", [.str _ spec] => some do
    return .ofText (← lift (Format.layout (← store) self spec.toList))
  | "__contains__", [v] => some do return .bool (← lift ((← store).holds v self))
  | "__getitem__", [key] => some do lift (TypeHint.subscript (← store) self key)
  | "__class_getitem__", [key] => some do lift (TypeHint.subscript (← store) self key)
  | "__call__", args => some (engine.call self args named)
  | "__getattribute__", [id] => some do lift ((← store).attr self (← Builtin.attributeName id))
  | "__eq__", [v] => some do
    let s ← store
    return if comparable s self v then .bool (s.equal self v) else .notImplemented
  | "__ne__", [v] => some do
    let s ← store
    return if comparable s self v then .bool !s.equal self v else .notImplemented
  | name, [v] =>
    match operator? name, comparison? name with
    | some (op, swapped), _ => some do
      let s ← store
      orUnknown (if swapped then op.apply s v self else op.apply s self v)
    | none, some c => some do orUnknown ((c.holds (← store) self v).map .bool)
    | none, none => none
  | _, _ => none

/-- Calls a method of a class or of an exception; nothing where there is no such method. -/
def ofObject? (engine : Engine) (self : Value) (name : String) (args : List Value) :
    Option (Eval Value) :=
  match self, name, args with
  | .cls c, "mro", [] => some do
    let s ← store
    return .list .fresh ((s.order c).map .cls)
  | .cls c, "__instancecheck__", [v] => some do
    let s ← store
    return .bool (s.isSubclass (s.classOf v) c)
  | .cls c, "__subclasscheck__", [.cls d] => some do
    let s ← store
    return .bool (s.isSubclass d c)
  | .cls _, "fromkeys", keys :: rest => some do
    let s ← store
    let keys ← Items.take engine keys
    match keys.findSome? s.unhashable? with
    | some type => fault (.unhashable type)
    | none =>
      return .dict .fresh
        (keys.foldl (fun entries k => s.putEntry entries k (rest.headD .none)) [])
  | .object r, "add_note", [note] => some do
    addNote r note
    return .none
  | .object _, "with_traceback", [_] => some (pure self)
  | _, _, _ => none

/-- Calls a method of a value. -/
def call (engine : Engine) (self : Value) (owner : Standard) (name : String) (args : List Value)
    (named : Named) : Eval Value := do
  let ofText := match self with
    | .str _ t => TextMethod.call? engine t name args named
    | _ => none
  let ofNumber := if args.isEmpty then (ofNumber? self name).map pure else none
  let found := [ofText, ofItems? engine self name args, ofObject? engine self name args, ofNumber,
    ofAny? engine self name args named].findSome? id
  match found with
  | some m => m
  | none =>
    let shown := (← store).callName owner
    Builtin.complain s!"{shown}.{name}() takes no arguments ({args.length} given)"

/-- Calls a method that was taken from a class: the value comes first. -/
def callUnbound (engine : Engine) (owner : Standard) (name : String) (args : List Value)
    (named : Named) : Eval Value := do
  let s ← store
  let shown := s.callName owner
  match args with
  | [] => Builtin.complain s!"unbound method {shown}.{name}() needs an argument"
  | self :: args =>
    if s.isInstance self owner then call engine self owner name args named
    else
      let type := s.typeName self
      Builtin.complain
        s!"descriptor '{name}' for '{shown}' objects doesn't apply to a '{type}' object"

/-! ## Functions of classes -/

/-- Calls a function of one of the classes of results and failures. -/
def callWritten (engine : Engine) (owner : Standard) (name : String) (args : List Value)
    (named : Named) : Eval Value := do
  let shown := owner.name ++ "." ++ name
  match Signature.enter ((Store.nativeSignature? (.method owner name)).getD []) args named with
  | .error problem => fault (.call shown problem)
  | .ok slots =>
    let self := slots.slot "self"
    let other := (slots[1]?.map Prod.snd).getD .none
    let apply (v : Value) := engine.call (slots.slot "func") [v] []
    match name with
    | "is_ok" => return .bool (Outcome.isOk (← store) self)
    | "is_err" => return .bool (Outcome.isErr (← store) self)
    | "unwrap" => Outcome.unwrapped self
    | "unwrap_or" => Outcome.unwrapOr self (slots.slot "default")
    | "unwrap_err" => Outcome.unwrapErr self
    | "map" => Outcome.map apply self
    | "map_err" => Outcome.mapErr apply self
    | "chain" => Items.newPending .generator shown (.layers self)
    | "root_cause" => lift (Chain.root (← store) self)
    | "report" => return .str .fresh (← lift (Chain.report (← store) self))
    | "__str__" => return .str .fresh (← str self)
    | "__repr__" => return .str .fresh (← repr self)
    | "__eq__" | "__ne__" =>
      let s ← store
      if s.classOf self == s.classOf other then
        return .bool (s.equal self other == (name == "__eq__"))
      else return .notImplemented
    | "__hash__" => Builtin.callHash self
    | "__getitem__" => lift (TypeHint.subscript (← store) self other)
    | "__or__" => lift (TypeHint.bar (← store) self other)
    | "__ror__" => lift (TypeHint.bar (← store) other self)
    | name =>
      match comparison? name with
      | some c => orUnknown ((c.holds (← store) self other).map .bool)
      | none => return .none

/-! ## Natives -/

/-- Calls a function of the library that merges contexts. -/
def callMerging (engine : Engine) (m : Merging) (args : List Value) (named : Named) :
    Eval Value := do
  match Signature.enter ((Store.nativeSignature? (.merging m)).getD []) args named with
  | .error problem => fault (.call m.name problem)
  | .ok slots =>
    Resolution.apply engine (some (.ofMerging m)) (slots.slot "error") (slots.slot "context")

/-- Calls a native. -/
def callNative (engine : Engine) (f : Native) (args : List Value) (named : Named) :
    Eval Value := do
  match f with
  | .len =>
    let v ← Native.onlyArgument "len" args named
    lift ((← store).length v)
  | .repr =>
    let v ← Native.onlyArgument "repr" args named
    return .str .fresh (← Eval.repr v)
  | .abs =>
    let v ← Native.onlyArgument "abs" args named
    lift ((← store).absolute v)
  | .max => Native.callExtreme engine "max" .greater (← args.mapM (Items.held engine)) named
  | .sorted => Native.callSorted engine (← args.mapM (Items.held engine)) named
  | .contextMethod => Native.remembering args named
  | .abstractMethod => Native.unimplemented args named
  | .builtin name => Builtin.call engine name args named
  | .method owner name => callWritten engine owner name args named
  | .merging m => callMerging engine m args named

end FaultContext.Method
