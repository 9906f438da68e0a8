/-
# FaultContext.Call.Builtin -- the functions and iterators that every annotation knows.

Each function checks its arguments before it does anything.  The classes of iterators are called
like functions, and what they make computes its items only when they are asked for.

Deliberately not here: functions that need to know where they are called from.
-/
import FaultContext.Call.Items
import FaultContext.Call.Native
import FaultContext.Format.Percent
import FaultContext.TypeHint.Query
import FaultContext.World.Assign

namespace FaultContext.Builtin

open Eval
open Number (Binary64)

/-! ## Arguments -/

/-- Raises a complaint about a type. -/
def complain {α : Type} (message : String) : Eval α := fault (.plain .typeError message)

/-- The integer that an argument is. -/
def integerArgument (v : Value) : Eval Int := do
  match Store.place? v with
  | some n => return n
  | none =>
    complain ("'" ++ (← store).typeName v ++ "' object cannot be interpreted as an integer")

/-- The name of an attribute. -/
def attributeName (v : Value) : Eval String := do
  match v with
  | .str _ t => return t
  | v => complain ("attribute name must be string, not '" ++ (← store).typeName v ++ "'")

/-- How many arguments a function takes. -/
inductive Arity where
  /-- Exactly one. -/
  | one
  /-- As many as two bounds allow. -/
  | between (least most : Nat)
  /-- One for each name, by place or by name, and the first of them always. -/
  | byName (names : List String) (needed : Nat)
  /-- As many as there are, which the function checks itself. -/
  | any
  deriving Repr

/-- How many arguments a function takes by its name. -/
def arity : String → Arity
  | "all" | "any" | "ascii" | "bin" | "oct" | "hex" | "callable" | "chr" | "ord" | "hash" | "id" =>
    .one
  | "divmod" | "hasattr" | "isinstance" | "issubclass" | "delattr" => .between 2 2
  | "setattr" => .between 3 3
  | "getattr" => .between 2 3
  | "format" | "iter" | "next" => .between 1 2
  | "pow" => .byName ["base", "exp", "mod"] 2
  | "round" => .byName ["number", "ndigits"] 1
  | "sum" => .byName ["", "start"] 1
  | _ => .any

/-- The arguments of a function whose arguments have names, by place; what is missing at the end is
left out. -/
def placed (name : String) (names : List String) (needed : Nat) (args : List Value)
    (named : Named) : Eval (List Value) := do
  let given := args.length + named.length
  if names.length < given then
    complain s!"{name}() takes at most {names.length} arguments ({given} given)"
  let slots := (args.map some ++ (names.drop args.length).map named.get?).take names.length
  match (names.zip slots).zipIdx.find? fun ((_, v), k) => v.isNone && k < needed with
  | some (("", _), _) =>
    complain s!"{name}() takes at least {needed} positional argument ({args.length} given)"
  | some ((missing, _), k) =>
    let place := k + 1
    complain s!"{name}() missing required argument '{missing}' (pos {place})"
  | none =>
    Native.checkKeywords name names named
    match (names.take args.length).zipIdx.find? fun (n, _) => named.has n with
    | some (twice, k) =>
      let place := k + 1
      complain s!"argument for {name}() given by name ('{twice}') and position ({place})"
    | none => return slots.map (·.getD .none)

/-- The arguments of a function by place, if it takes that many. -/
def Arity.accept (name : String) (args : List Value) (named : Named) : Arity → Eval (List Value)
  | .one => do return [← Native.onlyArgument name args named]
  | .between least most => do
    lift (checkNumber name least most args named)
    return args
  | .byName names needed => placed name names needed args named
  | .any => return args

/-! ## Numbers -/

/-- An integer in a base, with the mark of the base. -/
def inBase (code : Char) (v : Value) : Eval Value := do
  let n ← integerArgument v
  let parts := Format.integerParts true code n
  return .ofText ((if parts.negative then ['-'] else []) ++ parts.basePrefix ++ parts.digits)

/-- The quotient to the floor and the remainder. -/
def quotientAndRemainder (a b : Value) : Eval Value := do
  let s ← store
  match a.number?, b.number? with
  | some x, some y =>
    match s.floorDiv a b with
    | .ok q => return .tuple .fresh [q, ← lift (s.mod a b)]
    | .error .floatDivision => fault (.plain .zeroDivisionError "float divmod()")
    | .error f =>
      discard (lift (Store.numeric (fun _ _ => .ok 0) (fun x _ => .ok x) x y))
      fault f
  | _, _ => fault (.operands "divmod()" (s.typeName a) (s.typeName b))

/-- A power of an integer, reduced by a modulus. -/
def modularPower (a b m : Value) : Eval Value := do
  match Store.place? a, Store.place? b, Store.place? m with
  | some x, some (.ofNat n), some k =>
    if k = 0 then fault (.plain .valueError "pow() 3rd argument cannot be 0")
    else return .int .fresh ((Int.pow x n).fmod k)
  | some _, some _, some _ =>
    fault (.plain .valueError "base is not invertible for the given modulus")
  | _, _, _ => complain "pow() 3rd argument not allowed unless all arguments are integers"

/-- An integer rounded to a power of ten, to the even multiple on a tie. -/
def roundedInteger (n : Int) (places : Nat) : Int :=
  let unit : Nat := Nat.pow 10 places
  let size := Number.nearestEven n.natAbs unit * unit
  if n < 0 then -(size : Int) else size

/-- A number rounded to a number of places after the point. -/
def roundedReal (x : Binary64) (places : Nat) : Binary64 :=
  let spec : Format.Spec :=
    ⟨' ', .right, none, false, false, none, .none, some places, some 'f'⟩
  match Format.layoutReal .real spec x with
  | .ok text => (Binary64.read? (String.ofList text)).getD x
  | .error _ => x

/-- The integer nearest to a number, the even one on a tie. -/
def nearestInteger (x : Binary64) : Except Fault Int :=
  match x with
  | .nan => .error .nanInteger
  | .infinite _ => .error .infiniteInteger
  | .finite negative m e =>
    let (num, den) := Binary64.scaled m e
    let size : Int := (Number.nearestEven num den : Nat)
    .ok (if negative then -size else size)

/-- A rounded number. -/
def callRound (v : Value) (places : Option Value) : Eval Value := do
  let places ← match places with
    | none | some .none => pure none
    | some p => do pure (some (← integerArgument p))
  match v.number?, places with
  | some (.int n), none | some (.int n), some (.ofNat _) => return .int .fresh n
  | some (.int n), some (.negSucc p) => return .int .fresh (roundedInteger n (p + 1))
  | some (.float x), none => return .int .fresh (← lift (nearestInteger x))
  | some (.float x), some (.ofNat p) => return .float .fresh (roundedReal x p)
  | some (.float x), some (.negSucc p) =>
    match nearestInteger x with
    | .ok n => return .float .fresh (Binary64.ofInt (roundedInteger n (p + 1)))
    | .error _ => return .float .fresh x
  | none, _ =>
    complain ("type " ++ (← store).typeName v ++ " doesn't define __round__ method")

/-- The sum of a start and of items. -/
def addUp (start : Value) : List Value → Eval Value
  | [] => return start
  | v :: rest => do addUp (← lift ((← store).plus start v)) rest

/-- The sum of the items of a value. -/
def callSum (engine : Engine) (v start : Value) : Eval Value := do
  match start with
  | .str .. => complain "sum() can't sum strings [use ''.join(seq) instead]"
  | .bytes .. => complain "sum() can't sum bytes [use b''.join(seq) instead]"
  | start => addUp start (← Items.take engine v)

/-! ## Characters -/

/-- The character of a number. -/
def callChr (v : Value) : Eval Value := do
  let n ← integerArgument v
  if n < 0 || 0x110000 ≤ n then
    fault (.plain .valueError "chr() arg not in range(0x110000)")
  else return .str .fresh (Char.ofNat n.toNat).toString

/-- The number of a character. -/
def callOrd (v : Value) : Eval Value := do
  let wrongLength (n : Nat) : Eval Value :=
    complain s!"ord() expected a character, but string of length {n} found"
  match v with
  | .str _ t =>
    match t.toList with
    | [c] => return .int .fresh c.toNat
    | cs => wrongLength cs.length
  | .bytes _ [code] => return .int .fresh code
  | .bytes _ codes => wrongLength codes.length
  | v =>
    complain ("ord() expected string of length 1, but " ++ (← store).typeName v ++ " found")

/-! ## Classes -/

/-- What a class is compared with: tuples are taken apart, to a limited depth. -/
def alternatives : Nat → Value → List Value
  | 0, v => [v]
  | depth + 1, .tuple _ items => items.flatMap (alternatives depth)
  | _, v => [v]

/-- Whether a class is derived from one of several things. -/
def derivesFrom (complaint : String) (c : Class) (types : Value) : Eval Bool := do
  match TypeHint.derivesAny? (← store) c (alternatives 8 types) with
  | some answer => return answer
  | none => complain complaint

/-! ## Attributes -/

/-- An attribute of a value, or another value where there is none. -/
def attributeOr (v : Value) (name : String) (default : Value) : Eval Value := do
  match (← store).attr v name with
  | .ok found => return found
  | .error f => if f.cls.isSubclass .attributeError then return default else fault f

/-- Whether a value has an attribute. -/
def hasAttribute (v : Value) (name : String) : Eval Value := do
  match (← store).attr v name with
  | .ok _ => return .bool true
  | .error f => if f.cls.isSubclass .attributeError then return .bool false else fault f

/-! ## Iterators -/

/-- The class of the iterator over a value. -/
def iteratorClass : Value → Standard
  | .tuple .. => .tupleIterator
  | .str .. => .textIterator
  | .bytes .. => .bytesIterator
  | .set .. => .setIterator
  | .range .. => .rangeIterator
  | .dict .. => .keyIterator
  | _ => .listIterator

/-- An iterator over a value; an iterator is its own. -/
def iteratorOver (v : Value) : Eval Value := do
  let s ← store
  if Items.isIterator s v then return v
  else Items.newIterator (iteratorClass v) "" (← lift (s.iterate v))

/-- The next item of an iterator. -/
def nextOf (engine : Engine) (v : Value) (default : Option Value) : Eval Value := do
  let s ← store
  match v with
  | .object r =>
    if Items.isIterator s v then
      match ← Items.take engine v with
      | first :: rest =>
        Items.leave r rest
        return first
      | [] =>
        match default with
        | some v => return v
        | none => raise (← newException Standard.stopIteration [] [])
    else complain ("'" ++ s.typeName v ++ "' object is not an iterator")
  | v => complain ("'" ++ s.typeName v ++ "' object is not an iterator")

/-- Items with their numbers. -/
def numbered (start : Int) : List Value → List Value
  | [] => []
  | v :: rest => .tuple .fresh [.int .fresh start, v] :: numbered (start + 1) rest

/-- The items of a value backwards. -/
def backwards (v : Value) : Eval Value := do
  let s ← store
  match v with
  | .list .. => Items.newIterator .reverseListIterator "" (← lift (s.iterate v)).reverse
  | .range .. => Items.newIterator .rangeIterator "" (← lift (s.iterate v)).reverse
  | .tuple .. | .str .. | .bytes .. | .dict .. =>
    Items.newIterator .reversed "" (← lift (s.iterate v)).reverse
  | v => complain ("'" ++ s.typeName v ++ "' object is not reversible")

/-- Refuses what has no items. -/
def checkItems (v : Value) : Eval Unit := do
  if !Items.isIterator (← store) v then discard (lift ((← store).iterate v))

/-- An iterator made by calling its class; nothing for other classes. -/
def iterator? (engine : Engine) (c : Standard) (args : List Value) (named : Named) :
    Option (Eval Value) :=
  match c with
  | .enumerate => some do
    lift (checkNumber "enumerate" 1 2 args [])
    let start ← match args[1]?, named.get? "start" with
      | some v, _ | none, some v => integerArgument v
      | none, none => pure 0
    let items ← Items.take engine (args.headD .none)
    Items.newIterator .enumerate "" (numbered start items)
  | .zip => some do
    let rows ← args.mapM (Items.take engine)
    Items.newIterator .zip "" ((Items.columns rows).map (.tuple .fresh))
  | .map => some do
    match args with
    | f :: first :: rest =>
      (first :: rest).forM checkItems
      Items.newPending .map "" (.mapped f (first :: rest))
    | _ => complain "map() must have at least two arguments."
  | .filter => some do
    match args with
    | [f, source] =>
      checkItems source
      Items.newPending .filter "" (.filtered f source)
    | _ => complain s!"filter expected 2 arguments, got {args.length}"
  | .reversed => some do
    match args with
    | [v] => backwards v
    | _ => complain s!"reversed expected 1 argument, got {args.length}"
  | .staticMethod => some do
    match args with
    | [f] => new ⟨Standard.staticMethod, [], .static f⟩
    | _ => complain s!"staticmethod expected 1 argument, got {args.length}"
  | .classMethod => some do
    match args with
    | [f] => new ⟨Standard.classMethod, [], .ofClass f⟩
    | _ => complain s!"classmethod expected 1 argument, got {args.length}"
  | .super => some (fault (.plain .runtimeError "super(): no arguments"))
  | _ => none

/-! ## Functions -/

/-- The number by which an integer is found as a key. -/
def hashOf (n : Int) : Int :=
  let prime : Nat := Nat.pow 2 61 - 1
  let size : Int := (n.natAbs % prime : Nat)
  let h := if n < 0 then -size else size
  if h = -1 then -2 else h

/-- The number by which a value is found as a key. -/
def callHash (v : Value) : Eval Value := do
  match (← store).unhashable? v with
  | some type => fault (.unhashable type)
  | none =>
    match v.number? with
    | some (.int n) => return .int .fresh (hashOf n)
    | some (.float x) => return .int .fresh (hashOf (x.truncate?.getD 0))
    | none => return .int .fresh 0

/-- Calls a function by its name. -/
def call (engine : Engine) (name : String) (args : List Value) (named : Named) : Eval Value := do
  match name, ← (arity name).accept name args named with
  | "all", [v] => return .bool ((← Items.take engine v).all Store.truthy)
  | "any", [v] => return .bool ((← Items.take engine v).any Store.truthy)
  | "ascii", [v] => return .str .fresh (← lift ((← store).ascii v))
  | "bin", [v] => inBase 'b' v
  | "oct", [v] => inBase 'o' v
  | "hex", [v] => inBase 'x' v
  | "callable", [v] => return .bool ((← store).isCallable v)
  | "chr", [v] => callChr v
  | "ord", [v] => callOrd v
  | "divmod", [a, b] => quotientAndRemainder a b
  | "pow", [a, b, .none] => lift ((← store).pow a b)
  | "pow", [a, b, m] => modularPower a b m
  | "round", [v, places] => callRound v (some places)
  | "sum", [v, .none] =>
    callSum engine v (if named.has "start" || args.length = 2 then .none else .int .fresh 0)
  | "sum", [v, start] => callSum engine v start
  | "format", [v] => return .ofText (← lift (Format.layout (← store) v []))
  | "format", [v, .str _ spec] => return .ofText (← lift (Format.layout (← store) v spec.toList))
  | "format", [_, spec] =>
    complain ("format() argument 2 must be str, not " ++ (← store).typeName spec)
  | "getattr", [v, id] => lift ((← store).attr v (← attributeName id))
  | "getattr", [v, id, default] => attributeOr v (← attributeName id) default
  | "hasattr", [v, id] => hasAttribute v (← attributeName id)
  | "setattr", [v, id, x] =>
    assign v (← attributeName id) x
    return .none
  | "hash", [v] => callHash v
  | "id", [_] => return .int .fresh 0
  | "isinstance", [v, types] =>
    return .bool (← derivesFrom
      "isinstance() arg 2 must be a type, a tuple of types, or a union" ((← store).classOf v) types)
  | "issubclass", [.cls c, types] =>
    return .bool (← derivesFrom
      "issubclass() arg 2 must be a class, a tuple of classes, or a union" c types)
  | "issubclass", [_, _] => complain "issubclass() arg 1 must be a class"
  | "iter", [v] => iteratorOver v
  | "iter", [f, _] =>
    if (← store).isCallable f then Items.newIterator .callIterator "" []
    else complain "iter(v, w): v must be callable"
  | "next", [v] => nextOf engine v none
  | "next", [v, default] => nextOf engine v (some default)
  | "min", args => Native.callExtreme engine "min" .less (← args.mapM (Items.held engine)) named
  | "print", _ | "exec", [_] => return .none
  | name, args => complain s!"{name}() does not take {args.length} arguments here"

end FaultContext.Builtin
