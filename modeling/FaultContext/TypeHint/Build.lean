/-
# FaultContext.TypeHint.Build -- types made of types.

A type constructor applied to arguments and a union of types are values that say how they were
made. Unions are flat and without repetition, and a union of one type is that type.  There are two
kinds of unions: one of classes only, and one that admits every type; the second arises as soon as
one member is more than a class.
-/
import FaultContext.Annotation.Check
import FaultContext.Value.Attribute
import FaultContext.Value.Operator

namespace FaultContext.TypeHint

/-! ## Texts that name types -/

/-- The expression that a text stands for where a type is expected.  A text that begins with a star
stands for the first of the types that it spreads. -/
def phraseOf (text : String) : Except Fault Annotation.Phrase :=
  if text.isEmpty then .error (.indexRange "string")
  else if text.toList.contains '\x00' then
    .error (.plain .valueError "source code string cannot contain null bytes")
  else
    let source := if text.startsWith "*" then "(" ++ text ++ ",)[0]" else text
    match Annotation.Phrase.ofText source with
    | .ok phrase => .ok phrase
    | .error problem =>
      .error (.during (.plain problem.cls problem.text)
        (.plain .syntaxError
          ("Forward reference must be an expression -- got " ++ Text.quoted text))
        false)

/-- A name to be resolved later; the text has to be an expression. -/
def forwardTo (text : String) : Except Fault Value := do
  discard (phraseOf text)
  return .forward text

/-! ## Arguments -/

/-- The class of the value none stands for that value where a type is expected. -/
def noneClass : Value := .std .noneType

/-- An argument as a type constructor takes it: the value none is its class, and a text is a name to
be resolved later. -/
def convert : Value → Except Fault Value
  | .none => .ok noneClass
  | .str _ source => forwardTo source
  | v => .ok v

/-- How much of a value is shown that is no type. -/
def shownArgument : Nat := 100

/-- An argument of a type constructor that checks its arguments, and complains in its own words
about one that is a tuple. -/
def checked (s : Store) (complaint : String) (v : Value) : Except Fault Value := do
  match ← convert v with
  | .bare (.alias head) => return .bare (.alias head)
  | .bare form =>
    throw (.plain .typeError ("Plain " ++ Store.bareText form ++ " is not valid as type argument"))
  | .cls (.standard .generic) =>
    throw (.plain .typeError
      ("Plain " ++ s.classText Standard.generic ++ " is not valid as type argument"))
  | .tuple i items =>
    let shown := String.ofList ((← s.repr (.tuple i items)).toList.take shownArgument)
    throw (.plain .typeError (complaint ++ " Got " ++ shown ++ "."))
  | v => return v

/-! ## Unions -/

/-- The members of a type as a member of a union. -/
def flatten : Value → List Value
  | .union members => members
  | .unionType members => members
  | v => [v]

/-- Values without repetition, the first of equal ones staying. -/
def distinct (s : Store) (members : List Value) : List Value :=
  members.foldl (fun seen v => if s.isAmong v seen then seen else seen ++ [v]) []

/-- The union of types that have been checked; every one has to be a value that can be a key. -/
def unionOfChecked (s : Store) (args : List Value) : Except Fault Value :=
  let members := args.flatMap flatten
  match members.findSome? s.unhashable? with
  | some type => .error (.unhashable type)
  | none =>
    match distinct s members with
    | [one] => .ok one
    | members => .ok (.union members)

/-- The union of types. -/
def unionOf (s : Store) (args : List Value) : Except Fault Value := do
  if args.isEmpty then throw (.plain .typeError "Cannot take a Union of no types.")
  unionOfChecked s (← args.mapM (checked s "Union[arg, ...]: each arg must be a type."))

/-- Whether a value can stand in a union of classes. -/
def isClassLike : Value → Bool
  | .none | .cls _ | .classAlias .. | .spreadAlias .. | .unionType _ => true
  | _ => false

/-- Whether a value makes a union by itself with whatever stands beside it. -/
def isTyping : Value → Bool
  | .generic .. | .typing .. | .unpacked _ | .union _ | .typeVar _ | .forward _ | .bare _ => true
  | _ => false

/-- Two types joined by a bar. -/
def join (s : Store) (a b : Value) : Except Fault Value := do
  if isTyping a || isTyping b then unionOf s [a, b]
  else if isClassLike a && isClassLike b && !(a.isNone && b.isNone) then
    match distinct s ((flatten (← convert a)) ++ flatten (← convert b)) with
    | [one] => return one
    | members => return .unionType members
  else throw (.operands "|" (s.typeName a) (s.typeName b))

/-- Two values joined by a bar: the bits of integers, the items of sets and the entries of tables
are joined, and everything else is a type. -/
def bar (s : Store) (a b : Value) : Except Fault Value :=
  match s.bitwise? Number.bitOr .union a b with
  | some v => .ok v
  | none =>
    match a, b with
    | .dict _ x, .dict _ y => .ok (s.merge x y)
    | a, b => join s a b

/-- Values joined by bars, from left to right. -/
def joinAll (s : Store) : List Value → Except Fault Value
  | [] => .ok .none
  | a :: rest => rest.foldlM (bar s) a

/-! ## Type constructors -/

/-- The class that a type constructor stands for. -/
def headClass (head : TypingHead) : Standard := head.cls

/-- How many arguments a type constructor takes. -/
def headArity : TypingHead → Option Nat
  | .list | .type => some 1
  | .dict => some 2
  | .tuple => none

/-- Checks the number of arguments of a type constructor. -/
def checkCount (name : String) (expected actual : Nat) : Except Fault Unit :=
  if actual = expected then .ok ()
  else
    let which := if expected < actual then "many" else "few"
    .error (.plain .typeError
      s!"Too {which} arguments for {name}; actual {actual}, expected {expected}")

/-- The result type without arguments: its types are left open. -/
def openResult : Value :=
  .union [.generic Standard.ok [.typeVar "T"], .generic Standard.err [.typeVar "E"]]

/-- The items of a tuple type: a mark at the end says that any number may follow. -/
def tupleArgs (s : Store) (args : List Value) : Except Fault (List Value) :=
  match args.reverse with
  | .ellipsis :: first :: before => do
    let types ← (first :: before).reverse.mapM (checked s "Tuple[t, ...]: t must be a type.")
    return types ++ [.ellipsis]
  | _ => args.mapM (checked s "Tuple[t0, t1, ...]: each t must be a type.")

/-- A type constructor, by its name, applied to arguments. -/
def applyHead (s : Store) (head : TypingHead) (args : List Value) : Except Fault Value :=
  match headArity head with
  | some n => do
    let args ← args.mapM (checked s "Parameters to generic types must be types.")
    checkCount (Store.headText head) n args.length
    return .typing head args
  | none => do return .typing head (← tupleArgs s args)

/-! ## Open types -/

mutual

/-- A type with its type variables replaced. -/
def substitute (s : Store) (given : Named) : Value → Except Fault Value
  | .typeVar name =>
    match given.get? name with
    | some v => checked s "Parameters to generic types must be types." v
    | none => .ok (.typeVar name)
  | .generic c args => do return .generic c (← substituteAll s given args)
  | .typing head args => do return .typing head (← substituteAll s given args)
  | .classAlias c args => do return .classAlias c (← substituteAll s given args)
  | .union members => do unionOf s (← substituteAll s given members)
  | .unionType members => do joinAll s (← substituteAll s given members)
  | v => .ok v

/-- Several types with their type variables replaced. -/
def substituteAll (s : Store) (given : Named) : List Value → Except Fault (List Value)
  | [] => .ok []
  | v :: rest => do
    let r ← substitute s given v
    return r :: (← substituteAll s given rest)

end

/-- A type that was made of others applied to arguments, which its type variables stand for. -/
def applyOpen (s : Store) (v : Value) (args : List Value) : Except Fault Value := do
  let params := Store.typeVars v
  let shown ← s.repr v
  if params.isEmpty then throw (.plain .typeError (shown ++ " is not a generic class"))
  let args ← args.mapM convert
  checkCount shown params.length args.length
  substitute s (params.zip args) v

/-- A class applied to arguments. -/
def applyClass (s : Store) (c : Class) (args : List Value) : Except Fault Value := do
  if c = Standard.ok || c = Standard.err then
    let args ← args.mapM convert
    checkCount (s.classText c) 1 args.length
    return .generic c args
  else if s.isSubclass c Standard.generic then
    throw (.plain .typeError (s.classText c ++ " is not a generic class"))
  else if c = Standard.type || (s.member? c "__class_getitem__").isSome then
    return .classAlias c args
  else throw (.classNotSubscriptable (s.className c))

/-- A value applied to what stands in brackets; several arguments are a tuple. -/
def subscript (s : Store) (v key : Value) : Except Fault Value :=
  let args := match key with
    | .tuple _ items => items
    | key => [key]
  match v with
  | .bare .union => unionOf s args
  | .bare .optional => do
    let type ← checked s "typing.Optional requires a single type." key
    unionOf s [type, .none]
  | .bare .unpack => do
    return .unpacked (← checked s "typing.Unpack accepts only single type." key)
  | .bare (.alias head) => applyHead s head args
  | .cls c => applyClass s c args
  | .generic .. | .typing .. | .union _ | .unpacked _ | .classAlias .. | .spreadAlias ..
  | .unionType _ => applyOpen s v args
  | v => s.item v key

end FaultContext.TypeHint
