/-
# FaultContext.TypeHint.Query -- what a type says about failures.

The question behind all of this is `failureType`: which class does a return type name as the payload
of a failure?  It has an answer only where the type pins down one class.  Two kinds of things are
passed over on the way and do not count against an answer: alternatives that are no failures, and
failures whose payload is not a class.
-/
import FaultContext.TypeHint.Build

namespace FaultContext.TypeHint

/-! ## Taking types apart -/

/-- What a type was made with, for types that were made of others. -/
def origin? : Value → Option Value
  | .generic c _ => some (.cls c)
  | .typing head _ => some (.std (headClass head))
  | .classAlias c _ | .spreadAlias c _ => some (.cls c)
  | .unpacked _ => some (.bare .unpack)
  | .union _ => some (.bare .union)
  | .unionType _ => some (.std .unionType)
  | .bare (.alias head) => some (.std (headClass head))
  | .cls (.standard .generic) => some (.std .generic)
  | _ => none

/-- What a type was made with; other values are their own origin. -/
def originOf (v : Value) : Value := (origin? v).getD v

/-- The types that a type was made of. -/
def argsOf : Value → List Value
  | .generic _ args | .typing _ args | .classAlias _ args | .spreadAlias _ args | .union args
  | .unionType args => args
  | .unpacked type => [type]
  | _ => []

/-- Whether a type was made with one of the given origins, of the given number of types. -/
def hasOrigin (s : Store) (v : Value) (origins : List Value) (count : Option Nat) : Bool :=
  s.isAmong (Value.ofOption (origin? v)) origins && count.all (· == (argsOf v).length)

/-! ## Subclasses -/

/-- Whether a class is derived from something that need not be a class; nothing where the question
makes no sense. -/
def derives? (s : Store) (c : Class) : Value → Option Bool
  | .cls (.standard .wrapErr) => if s.isHashableClass c then some (s.hasContextMethod c) else none
  | .cls d => some (s.isSubclass c d)
  | .bare (.alias head) => some (s.isSubclass c (headClass head))
  | .union members | .unionType members =>
    members.foldl (fun found m =>
      match found, m with
      | some false, .cls d => some (s.isSubclass c d)
      | some false, _ => none
      | answer, _ => answer) (some false)
  | _ => none

/-- Whether a class is derived from one of several things, asked in turn. -/
def derivesAny? (s : Store) (c : Class) : List Value → Option Bool
  | [] => some false
  | v :: rest =>
    match derives? s c v with
    | some false => derivesAny? s c rest
    | answer => answer

/-- Whether a value is a class derived from one of several things; every question that makes no
sense is answered by no. -/
def isSubclassSafe (s : Store) (v : Value) (ancestors : List Value) : Bool :=
  match v with
  | .cls c => (derivesAny? s c ancestors).getD false
  | _ => false

/-! ## Failure types -/

/-- The only member of a list. -/
def single? {α : Type} : List α → Option α
  | [a] => some a
  | _ => none

mutual

/-- The class that a return type names as the payload of a failure. -/
def failureType : Value → Option Class
  | .generic (.standard .err) [.cls payload] => some payload
  | .union members | .unionType members => single? (failureTypes members)
  | _ => none

/-- The classes that the members of a union name. -/
def failureTypes : List Value → List Class
  | [] => []
  | v :: rest => (failureType v).toList ++ failureTypes rest

end

end FaultContext.TypeHint
