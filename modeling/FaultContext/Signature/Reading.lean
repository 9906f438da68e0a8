/-
# FaultContext.Signature.Reading -- the signature of a value.

A function has the parameters it was written with.  A layer or guard shows, when wrappers are
followed, the signature of what it wraps.  A function some of whose arguments are given already
shows what is left: positional arguments make their parameters disappear, and from the first
parameter that was given by name on, all parameters can only be given by name.  A class has the
parameters of its initializer.

Some natives and classes have no signature that could be read.
-/
import FaultContext.Signature.Documented
import FaultContext.Value.Attribute
import FaultContext.Value.Text

namespace FaultContext

/-! ## Functions with arguments given already -/

namespace Signature

/-- A signature while the arguments given already are taken out of it: parameters that stay in
place, and those that have moved behind them. -/
structure Remaining where
  kept : Signature
  moved : Signature
  onlyNamed : Bool

/-- Decides what becomes of one parameter. -/
def Remaining.add (given : Named) (named : Named) (r : Remaining) (p : Param) : Remaining :=
  let stay (r : Remaining) (p : Param) : Remaining :=
    if r.onlyNamed then
      match p.kind with
      | .standard => { r with moved := r.moved ++ [{ p with kind := .keywordOnly }] }
      | .keywordOnly | .varKeyword => { r with moved := r.moved ++ [p] }
      | .varPositional => r
      | .positionalOnly => { r with kept := r.kept ++ [p] }
    else { r with kept := r.kept ++ [p] }
  match given.get? p.name with
  | none => stay r p
  | some v =>
    match p.kind with
    | .positionalOnly => r
    | .standard =>
      if named.has p.name then stay { r with onlyNamed := true } { p with default := some v } else r
    | .keywordOnly => stay r { p with default := some v }
    | _ => stay r p

/-- What is left of a signature once some arguments are given, or why they do not fit. -/
def afterGiving (s : Signature) (args : List Value) (named : Named) :
    Except BindFault Signature :=
  (s.bindPartial args named).map fun given =>
    let r := s.foldl (Remaining.add given named) ⟨[], [], false⟩
    r.kept ++ r.moved

/-- A signature without the parameter that an object is bound to. -/
def withoutSelf : Signature → Option Signature
  | [] => none
  | p :: ps =>
    match p.kind with
    | .positionalOnly | .standard => some ps
    | .varPositional => some (p :: ps)
    | .keywordOnly | .varKeyword => none

end Signature

namespace Store

/-! ## Classes -/

/-- Whether instances of a class are made by nothing but the most general initializer. -/
def isPlainClass (s : Store) (c : Class) : Bool :=
  (s.order c).all fun
    | .declared _ => true
    | .standard c => isPlainStandard c

/-- Whether a class initializes itself in a way that cannot be read. -/
def initializesItself : Class → Bool
  | .standard c => c.initializesItself
  | .declared _ => false

/-- The parameters of the initializer of a class that can be read. -/
def readInitializer? : Class → Option Signature
  | .standard c => (initializer? c).or (internalInitializer? c)
  | .declared _ => none

/-- The parameters of a class. -/
def classSignature (s : Store) (c : Class) : Except Fault Signature :=
  match ((s.order c).takeWhile (!initializesItself ·)).findSome? readInitializer? with
  | some params => .ok params
  | none =>
    match (s.order c).findSome? documented? with
    | some params => .ok params
    | none =>
      if c = Standard.type then
        .error (.plain .valueError ("no signature found for builtin " ++ s.classText c))
      else if s.isSubclass c Standard.type then
        .error (.plain .valueError
          ("callable " ++ s.classText c ++ " is not supported by signature"))
      else if s.isPlainClass c then .ok []
      else .error (.plain .valueError ("no signature found for builtin type " ++ s.classText c))

/-- Why a native or a member has no signature. -/
def unreadable (shown : String) (misdocumented : Bool) : Fault :=
  .plain .valueError
    (if misdocumented then shown ++ " builtin has invalid signature"
    else "no signature found for builtin " ++ shown)

/-! ## Values -/

/-- What a value stands for, if it is a wrapper. -/
def wrapped? (s : Store) : Value → Option Value
  | .object r =>
    match s.get? r with
    | some ⟨_, _, .function f⟩ => f.wrapped
    | some ⟨_, _, .static target⟩ | some ⟨_, _, .ofClass target⟩ => some target
    | _ => none
  | _ => none

/-- Follows wrappers, at most as many as there are objects. -/
def unwrapWithin (s : Store) (v : Value) : Nat → Value
  | 0 => v
  | steps + 1 =>
    match s.wrapped? v with
    | some inner => s.unwrapWithin inner steps
    | none => v

/-- Follows wrappers to the end. -/
def unwrap (s : Store) (v : Value) : Value := s.unwrapWithin v s.objects.size

/-- The signature of a value, going through at most `layers` values inside one another.  `follow`
tells whether wrappers stand for what they wrap. -/
def signatureWithin (s : Store) (follow : Bool) : Nat → Value → Except Fault Signature
  | 0, _ => .error .endlessText
  | layers + 1, v => do
    if !s.isCallable v then
      throw (.plain .typeError ((← s.repr v) ++ " is not a callable object"))
    match v with
    | .bound _ f =>
      match (← s.signatureWithin follow layers f).withoutSelf with
      | some params => return params
      | none => throw (.plain .valueError "invalid method signature")
    | _ =>
      match if follow then s.unwrap v else v with
      | .cls c => s.classSignature c
      | .native f =>
        match nativeSignature? f with
        | some params => return params
        | none => throw (unreadable (nativeText f) (f = .builtin "anext"))
      | .object r =>
        match s.get? r with
        | some ⟨_, _, .function f⟩ => return f.params
        | some ⟨_, _, .counter ..⟩ => return []
        | some ⟨_, _, .callable _ target⟩ =>
          match (← s.signatureWithin follow layers target).withoutSelf with
          | some params => return params
          | none => throw (.plain .valueError "invalid method signature")
        | some ⟨_, _, .applied target args named⟩ =>
          match (← s.signatureWithin follow layers target).afterGiving args named with
          | .ok params => return params
          | .error fault => throw (.during fault.toFault (.givenArguments (← s.repr v)) true)
        | _ =>
          throw (unreadable (← s.repr (.object r)) false)
      | .bound _ f =>
        match (← s.signatureWithin follow layers f).withoutSelf with
        | some params => return params
        | none => throw (.plain .valueError "invalid method signature")
      | .member owner name =>
        match heldMemberParams? owner name with
        | some params => return params
        | none => throw (unreadable (← s.repr v) (isMisdocumented owner name))
      | .method self owner name =>
        -- What is seen through none is read as if it were not seen through anything.
        match if self.isNone then heldMemberParams? owner name else memberParams? owner name with
        | some params => return params
        | none => throw (unreadable (← s.repr v) (isMisdocumented owner name))
      | .bare .union | .bare .optional =>
        return [⟨"args", .varPositional, none⟩, ⟨"kwds", .varKeyword, none⟩]
      | _ => return Signature.everything

/-- The signature of a value. -/
def signature (s : Store) (follow : Bool) (v : Value) : Except Fault Signature :=
  s.signatureWithin follow (s.objects.size + 2) v

/-! ## Kinds of callables -/

/-- The function that a value with arguments given already was made from. -/
def targetWithin (s : Store) (v : Value) : Nat → Value
  | 0 => v
  | steps + 1 =>
    match v with
    | .object r =>
      match s.get? r with
      | some ⟨_, _, .applied target _ _⟩ => s.targetWithin target steps
      | _ => v
    | .bound _ f => s.targetWithin f steps
    | _ => v

/-- What calling a value gives, as far as its code tells; only functions have code. -/
def formOf (s : Store) (v : Value) : Form :=
  match s.function? (s.targetWithin v s.objects.size) with
  | some f => f.code.form
  | none => .direct

/-- Whether calling a value gives a coroutine. -/
def isAsynchronous (s : Store) (v : Value) : Bool := s.formOf v = .asynchronous

/-- Whether a value is a function, native or not, or a method of some kind. -/
def isRoutine (s : Store) : Value → Bool
  | .native _ | .bound .. | .method .. => true
  | .object r =>
    match s.get? r with
    | some o =>
      match o.body with
      | .function _ | .static _ | .ofClass _ => true
      | _ => false
    | none => false
  | _ => false

/-- The qualified name of a value that has one. -/
def qualifiedName? (s : Store) (v : Value) : Option String :=
  match v with
  | .cls c => some (s.className c)
  | .native .contextMethod | .native .abstractMethod => none
  | .native f => some (nativeQualifiedName f)
  | .member owner name | .method _ owner name => some (owner.name ++ "." ++ name)
  | .bound _ f => some (s.boundName f)
  | .object r =>
    match s.get? r with
    | some ⟨_, _, .function f⟩ => some f.qualifiedName
    | some ⟨_, _, .static target⟩ | some ⟨_, _, .ofClass target⟩ =>
      (s.function? target).map Function.qualifiedName
    | _ => none
  | _ => none

end Store
end FaultContext
