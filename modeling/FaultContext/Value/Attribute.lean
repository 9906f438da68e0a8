/-
# FaultContext.Value.Attribute -- attributes.

What an object holds itself comes before what its class offers.  A function found in the class of an
object is bound to the object, one that belongs to the class as such is bound to the class, and one
that stands alone is returned as it is.  A class is an object too: what its own class computes about
it comes first, then what it offers itself, and last what its own class offers.

A type that was made of others answers for what it was made with, except where a name is marked as
one of its own.
-/
import FaultContext.Class.Summary
import FaultContext.Value.Access

namespace FaultContext

open Number (Binary64)

/-- The class that a type constructor stands for. -/
def TypingHead.cls : TypingHead → Standard
  | .list => .list
  | .dict => .dict
  | .tuple => .tuple
  | .type => .type

/-- The name of a type constructor. -/
def TypingHead.name : TypingHead → String
  | .list => "List"
  | .dict => "Dict"
  | .tuple => "Tuple"
  | .type => "Type"

namespace Store

/-! ## Members -/

/-- A text as an attribute. -/
def textAttribute (t : String) : Value := .str .fresh t

/-- A link to an exception as a value. -/
def linkValue : Option Ref → Value
  | some r => .object r
  | none => .none

/-- Named values as a table. -/
def tableOfNamed (named : Named) : Value :=
  .dict .fresh (named.map fun (n, v) => (.str .fresh n, v))

/-- A member of a class as it is seen through one of its instances. -/
def bindMember (s : Store) (self : Value) (member : Value) : Value :=
  match member with
  | .native _ => .bound self member
  | .member owner name =>
    match owner.memberKind? name with
    | some .method | some .slot => .method self owner name
    | some .ofClass => .method (.cls (s.classOf self)) owner name
    | some .static => .method (.std owner) owner name
    | _ => .none
  | .object r =>
    match s.get? r with
    | some ⟨_, _, .function _⟩ => .bound self member
    | some ⟨_, _, .static target⟩ => target
    | some ⟨_, _, .ofClass target⟩ => .bound (.cls (s.classOf self)) target
    | _ => member
  | _ => member

/-- A member of a class as it is seen through the class itself. -/
def classMember (s : Store) (c : Class) (member : Value) : Value :=
  match member with
  | .member owner name =>
    match owner.memberKind? name with
    | some .ofClass => .method (.cls c) owner name
    | some .static => .method (.std owner) owner name
    | _ => member
  | .object r =>
    match s.get? r with
    | some ⟨_, _, .static target⟩ => target
    | some ⟨_, _, .ofClass target⟩ => .bound (.cls c) target
    | _ => member
  | _ => member

/-- Classes whose instances cannot be keys say so in place of the method for it. -/
def refusesHash : Class → Bool
  | .standard .list | .standard .dict | .standard .set | .standard .slice
  | .standard .byteArray => true
  | _ => false

/-- The first member of a name along the order of a class, or the value none where instances cannot
be keys. -/
def findMember? (s : Store) (c : Class) (name : String) : Option Value :=
  if name = "__hash__" then
    (s.order c).findSome? fun c => if refusesHash c then some .none else s.ownMember? c name
  else s.member? c name

/-! ## Classes -/

/-- The text that a class says about itself. -/
def classSummary : Class → Value
  | .standard c => .ofOption (c.summary?.map textAttribute)
  | .declared _ => .none

/-- The bases of a class. -/
def basesOf (s : Store) : Class → List Class
  | .declared k => (s.declarations[k]?.map Declaration.bases).getD []
  | .standard c =>
    match c with
    | .templateError => [Standard.libraryError, Standard.valueError]
    | .applicabilityError | .ambiguousBinding | .missingBinding =>
      [Standard.libraryError, Standard.typeError]
    | .exceptionGroup => [Standard.baseExceptionGroup, Standard.exception]
    | c => (c.ancestors.take 1).map .standard

/-- The parameter and the only attribute of a class of results and failures. -/
def containerParts? : Class → Option (String × String)
  | .standard .ok => some ("T", "value")
  | .standard .err => some ("E", "error")
  | _ => none

/-- What a class of results and failures keeps about itself, for its instances and for the classes
derived from it too. -/
def containerFact? (s : Store) (c : Class) (name : String) : Option Value :=
  match (s.order c).findSome? containerParts? with
  | none => none
  | some (parameter, field) =>
    match name with
    | "__parameters__" =>
      some (.tuple .fresh (if (containerParts? c).isSome then [.typeVar parameter] else []))
    | "__slots__" => some (.tuple .fresh [textAttribute field, textAttribute "__weakref__"])
    | "__match_args__" => some (.tuple .fresh [textAttribute field])
    | "__orig_bases__" =>
      some (.tuple .fresh [.generic (.standard .generic) [.typeVar parameter]])
    | "__annotations__" => some (.dict .fresh [])
    | "_is_protocol" => some (.bool false)
    | _ => none

/-- What the class of a class computes about it. -/
def computedOfClass? (s : Store) (c : Class) (name : String) : Option Value :=
  match name with
  | "__name__" | "__qualname__" => some (textAttribute (s.className c))
  | "__module__" => some (textAttribute (classHome c))
  | "__class__" => some (.std (s.metaclass c))
  | "__mro__" => some (.tuple .fresh ((s.order c).map .cls))
  | "__bases__" => some (.tuple .fresh ((s.basesOf c).map .cls))
  | "__base__" => some (.ofOption ((s.basesOf c).head?.map .cls))
  | "__doc__" => some (classSummary c)
  | "__annotations__" => if classHome c = "builtins" then none else some (.dict .fresh [])
  | _ => s.containerFact? c name

/-- An attribute of a class. -/
def classAttribute (s : Store) (c : Class) (name : String) : Except Fault Value :=
  let missing : Except Fault Value := .error (.noClassAttribute (s.className c) name)
  match s.computedOfClass? c name with
  | some v => .ok v
  | none =>
    if name = "__abstractmethods__" then .error (.plain .attributeError name)
    else if name = "__annotations__" then missing
    else
      match s.findMember? c name with
      | some member => .ok (s.classMember c member)
      | none =>
        match s.member? (s.metaclass c) name with
        | some member => .ok (s.bindMember (.cls c) member)
        | none => missing

/-! ## Objects -/

/-- The defaults of the parameters that arguments can reach by place. -/
def placeDefaults (params : Signature) : Value :=
  match params.filterMap fun p => if p.kind == .keywordOnly then none else p.default with
  | [] => .none
  | values => .tuple .fresh values

/-- The defaults of the parameters that arguments reach only by name. -/
def nameDefaults (params : Signature) : Value :=
  match params.filterMap fun p =>
      if p.kind == .keywordOnly then p.default.map (p.name, ·) else none with
  | [] => .none
  | named => tableOfNamed named

/-- Attributes that the body of an object stands for. -/
def bodyAttribute? (o : Object) (name : String) : Option Value :=
  match o.body, name with
  | .exception args _ _, "args" => some (.tuple .fresh args)
  | .exception _ cause _, "__cause__" => some (linkValue cause)
  | .exception _ _ context, "__context__" => some (linkValue context)
  | .exception _ cause _, "__suppress_context__" => some (.bool cause.isSome)
  | .ok value, "value" => some value
  | .err error, "error" => some error
  | .function f, "__name__" => some (textAttribute f.name)
  | .function f, "__qualname__" => some (textAttribute f.qualifiedName)
  | .function f, "__doc__" => some (.ofOption (f.doc.map textAttribute))
  | .function _, "__module__" => some (textAttribute "drv")
  | .function f, "__wrapped__" => f.wrapped
  | .function f, "__annotations__" => some (tableOfNamed f.annotations)
  | .function f, "__dict__" =>
    some (tableOfNamed (f.attributes ++ (f.wrapped.map (("__wrapped__", ·))).toList))
  | .function f, "__defaults__" => some (placeDefaults f.params)
  | .function f, "__kwdefaults__" => some (nameDefaults f.params)
  | .function f, name => f.attributes.get? name
  | .applied .., "__dict__" => some (.dict .fresh [])
  | .applied target _ _, "func" => some target
  | .applied _ args _, "args" => some (.tuple .fresh args)
  | .applied _ _ named, "keywords" => some (tableOfNamed named)
  | .static target, "__func__" | .ofClass target, "__func__" => some target
  | .static target, "__wrapped__" | .ofClass target, "__wrapped__" => some target
  | _, _ => none

/-- Whether a class gives its instances an attribute from the start. -/
def hasSlot (s : Store) (c : Class) (name : String) : Bool :=
  (s.order c).any fun
    | .standard c => c.slots.contains name
    | .declared _ => false

/-- Whether the instances of a class keep attributes of any name. -/
def hasTable (s : Store) (o : Object) : Bool :=
  match o.body with
  | .exception .. | .named _ | .callable .. | .counter .. => true
  | .plain | .err _ =>
    (s.order o.cls).any fun
      | .standard c => c.home = "drv"
      | .declared _ => true
  | _ => false

/-- Whether an object is an instance of a class that is written in the language. -/
def isWritten (s : Store) (o : Object) : Bool :=
  match o.body with
  | .applied .. => false
  | _ => (s.order o.cls).any (classHome · != "builtins")

/-- What is true of an instance because of its class: the home of a class that is written in the
language, its summary, and the class itself. -/
def classFact? (s : Store) (c : Class) (name : String) : Option Value :=
  match name with
  | "__class__" => some (.cls c)
  | "__doc__" => some (classSummary c)
  | "__module__" =>
    ((s.order c).find? fun c => classHome c != "builtins").map (textAttribute ∘ classHome)
  | _ => none

/-- An attribute of an object. -/
def objectAttribute? (s : Store) (r : Ref) (o : Object) (name : String) : Option Value :=
  match bodyAttribute? o name with
  | some v => some v
  | none =>
    match o.attributes.get? name with
    | some v => some v
    | none =>
      if name = "__class__" then some (.cls o.cls)
      else if name = "__weakref__" && s.isWritten o then some .none
      else if s.hasSlot o.cls name then some .none
      else if name = "__dict__" && s.hasTable o then
        some (tableOfNamed (o.attributes.filter fun (n, _) => !s.hasSlot o.cls n))
      else
        match s.findMember? o.cls name with
        | some member => some (s.bindMember (.object r) member)
        | none =>
          match s.containerFact? o.cls name with
          | some v => some v
          | none => s.classFact? o.cls name

/-! ## Plain data -/

/-- The parts of data that can be asked for. -/
def partAttribute? (v : Value) (name : String) : Option Value :=
  match v, name with
  | .float _ x, "real" => some (.float .fresh x)
  | .float _ _, "imag" => some (.float .fresh (Binary64.zero false))
  | .complex _ re _, "real" => some (.float .fresh re)
  | .complex _ _ im, "imag" => some (.float .fresh im)
  | .range _ start _ _, "start" => some (.int .fresh start)
  | .range _ _ stop _, "stop" => some (.int .fresh stop)
  | .range _ _ _ step, "step" => some (.int .fresh step)
  | .slice _ start _ _, "start" => some start
  | .slice _ _ stop _, "stop" => some stop
  | .slice _ _ _ step, "step" => some step
  | v, name =>
    match v.number? with
    | some (.int n) =>
      match name with
      | "real" | "numerator" => some (.int .fresh n)
      | "imag" => some (.int .fresh 0)
      | "denominator" => some (.int .fresh 1)
      | _ => none
    | _ => none

/-- The name of a native function. -/
def nativeName : Native → String
  | .len => "len"
  | .max => "max"
  | .repr => "repr"
  | .abs => "abs"
  | .sorted => "sorted"
  | .builtin name => name
  | .contextMethod | .abstractMethod => "wrap_err"
  | .method _ name => name
  | .merging m => m.name

/-- The qualified name of a native function. -/
def nativeQualifiedName : Native → String
  | .contextMethod => "ErrorWithContext.wrap_err"
  | .abstractMethod => "WrapErr.wrap_err"
  | .method owner name => owner.name ++ "." ++ name
  | f => nativeName f

/-- The home of a native function. -/
def nativeHome : Native → String
  | .contextMethod => "drv"
  | .abstractMethod => "errify.bindings"
  | .method owner _ => owner.home
  | .merging m => m.home
  | _ => "builtins"

/-- The text that a native function says about itself. -/
def nativeSummary? : Native → Option String
  | .len => some "Return the number of items in a container."
  | .max => some (
    "max(iterable, *[, default=obj, key=func]) -> value\n" ++
    "max(arg1, arg2, *args, *[, key=func]) -> value\n\n" ++
    "With a single iterable argument, return its biggest item. The\n" ++
    "default keyword-only argument specifies an object to return if\n" ++
    "the provided iterable is empty.\n" ++
    "With two or more arguments, return the largest argument.")
  | .repr => some (
    "Return the canonical string representation of the object.\n\n" ++
    "For many object types, including most builtins, eval(repr(obj)) == obj.")
  | .abs => some "Return the absolute value of the argument."
  | .sorted => some (
    "Return a new list containing all items from the iterable in ascending order.\n\n" ++
    "A custom key function can be supplied to customize the sort order, and the\n" ++
    "reverse flag can be set to request the result in descending order.")
  | .merging .unregistered =>
    some "Placeholder for types with no registered binding; never called."
  | _ => none

/-- What can be asked about functions and members. -/
def callableAttribute? (v : Value) (name : String) : Option Value :=
  match v, name with
  | .native f, "__name__" => some (textAttribute (nativeName f))
  | .native f, "__qualname__" => some (textAttribute (nativeQualifiedName f))
  | .native f, "__module__" => some (textAttribute (nativeHome f))
  | .native f, "__doc__" => some (.ofOption ((nativeSummary? f).map textAttribute))
  | .member _ member, "__name__" => some (textAttribute member)
  | .member owner member, "__qualname__" => some (textAttribute (owner.name ++ "." ++ member))
  | .member owner _, "__objclass__" => some (.std owner)
  | .method _ _ member, "__name__" => some (textAttribute member)
  | .method _ owner member, "__qualname__" => some (textAttribute (owner.name ++ "." ++ member))
  | .method self _ _, "__self__" => some self
  | .bound self _, "__self__" => some self
  | .bound _ f, "__func__" => some f
  | _, _ => none

/-- An attribute of a value that is no object. -/
def dataAttribute (s : Store) (v : Value) (name : String) : Except Fault Value :=
  match partAttribute? v name with
  | some found => .ok found
  | none =>
    match callableAttribute? v name with
    | some found => .ok found
    | none =>
      let c := s.classOf v
      if name = "__class__" then .ok (.cls c)
      else
        match s.findMember? c name with
        | some member => .ok (s.bindMember v member)
        | none =>
          match s.classFact? c name with
          | some found => .ok found
          | none => .error (.noAttribute (s.typeName v) name)

/-! ## Types made of types -/

/-- Whether a name is marked as one that is not taken over. -/
def isMarked (name : String) : Bool := name.startsWith "__" && name.endsWith "__"

mutual

/-- The type variables of a type. -/
def typeVars : Value → List String
  | .typeVar name => [name]
  | .generic _ args | .typing _ args | .classAlias _ args | .spreadAlias _ args | .union args
  | .unionType args => typeVarsOf args
  | .unpacked type => typeVars type
  | _ => []

/-- The type variables of several types, each where it occurs first. -/
def typeVarsOf : List Value → List String
  | [] => []
  | v :: rest =>
    let first := typeVars v
    first ++ (typeVarsOf rest).filter (!first.contains ·)

end

/-- The type variables of types as a value. -/
def parametersValue (args : List Value) : Value :=
  .tuple .fresh ((typeVarsOf args).map .typeVar)

/-- The name that a type constructor gives a type. -/
def aliasName? : Value → Option String
  | .typing head _ | .bare (.alias head) => some head.name
  | .union [.cls (.standard .noneType), _] | .union [_, .cls (.standard .noneType)] =>
    some "Optional"
  | _ => none

/-- An attribute of a type that a type constructor made. -/
def aliasAttribute (s : Store) (v origin : Value) (args : Option (List Value)) (name : String) :
    Except Fault Value :=
  let missing : Except Fault Value := .error (.plain .attributeError name)
  let plain := match origin with
    | .cls c => s.className c
    | _ => "Union"
  match name, args with
  | "__origin__", _ => .ok origin
  | "__args__", some args => .ok (.tuple .fresh args)
  | "__parameters__", some args => .ok (parametersValue args)
  | "_name", _ => .ok (.ofOption ((aliasName? v).map textAttribute))
  | "__name__", _ | "__qualname__", _ => .ok (textAttribute ((aliasName? v).getD plain))
  | "__class__", _ => .ok (.cls (s.classOf v))
  | "__slots__", _ => .ok .none
  | "__doc__", some _ => .ok .none
  | "__doc__", none => .ok (textAttribute ("A generic version of " ++ plain ++ "."))
  | "_inst", _ =>
    match v with
    | .typing .. | .bare _ => .ok (.bool false)
    | _ => .ok (.bool true)
  | "__module__", _ =>
    match v, origin with
    | .generic .., .cls c => .ok (textAttribute (classHome c))
    | _, _ => .ok (textAttribute "typing")
  | _, _ =>
    match s.findMember? (s.classOf v) name with
    | some member => .ok (s.bindMember v member)
    | none =>
      match origin with
      | .cls c => if isMarked name then missing else s.classAttribute c name
      | _ => missing

/-- An attribute of a class that is applied to arguments. -/
def classAliasAttribute (s : Store) (v : Value) (c : Class) (args : List Value) (spread : Bool)
    (name : String) : Except Fault Value :=
  match name with
  | "__origin__" => .ok (.cls c)
  | "__args__" => .ok (.tuple .fresh args)
  | "__parameters__" => .ok (parametersValue args)
  | "__unpacked__" => .ok (.bool spread)
  | "__class__" => .ok (.std .classAlias)
  | "__mro_entries__" | "__reduce__" => .ok (.method v .classAlias name)
  | _ => s.classAttribute c name

/-- An attribute of a type variable. -/
def typeVarAttribute? (id name : String) : Option Value :=
  match name with
  | "__name__" => some (textAttribute id)
  | "__bound__" => some .none
  | "__constraints__" => some (.tuple .fresh [])
  | "__covariant__" | "__contravariant__" => some (.bool false)
  | _ => none

/-- The name of a type constructor that stands alone. -/
def formName : BareForm → String
  | .union => "Union"
  | .optional => "Optional"
  | .unpack => "Unpack"
  | .alias head => head.name

/-! ## Values -/

/-- An attribute of a value. -/
def attr (s : Store) (v : Value) (name : String) : Except Fault Value :=
  match v with
  | .cls c => s.classAttribute c name
  | .classAlias c args => s.classAliasAttribute v c args false name
  | .spreadAlias c args => s.classAliasAttribute v c args true name
  | .generic c args => s.aliasAttribute v (.cls c) (some args) name
  | .typing head args => s.aliasAttribute v (.std head.cls) (some args) name
  | .union members => s.aliasAttribute v (.bare .union) (some members) name
  | .unpacked type => s.aliasAttribute v (.bare .unpack) (some [type]) name
  | .bare (.alias head) => s.aliasAttribute v (.std head.cls) none name
  | .bare form =>
    match name with
    | "__name__" | "__qualname__" | "_name" => .ok (textAttribute (formName form))
    | "__class__" => .ok (.cls (s.classOf v))
    | "__module__" => .ok (textAttribute "typing")
    | _ =>
      match s.findMember? (s.classOf v) name with
      | some member => .ok (s.bindMember v member)
      | none => .error (.plain .attributeError name)
  | .unionType members =>
    match name with
    | "__args__" => .ok (.tuple .fresh members)
    | "__parameters__" => .ok (parametersValue members)
    | _ => s.dataAttribute v name
  | .typeVar id =>
    match typeVarAttribute? id name with
    | some found => .ok found
    | none => s.dataAttribute v name
  | .forward source =>
    if name = "__forward_arg__" then .ok (textAttribute source) else s.dataAttribute v name
  | .bound self f =>
    match callableAttribute? v name with
    | some found => .ok found
    | none =>
      let own := match f with
        | .object r => (s.get? r).bind fun o => bodyAttribute? o name
        | f => callableAttribute? f name
      match own with
      | some found => .ok found
      | none => (s.dataAttribute (.bound self f) name).mapError fun _ =>
        .noAttribute (s.typeName f) name
  | .object r =>
    match s.get? r with
    | some o =>
      match s.objectAttribute? r o name with
      | some found => .ok found
      | none => .error (.noAttribute (s.typeName v) name)
    | none => .error (.noAttribute (s.typeName v) name)
  | v => s.dataAttribute v name

end Store
end FaultContext
