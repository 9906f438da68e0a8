/-
# FaultContext.Value.Text -- values as text.

There are two texts of a value: `repr` is meant for telling values apart and `str` for reading.
The text of plain data follows its structure.  The text of an object is decided by the first class
along its order that has an opinion, and may go on to other objects; as a chain of objects can be
closed to a circle, the texts are built in layers, one for each object that may still be met.  A
text that needs more layers than there are objects has met one of them twice and has no end.
-/
import FaultContext.Fault
import FaultContext.Format.Layout
import FaultContext.Store.Object

namespace FaultContext

/-- A text, or why there is none. -/
abbrev Texted := Except Fault String

/-- The texts of objects. -/
structure ObjectTexts where
  str : Ref → Texted
  repr : Ref → Texted

namespace Store

/-! ## Plain data -/

/-- An integer in base ten. -/
def integerText (n : Int) : Texted :=
  let digits := Number.Decimal.digitsOf n.natAbs
  if Number.longestInteger < digits.length then .error .integerTooLong
  else .ok (String.ofList (if n < 0 then '-' :: digits else digits))

/-- The qualified name of a class; the module is left out where every program knows the class. -/
def qualifiedClass (s : Store) (c : Class) : String :=
  let home := classHome c
  if home = "builtins" then s.className c else home ++ "." ++ s.className c

/-- The text of a class. -/
def classText (s : Store) (c : Class) : String :=
  if c = .standard .any then "typing.Any" else "<class '" ++ s.qualifiedClass c ++ "'>"

/-- The name of a type constructor. -/
def headText : TypingHead → String
  | .list => "typing.List"
  | .dict => "typing.Dict"
  | .tuple => "typing.Tuple"
  | .type => "typing.Type"

/-- The name of a type constructor that stands alone. -/
def bareText : BareForm → String
  | .union => "typing.Union"
  | .optional => "typing.Optional"
  | .unpack => "typing.Unpack"
  | .alias head => headText head

/-- The name of a native function, as its text shows it. -/
def nativeText : Native → String
  | .len => "<built-in function len>"
  | .max => "<built-in function max>"
  | .repr => "<built-in function repr>"
  | .abs => "<built-in function abs>"
  | .sorted => "<built-in function sorted>"
  | .builtin "exit" => "Use exit() or Ctrl-D (i.e. EOF) to exit"
  | .builtin "quit" => "Use quit() or Ctrl-D (i.e. EOF) to exit"
  | .builtin "help" =>
    "Type help() for interactive help, or help(object) for help about object."
  | .builtin name => "<built-in function " ++ name ++ ">"
  | .contextMethod => "<function ErrorWithContext.wrap_err at 0x0>"
  | .abstractMethod => "<function WrapErr.wrap_err at 0x0>"
  | .method owner name => "<function " ++ owner.name ++ "." ++ name ++ " at 0x0>"
  | .merging m => "<function " ++ m.name ++ " at 0x0>"

/-- Texts with commas between them. -/
def commas (items : List String) : String := ", ".intercalate items

/-- A tuple of texts; one item alone keeps its comma. -/
def tupleText : List String → String
  | [a] => "(" ++ a ++ ",)"
  | items => "(" ++ commas items ++ ")"

/-- The name under which a bound function is shown. -/
def boundName (s : Store) (f : Value) : String :=
  match s.function? f with
  | some f => f.qualifiedName
  | none =>
    match f with
    | .native .contextMethod => "ErrorWithContext.wrap_err"
    | .native .abstractMethod => "WrapErr.wrap_err"
    | .native (.method owner name) => owner.name ++ "." ++ name
    | .native (.merging m) => m.name
    | _ => "?"

/-- A member that a class has from the start. -/
def memberText (s : Store) (owner : Standard) (name : String) : String :=
  let ofOwner (what : String) :=
    "<" ++ what ++ " '" ++ name ++ "' of '" ++ s.callName owner ++ "' objects>"
  match owner.memberKind? name with
  | some .slot => ofOwner "slot wrapper"
  | some .computed => ofOwner "attribute"
  | some .field => ofOwner "member"
  | _ => ofOwner "method"

/-- A member as it is seen through a value. -/
def methodText (s : Store) (self : Value) (owner : Standard) (name : String) : String :=
  let ofSelf := " of " ++ s.typeName self ++ " object at 0x0>"
  if owner.memberKind? name = some .slot then "<method-wrapper '" ++ name ++ "'" ++ ofSelf
  else "<built-in method " ++ name ++ ofSelf

/-- A part of a complex number: a whole number is shown without a point. -/
def partText (x : Number.Binary64) : String :=
  let text := Format.realText x
  if text.endsWith ".0" then (text.dropEnd 2).toString else text

/-- A complex number; a real part of zero is left out. -/
def complexText (re im : Number.Binary64) : String :=
  if re.isZero && !re.isNegative then partText im ++ "j"
  else
    let sign := if im.isNegative then "" else "+"
    "(" ++ partText re ++ sign ++ partText im ++ "j)"

/-- A range; a step of one is left out. -/
def rangeText (start stop step : Int) : Texted := do
  let ends := (← integerText start) ++ ", " ++ (← integerText stop)
  if step = 1 then return "range(" ++ ends ++ ")"
  else return "range(" ++ ends ++ ", " ++ (← integerText step) ++ ")"

/-- A set of texts. -/
def setText (frozen : Bool) (items : List String) : String :=
  let inner := "\x7b" ++ commas items ++ "\x7d"
  if items.isEmpty then (if frozen then "frozenset()" else "set()")
  else if frozen then "frozenset(" ++ inner ++ ")" else inner

/-- The plain name of a function that is written in the language. -/
def writtenName? (s : Store) (v : Value) : Option String :=
  match s.function? v with
  | some f => some f.name
  | none =>
    match v with
    | .native .contextMethod | .native .abstractMethod => some "wrap_err"
    | .native (.method _ name) => some name
    | .native (.merging m) => some m.name
    | _ => none

/-- The name of a function together with its home. -/
def homeName? (s : Store) (v : Value) : Option String :=
  match v with
  | .native .contextMethod => some "drv.ErrorWithContext.wrap_err"
  | .native .abstractMethod => some "errify.bindings.WrapErr.wrap_err"
  | .native (.method owner name) => some (owner.home ++ "." ++ owner.name ++ "." ++ name)
  | .native (.merging m) => some (m.home ++ "." ++ m.name)
  | .native .len => some "len"
  | .native .max => some "max"
  | .native .repr => some "repr"
  | .native .abs => some "abs"
  | .native .sorted => some "sorted"
  | .native (.builtin name) => some name
  | .bound _ f => (s.function? f).map fun f => "drv." ++ f.qualifiedName
  | v => (s.function? v).map fun f => "drv." ++ f.qualifiedName

mutual

/-- The text of a value that tells it apart. -/
def reprWith (s : Store) (texts : ObjectTexts) : Value → Texted
  | .none => .ok "None"
  | .bool b => .ok (if b then "True" else "False")
  | .int _ n => integerText n
  | .float _ x => .ok (Format.realText x)
  | .str _ t => .ok (Text.quoted t)
  | .list _ items => do return "[" ++ commas (← reprAll s texts items) ++ "]"
  | .tuple _ items => do return tupleText (← reprAll s texts items)
  | .dict _ entries => do return "\x7b" ++ commas (← reprEntries s texts entries) ++ "\x7d"
  | .bytes _ codes => .ok (Text.quotedBytes codes)
  | .complex _ re im => .ok (complexText re im)
  | .set _ frozen items => do return setText frozen (← reprAll s texts items)
  | .range _ start stop step => rangeText start stop step
  | .slice _ start stop step => do
    return "slice(" ++ (← reprWith s texts start) ++ ", " ++ (← reprWith s texts stop) ++ ", " ++
      (← reprWith s texts step) ++ ")"
  | .ellipsis => .ok "Ellipsis"
  | .notImplemented => .ok "NotImplemented"
  | .member owner name => .ok (s.memberText owner name)
  | .method self owner name => .ok (s.methodText self owner name)
  | .cls c => .ok (s.classText c)
  | .generic c args => do
    return s.qualifiedClass c ++ "[" ++ commas (← argumentTexts s texts args) ++ "]"
  | .typing head [] => .ok (headText head ++ "[()]")
  | .typing head args => do
    return headText head ++ "[" ++ commas (← argumentTexts s texts args) ++ "]"
  | .classAlias c [] => .ok (s.qualifiedClass c ++ "[()]")
  | .classAlias c args => do
    return s.qualifiedClass c ++ "[" ++ commas (← memberTexts s texts false args) ++ "]"
  | .spreadAlias c [] => .ok ("*" ++ s.qualifiedClass c ++ "[()]")
  | .spreadAlias c args => do
    return "*" ++ s.qualifiedClass c ++ "[" ++ commas (← memberTexts s texts false args) ++ "]"
  | .unpacked type => do return "*" ++ (← reprWith s texts type)
  | .union members => do
    let parts ← argumentTexts s texts members
    match members, parts with
    | [.cls (.standard .noneType), _], [_, b] => return "typing.Optional[" ++ b ++ "]"
    | [_, .cls (.standard .noneType)], [a, _] => return "typing.Optional[" ++ a ++ "]"
    | _, _ => return "typing.Union[" ++ commas parts ++ "]"
  | .unionType members => do
    return " | ".intercalate (← memberTexts s texts true members)
  | .typeVar name => .ok ("~" ++ name)
  | .forward source => .ok ("ForwardRef(" ++ Text.quoted source ++ ")")
  | .bare form => .ok (bareText form)
  | .native f => .ok (nativeText f)
  | .bindings _ => .ok "<errify.bindings.BindingSet object at 0x0>"
  | .bound self f => do
    return "<bound method " ++ s.boundName f ++ " of " ++ (← reprWith s texts self) ++ ">"
  | .coroutine _ f _ _ => .ok ("<coroutine object " ++ s.boundName f ++ " at 0x0>")
  | .object r => texts.repr r

/-- The texts of several values. -/
def reprAll (s : Store) (texts : ObjectTexts) : List Value → Except Fault (List String)
  | [] => .ok []
  | v :: rest => do
    let t ← reprWith s texts v
    return t :: (← reprAll s texts rest)

/-- The texts of the entries of a table. -/
def reprEntries (s : Store) (texts : ObjectTexts) : List (Value × Value) →
    Except Fault (List String)
  | [] => .ok []
  | (k, v) :: rest => do
    let a ← reprWith s texts k
    let b ← reprWith s texts v
    return (a ++ ": " ++ b) :: (← reprEntries s texts rest)

/-- Arguments of a type constructor: classes and functions are shown by their names alone. -/
def argumentTexts (s : Store) (texts : ObjectTexts) : List Value → Except Fault (List String)
  | [] => .ok []
  | v :: rest => do
    let t ← match v with
      | .cls c => .ok (s.qualifiedClass c)
      | .ellipsis => .ok "..."
      | v =>
        match s.writtenName? v with
        | some name => .ok name
        | none => reprWith s texts v
    return t :: (← argumentTexts s texts rest)

/-- Arguments of a class, and members of a union of classes, where the class of the value none is
shown as that value: what has a home is shown by its name. -/
def memberTexts (s : Store) (texts : ObjectTexts) (ofUnion : Bool) :
    List Value → Except Fault (List String)
  | [] => .ok []
  | v :: rest => do
    let t ← match v with
      | .cls c =>
        .ok (if ofUnion && c = .standard .noneType then "None" else s.qualifiedClass c)
      | .ellipsis => .ok (if ofUnion then "Ellipsis" else "...")
      | v =>
        match s.homeName? v with
        | some name => .ok name
        | none => reprWith s texts v
    return t :: (← memberTexts s texts ofUnion rest)

end

/-- The text of a value for reading. -/
def strWith (s : Store) (texts : ObjectTexts) : Value → Texted
  | .str _ t => .ok t
  | .object r => texts.str r
  | v => reprWith s texts v

/-! ## Objects -/

/-- A text that an object gives has to be a text. -/
def expectText (s : Store) : Value → Texted
  | .str _ t => .ok t
  | v => .error (.textIsNotText (s.typeName v))

/-- An attribute that a text is made of. -/
def needAttribute (s : Store) (o : Object) (name : String) : Except Fault Value :=
  match o.attributes.get? name with
  | some v => .ok v
  | none => .error (.noAttribute (s.className o.cls) name)

/-- Named arguments as they are written in a call. -/
def namedTexts (s : Store) (texts : ObjectTexts) (named : Named) : Except Fault (List String) :=
  named.mapM fun (name, v) => do return name ++ "=" ++ (← s.reprWith texts v)

/-- The text of an exception for telling it apart: its class and its arguments. -/
def exceptionRepr (s : Store) (texts : ObjectTexts) (o : Object) (args : List Value) : Texted := do
  let parts ← s.reprAll texts args
  return s.className o.cls ++ "(" ++ commas parts ++ ")"

/-- How a class that has an opinion writes one of its instances for telling it apart. -/
def reprByClass (s : Store) (texts : ObjectTexts) (o : Object) : Class → Option Texted
  | .standard .unprintable => some (.error .unprintable)
  | .standard .contextExpr => some do
    return "ContextExpr(" ++ (← s.reprWith texts (← s.needAttribute o "num")) ++ ")"
  | .standard .report => some do
    let message ← s.reprWith texts (← s.needAttribute o "message")
    let contexts ← s.reprWith texts (← s.needAttribute o "contexts")
    return "Report(" ++ message ++ ", contexts=" ++ contexts ++ ")"
  | .standard .contextError => some do
    let context ← s.strWith texts (← s.needAttribute o "context")
    let source ← s.reprWith texts (← s.needAttribute o "source")
    return s.className o.cls ++ "(" ++ Text.quoted context ++ ", source=" ++ source ++ ")"
  | .standard .baseException =>
    match o.body with
    | .exception args _ _ => some (s.exceptionRepr texts o args)
    | _ => none
  | _ => none

/-- The text of an object for telling it apart. -/
def reprObject (s : Store) (texts : ObjectTexts) (o : Object) : Texted :=
  match o.body with
  | .named name => .ok name
  | .ok value => do return "Ok(" ++ (← s.reprWith texts value) ++ ")"
  | .err error => do return "Err(" ++ (← s.reprWith texts error) ++ ")"
  | .counter .. => .ok "<counter>"
  | .function f => .ok ("<function " ++ f.qualifiedName ++ " at 0x0>")
  | .applied target args named => do
    let target ← s.reprWith texts target
    let args ← s.reprAll texts args
    let named ← s.namedTexts texts named
    return "functools.partial(" ++ commas (target :: args ++ named) ++ ")"
  | .callable text _ => .ok text
  | .static target => do return "<staticmethod(" ++ (← s.reprWith texts target) ++ ")>"
  | .ofClass target => do return "<classmethod(" ++ (← s.reprWith texts target) ++ ")>"
  | .generator name =>
    .ok ("<" ++ s.className o.cls ++ " object " ++ name ++ " at 0x0>")
  | .iterator name _ | .pending name _ =>
    if name = "" then .ok ("<" ++ s.className o.cls ++ " object at 0x0>")
    else .ok ("<" ++ s.className o.cls ++ " object " ++ name ++ " at 0x0>")
  | .plain | .exception .. =>
    match (s.order o.cls).findSome? (s.reprByClass texts o) with
    | some text => text
    | none => .ok ("<" ++ s.qualifiedClass o.cls ++ " object at 0x0>")

/-- The text of an exception for reading, from its arguments. -/
def exceptionStr (s : Store) (texts : ObjectTexts) : List Value → Texted
  | [] => .ok ""
  | [a] => s.strWith texts a
  | args => s.reprWith texts (.tuple .fresh args)

/-- The text of an error of the operating system: its number, its message and the files it is about.
Without a message it is written like any other exception. -/
def systemStr (s : Store) (texts : ObjectTexts) (o : Object) (args : List Value) : Texted := do
  let field (name : String) := o.attributes.get? name
  let start : Texted := do
    let number ← s.strWith texts (.ofOption (field "errno"))
    return "[Errno " ++ number ++ "] " ++ (← s.strWith texts (.ofOption (field "strerror")))
  match field "filename", field "filename2" with
  | some first, some second =>
    return (← start) ++ ": " ++ (← s.reprWith texts first) ++ " -> " ++
      (← s.reprWith texts second)
  | some file, none => return (← start) ++ ": " ++ (← s.reprWith texts file)
  | none, _ =>
    if (field "errno").isSome && (field "strerror").isSome then start
    else s.exceptionStr texts args

/-- How a class that has an opinion writes one of its instances for reading. -/
def strByClass (s : Store) (texts : ObjectTexts) (o : Object) : Class → Option Texted
  | .standard .contextExpr => some do
    return "ContextExpr(" ++ (← s.strWith texts (← s.needAttribute o "num")) ++ ")"
  | .standard .report => some do
    match ← s.needAttribute o "contexts" with
    | .tuple _ [] | .list _ [] => s.expectText (← s.needAttribute o "message")
    | .tuple _ contexts | .list _ contexts => s.expectText (contexts.getLastD .none)
    | _ => s.expectText (← s.needAttribute o "message")
  | .standard .errorWithContext => some do
    let cx ← s.needAttribute o "cx"
    if cx.isNone then s.expectText (← s.needAttribute o "msg") else s.expectText cx
  | .standard .contextError => some do s.strWith texts (← s.needAttribute o "context")
  | .standard .keyError =>
    match o.body with
    | .exception [a] _ _ => some (s.reprWith texts a)
    | .exception args _ _ => some (s.exceptionStr texts args)
    | _ => none
  | .standard .osError =>
    match o.body with
    | .exception args _ _ => some (s.systemStr texts o args)
    | _ => none
  | .standard .nameError | .standard .attributeError | .standard .baseException =>
    match o.body with
    | .exception args _ _ => some (s.exceptionStr texts args)
    | _ => none
  | _ => none

/-- The text of an object for reading; without an opinion of a class it is the one that tells it
apart. -/
def strObject (s : Store) (texts : ObjectTexts) (o : Object) : Texted :=
  match o.body with
  | .plain | .exception .. =>
    match (s.order o.cls).findSome? (s.strByClass texts o) with
    | some text => text
    | none => s.reprObject texts o
  | _ => s.reprObject texts o

/-- The texts of objects that can be written with at most `layers` objects inside one another. -/
def texts (s : Store) : Nat → ObjectTexts
  | 0 => ⟨fun _ => .error .endlessText, fun _ => .error .endlessText⟩
  | layers + 1 =>
    let inner := s.texts layers
    let write (f : Object → Texted) (r : Ref) : Texted :=
      match s.get? r with
      | some o => f o
      | none => .error .endlessText
    ⟨write (s.strObject inner), write (s.reprObject inner)⟩

/-- The text of a value for reading. -/
def str (s : Store) (v : Value) : Texted := s.strWith (s.texts (s.objects.size + 1)) v

/-- The text of a value that tells it apart. -/
def repr (s : Store) (v : Value) : Texted := s.reprWith (s.texts (s.objects.size + 1)) v

/-- The text of a value that tells it apart, in ASCII. -/
def ascii (s : Store) (v : Value) : Texted := (s.repr v).map Text.asciiOnly

end Store
end FaultContext
