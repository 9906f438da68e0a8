/-
# FaultContext.World.Construct -- instances of classes.

An exception takes its arguments when it is made; its initializers may then replace them.  An error
of the operating system is an instance of the class that its number stands for.  Instances of
classes of plain data are converted from what they are made of.
-/
import FaultContext.Value.Operator
import FaultContext.World.Initialize

namespace FaultContext.Eval

open Number (Binary64)

/-! ## Plain data -/

/-- A floating-point number from a value. -/
def toFloatValue (s : Store) (v : Value) : Except Fault Value :=
  match v with
  | .str _ text =>
    match Binary64.read? text with
    | some x => .ok (.float .fresh x)
    | none => .error (.floatLiteral text)
  | v =>
    match v.number? with
    | some n => (Store.toFloat n).map (.float .fresh)
    | none =>
      .error (.plain .typeError
        ("float() argument must be a string or a real number, not '" ++ s.typeName v ++ "'"))

/-- A table from pairs, of which the first is the one of the given number. -/
def tableOf (s : Store) : Nat → List (Value × Value) → List Value →
    Except Fault (List (Value × Value))
  | _, entries, [] => .ok entries
  | number, entries, item :: rest =>
    match s.iterate item with
    | .error _ =>
      .error (.plain .typeError
        s!"cannot convert dictionary update sequence element #{number} to a sequence")
    | .ok [k, v] =>
      match s.unhashable? k with
      | some type => .error (.unhashable type)
      | none => tableOf s (number + 1) (s.putEntry entries k v) rest
    | .ok items =>
      .error (.plain .valueError
        (s!"dictionary update sequence element #{number} has length {items.length}; " ++
          "2 is required"))

/-- Why the arguments of a class that takes at most one positional argument do not fit. -/
def atMostOne (name : String) (args : List Value) (named : Named) : Except Fault (Option Value) :=
  if !named.isEmpty then .error (.plain .typeError (name ++ "() takes no keyword arguments"))
  else
    match args with
    | [] => .ok none
    | [v] => .ok (some v)
    | _ =>
      .error (.plain .typeError s!"{name} expected at most 1 argument, got {args.length}")

/-- An integer from a text in a base. -/
def integerInBase (s : Store) (v base : Value) : Except Fault Value :=
  match Store.place? base with
  | none =>
    .error (.plain .typeError
      ("'" ++ s.typeName base ++ "' object cannot be interpreted as an integer"))
  | some n =>
    if n ≠ 0 && (n < 2 || 36 < n) then
      .error (.plain .valueError "int() base must be >= 2 and <= 36, or 0")
    else
      match v with
      | .str _ text => (Store.readInteger n.toNat text).map (.int .fresh)
      | _ =>
        .error (.plain .typeError "int() can't convert non-string with explicit base")

/-- An integer made from the arguments of its class. -/
def integerFrom (s : Store) (args : List Value) (named : Named) : Except Fault Value :=
  match args, named with
  | [], [] => .ok (.int .fresh 0)
  | [v], [] => s.toInteger v
  | [v, base], [] | [v], [("base", base)] => integerInBase s v base
  | [], [("base", _)] => .error (.plain .typeError "int() missing string argument")
  | _, _ =>
    let given := args.length + named.length
    let kind := if args.isEmpty then "keyword " else ""
    if 2 < given then
      .error (.plain .typeError s!"int() takes at most 2 {kind}arguments ({given} given)")
    else
      match named.find? (·.1 != "base") with
      | some (name, _) =>
        .error (.plain .typeError s!"'{name}' is an invalid keyword argument for int()")
      | none => .ok (.int .fresh 0)

/-- The type of an argument that should be a text; the value none is called by itself. -/
def argumentType (s : Store) : Value → String
  | .none => "None"
  | v => s.typeName v

/-- A text made from the arguments of its class. -/
def textFrom (s : Store) (args : List Value) (named : Named) : Except Fault Value :=
  match args, named with
  | _, (name, _) :: _ =>
    .error (.plain .typeError s!"'{name}' is an invalid keyword argument for str()")
  | [], [] => .ok (.str .fresh "")
  | [.str i t], [] => .ok (.str i t)
  | [v], [] => (s.str v).map (.str .fresh)
  | [.bytes _ codes, .str _ _], [] | [.bytes _ codes, .str _ _, .str _ _], [] =>
    match String.fromUTF8? (ByteArray.mk (codes.map UInt8.ofNat).toArray) with
    | some t => .ok (.str .fresh t)
    | none => .error (.plain .unicodeError "cannot decode bytes")
  | [.str _ _, .str _ _], [] | [.str _ _, .str _ _, .str _ _], [] =>
    .error (.plain .typeError "decoding str is not supported")
  | [v, .str _ _], [] | [v, .str _ _, .str _ _], [] =>
    .error (.plain .typeError
      ("decoding to str: need a bytes-like object, " ++ s.typeName v ++ " found"))
  | [_, .str _ _, e], [] =>
    .error (.plain .typeError ("str() argument 'errors' must be str, not " ++ argumentType s e))
  | [_, e], [] | [_, e, _], [] =>
    .error (.plain .typeError ("str() argument 'encoding' must be str, not " ++ argumentType s e))
  | _, [] =>
    .error (.plain .typeError s!"str() takes at most 3 arguments ({args.length} given)")

/-- A table made from the arguments of its class. -/
def tableFrom (s : Store) (args : List Value) (named : Named) : Except Fault Value := do
  let start ← match args with
    | [] => .ok []
    | [.dict _ entries] => .ok entries
    | [v] => do tableOf s 0 [] (← s.iterate v)
    | _ =>
      .error (.plain .typeError s!"dict expected at most 1 argument, got {args.length}")
  return .dict .fresh
    (named.foldl (fun entries (n, v) => s.putEntry entries (.str .fresh n) v) start)

/-- The integers among arguments; other values cannot count. -/
def integersOf (s : Store) (args : List Value) : Except Fault (List Int) :=
  args.mapM fun v =>
    match Store.place? v with
    | some n => .ok n
    | none =>
      .error (.plain .typeError
        ("'" ++ s.typeName v ++ "' object cannot be interpreted as an integer"))

/-- Refuses arguments whose number is not between two bounds. -/
def checkNumber (name : String) (least most : Nat) (args : List Value) (named : Named) :
    Except Fault Unit :=
  let got := args.length
  if !named.isEmpty then .error (.plain .typeError (name ++ "() takes no keyword arguments"))
  else if got < least then
    let bound := if least = most then "" else "at least "
    .error (.plain .typeError
      s!"{name} expected {bound}{least} argument{plural least}, got {got}")
  else if most < got then
    let bound := if least = most then "" else "at most "
    .error (.plain .typeError
      s!"{name} expected {bound}{most} argument{plural most}, got {got}")
  else .ok ()

/-- A range made from the arguments of its class. -/
def rangeFrom (s : Store) (args : List Value) (named : Named) : Except Fault Value := do
  checkNumber "range" 1 3 args named
  match ← integersOf s args with
  | [stop] => return .range .fresh 0 stop 1
  | [start, stop] => return .range .fresh start stop 1
  | [start, stop, step] =>
    if step = 0 then throw (.plain .valueError "range() arg 3 must not be zero")
    return .range .fresh start stop step
  | _ => return .range .fresh 0 0 1

/-- A slice made from the arguments of its class. -/
def sliceFrom (args : List Value) (named : Named) : Except Fault Value := do
  checkNumber "slice" 1 3 args named
  match args with
  | [stop] => return .slice .fresh .none stop .none
  | start :: stop :: rest => return .slice .fresh start stop (rest.headD .none)
  | [] => return .none

/-- Bytes made from the arguments of their class. -/
def bytesFrom (s : Store) (args : List Value) : Except Fault Value := do
  match args with
  | [] => return .bytes .fresh []
  | [.bytes i codes] => return .bytes i codes
  | .str _ t :: _ :: _ => return .bytes .fresh (t.toUTF8.toList.map UInt8.toNat)
  | [.str _ _] => throw (.plain .typeError "string argument without an encoding")
  | v :: _ =>
    match Store.place? v with
    | some (.ofNat n) => return .bytes .fresh (List.replicate n 0)
    | some _ => throw (.plain .valueError "negative count")
    | none =>
      match s.iterate v with
      | .error _ =>
        throw (.plain .typeError ("cannot convert '" ++ s.typeName v ++ "' object to bytes"))
      | .ok items =>
        let codes ← integersOf s items
        if codes.any fun n => n < 0 || 255 < n then
          throw (.plain .valueError "bytes must be in range(0, 256)")
        return .bytes .fresh (codes.map Int.toNat)

/-- A complex number made from the arguments of its class. -/
def complexFrom (s : Store) (args : List Value) (named : Named) : Except Fault Value := do
  let zero : Value := .int .fresh 0
  let re := ((args[0]?).orElse fun _ => named.get? "real").getD zero
  let im := ((args[1]?).orElse fun _ => named.get? "imag").getD zero
  match Store.complexParts re, Store.complexParts im with
  | some x, some y =>
    let (a, b) ← x
    let (c, d) ← y
    return .complex .fresh (a.sub d) (b.add c)
  | none, _ =>
    match re with
    | .str .. => throw (.plain .valueError "complex() arg is a malformed string")
    | re =>
      throw (.plain .typeError
        ("complex() first argument must be a string or a number, not '" ++ s.typeName re ++ "'"))
  | _, none =>
    throw (.plain .typeError
      ("complex() second argument must be a number, not '" ++ s.typeName im ++ "'"))

/-- An instance of a class of plain data; nothing for other classes. -/
def plainInstance? (s : Store) (c : Class) (args : List Value) (named : Named) :
    Option (Except Fault Value) :=
  match c with
  | .standard .int => some (integerFrom s args named)
  | .standard .str => some (textFrom s args named)
  | .standard .bool => some do
    return .bool (((← atMostOne "bool" args named).map Store.truthy).getD false)
  | .standard .float => some do
    match ← atMostOne "float" args named with
    | none => return .float .fresh (Binary64.zero false)
    | some (.float i x) => return .float i x
    | some v => toFloatValue s v
  | .standard .list => some do
    match ← atMostOne "list" args named with
    | none => return .list .fresh []
    | some v => return .list .fresh (← s.iterate v)
  | .standard .tuple => some do
    match ← atMostOne "tuple" args named with
    | none => return .tuple .fresh []
    | some (.tuple i items) => return .tuple i items
    | some v => return .tuple .fresh (← s.iterate v)
  | .standard .dict => some (tableFrom s args named)
  | .standard .set => some do
    s.setOf false (← (← atMostOne "set" args named).elim (pure []) s.iterate)
  | .standard .frozenSet => some do
    match ← atMostOne "frozenset" args named with
    | some (.set i true items) => return .set i true items
    | v => s.setOf true (← v.elim (pure []) s.iterate)
  | .standard .range => some (rangeFrom s args named)
  | .standard .slice => some (sliceFrom args named)
  | .standard .bytes => some (bytesFrom s args)
  | .standard .complex => some (complexFrom s args named)
  | .standard .noneType =>
    some (if args.isEmpty && named.isEmpty then .ok .none
      else .error (.plain .typeError "NoneType takes no arguments"))
  | .standard .ellipsis => some (.ok .ellipsis)
  | .standard .notImplementedType => some (.ok .notImplemented)
  | .standard .type =>
    some (match args with
      | [v] => .ok (.cls (s.classOf v))
      | _ => .error (.plain .typeError "type() takes 1 or 3 arguments"))
  | .standard .any => some (.error (.plain .typeError "Any cannot be instantiated"))
  | _ => none

/-! ## Instances -/

/-- Whether a class leaves the method of its interface open and so has no instances.  Exceptions are
not held to this. -/
def isAbstract (s : Store) (c : Class) : Bool :=
  !s.isExceptionClass c && s.isSubclass c Standard.wrapErr &&
    match s.member? c "wrap_err" with
    | some (.native .abstractMethod) => true
    | _ => false

/-- The class of a new exception: an error of the operating system that comes with a number and a
message belongs to the class of its number. -/
def exceptionClass (c : Class) (args : List Value) : Class :=
  if c = Standard.osError && Initial.isSystemReport args then
    match args.head?.bind Store.place? with
    | some number => Standard.ofErrorNumber number
    | none => c
  else c

/-- Makes an instance of a class. -/
def construct (c : Class) (args : List Value) (named : Named) : Eval Value := do
  let s ← store
  let name := s.className c
  match plainInstance? s c args named with
  | some r => lift r
  | none =>
    if isAbstract s c then
      fault (.plain .typeError
        ("Can't instantiate abstract class " ++ name ++ " with abstract method wrap_err"))
    else if s.isExceptionClass c then
      let c := if named.isEmpty then exceptionClass c args else c
      let i ← lift (Initial.ofClass s c args named)
      new ⟨c, i.attributes, .exception i.args i.cause none⟩
    else if s.isSubclass c Standard.ok then
      let slots ← lift (Initial.enter "Ok" ((Store.initializer? Standard.ok).getD []) args named)
      new ⟨c, [], .ok (slots.slot "value")⟩
    else if s.isSubclass c Standard.err then
      let slots ← lift (Initial.enter "Err" ((Store.initializer? Standard.err).getD []) args named)
      new ⟨c, [], .err (slots.slot "error")⟩
    else
      let i ← lift (Initial.ofClass s c args named)
      new ⟨c, i.attributes, .plain⟩

/-- Makes a layer of context around a failure. -/
def contextError (context source : Value) : Eval Value :=
  construct Standard.contextError [context, source] []

/-- A success. -/
def ok (v : Value) : Eval Value := new ⟨Standard.ok, [], .ok v⟩

/-- A failure. -/
def err (v : Value) : Eval Value := new ⟨Standard.err, [], .err v⟩

/-- Adds a note to an exception. -/
def addNote (r : Ref) (note : Value) : Eval Unit := do
  match note with
  | .str _ _ => pure ()
  | v =>
    fault (.plain .typeError ("note must be a str, not '" ++ (← store).typeName v ++ "'"))
  match (← store).attribute? r "__notes__" with
  | none => setAttribute r "__notes__" (.list .fresh [note])
  | some (.list _ notes) => setAttribute r "__notes__" (.list .fresh (notes ++ [note]))
  | some _ => fault (.plain .typeError "Cannot add note: __notes__ is not a list")

end FaultContext.Eval
