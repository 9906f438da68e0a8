/-
# FaultContext.Annotation.Evaluate -- what expressions denote.

Evaluating an expression looks names up in frames, from the inside out, and then among the names
that every annotation knows.  The parts of an expression are evaluated from left to right, and a
part that does not matter is not evaluated.  Functions and comprehensions have frames of their own;
a name that is assigned to inside a comprehension belongs to what is around it.

Calling is left to an engine, so the recursion here is on the expression alone.  A comprehension
that gives its items one by one becomes a function that lists them, which is called when they are
wanted.
-/
import FaultContext.Annotation.Operator
import FaultContext.Call.Items
import FaultContext.Language.Evaluate

namespace FaultContext.Annotation

open Eval

/-! ## Names -/

/-- The value of a name. -/
def nameValue (scope : NameScope) (id : String) : Eval Value := do
  match ← reading (·.nameIn? scope id) ⟨fun _ _ _ => rfl⟩ with
  | some v => return v
  | none => fault (.plain .nameError s!"name '{id}' is not defined")

/-! ## Pieces -/

/-- A constant. -/
def Constant.value : Constant → Value
  | .none => .none
  | .bool b => .bool b
  | .ellipsis => .ellipsis
  | .int n => .int .fresh n
  | .float x => .float .fresh x
  | .imaginary x => .complex .fresh (Number.Binary64.zero false) x
  | .text t => .str .fresh t
  | .bytes codes => .bytes .fresh codes

/-- The items of something that is spread. -/
def spreadItems (engine : Engine) (v : Value) : Eval (List Value) := do
  let s ← store
  if Items.isIterator s v then Items.take engine v
  else
    match s.iterate v with
    | .ok items => return items
    | .error _ =>
      fault (.plain .typeError ("Value after * must be an iterable, not " ++ s.typeName v))

/-- The entries of a table that is spread. -/
def spreadEntries (v : Value) : Eval (List (Value × Value)) := do
  match v with
  | .dict _ entries => return entries
  | v => fault (.plain .typeError ("'" ++ (← store).typeName v ++ "' object is not a mapping"))

/-- Adds entries to a table. -/
def addEntries (entries : List (Value × Value)) :
    List (Value × Value) → Eval (List (Value × Value))
  | [] => return entries
  | (k, v) :: rest => do addEntries (← addEntry entries k v) rest

/-- The names of a table that is spread as arguments. -/
def spreadNames (named : Named) : List (Value × Value) → Eval Named
  | [] => return named
  | (.str _ id, v) :: rest => spreadNames (named.set id v) rest
  | _ :: _ => fault (.plain .typeError "keywords must be strings")

/-- Assigns to the variable of a loop. -/
def bindOne (frame : Nat) (target : Phrase) (v : Value) : Eval Unit :=
  match target.shape with
  | .name id => bindIn frame id v
  | _ => pure ()

/-- Refuses a number of values that is not the number of targets. -/
def wrongCount {α : Type} (expected actual : Nat) : Eval α :=
  if expected < actual then
    fault (.plain .valueError s!"too many values to unpack (expected {expected})")
  else
    fault (.plain .valueError s!"not enough values to unpack (expected {expected}, got {actual})")

/-- Whether a function with this body gives its values one by one. -/
def isYield : Phrase → Bool
  | .mk _ (.yields _) | .mk _ (.yieldsFrom _) => true
  | _ => false

/-- A function whose body is an expression. -/
def closure (body : Phrase) (name : String) (params : Signature) (scope : NameScope) : Eval Value :=
  newFunction
    { name
      qualifiedName := name
      doc := none
      annotations := []
      params
      attributes := []
      wrapped := none
      code := .phrase (if isYield body then .generator else .direct) body scope }

/-- The name under which a comprehension finds what it loops over. -/
def sourceName : String := ".0"

/-- Loops of which the first goes over what was found for it before. -/
def overSource : List Clause → List Clause
  | [] => []
  | .mk target _ conditions asynchronous :: rest =>
    .mk target (.mk 0 (.name sourceName)) conditions asynchronous :: rest

/-- The text that a call evaluates, if it calls the function for that. -/
def evaluatedText? (f : Value) (args : List Value) : Option String :=
  match f, args with
  | .native (.builtin "eval"), .str _ text :: _ => some text
  | _, _ => none

/-- The value of a text that is evaluated like an expression. -/
def evalText (engine : Engine) (scope : NameScope) (text : String) : Eval Value := do
  match Phrase.ofText (String.ofList (text.toList.dropWhile fun c => c == ' ' || c == '\t')) with
  | .ok phrase => engine.call (← closure phrase "<string>" [] scope) [] []
  | .error problem => fault (.plain problem.cls problem.text)

/-! ## Assignment in loops -/

mutual

/-- Assigns a value to what a loop assigns to. -/
def assignTo (engine : Engine) (frame : Nat) : Phrase → Value → Eval Unit
  | .mk line shape, v => assignToShape engine frame line shape v

/-- Assigns a value to a shape: a row of targets takes the items of the value. -/
def assignToShape (engine : Engine) (frame line : Nat) : Shape → Value → Eval Unit
  | .tuple targets, v | .list targets, v => do
    let s ← store
    let items ← match v with
      | .object _ => Items.take engine v
      | v =>
        match s.iterate v with
        | .ok items => pure items
        | .error _ =>
          fault (.plain .typeError ("cannot unpack non-iterable " ++ s.typeName v ++ " object"))
    assignRow engine frame targets.length items.length targets items
  | .starred a, v => assignTo engine frame a v
  | shape, v => bindOne frame (.mk line shape) v

/-- Assigns items to targets, one by one; a spread target takes what the others leave. -/
def assignRow (engine : Engine) (frame expected actual : Nat) :
    List Phrase → List Value → Eval Unit
  | [], [] => return
  | .mk _ (.starred a) :: targets, items => do
    let taken := items.length - targets.length
    if items.length < targets.length then wrongCount (expected - 1) actual
    assignTo engine frame a (.list .fresh (items.take taken))
    assignRow engine frame expected actual targets (items.drop taken)
  | target :: targets, v :: items => do
    assignTo engine frame target v
    assignRow engine frame expected actual targets items
  | [], _ :: _ | _ :: _, [] => wrongCount expected actual

end

/-! ## Evaluation -/

mutual

/-- The value of a phrase. -/
def Phrase.eval (engine : Engine) (scope : NameScope) : Phrase → Eval Value
  | .mk _ shape => Shape.eval engine scope shape

/-- The value of a shape. -/
def Shape.eval (engine : Engine) (scope : NameScope) : Shape → Eval Value
  | .name id => nameValue scope id
  | .constant c => handOut c.value
  | .joined pieces => do handOut (.str .fresh (← evalPieces engine scope pieces))
  | .logical isAnd items => evalLogical engine scope isAnd items
  | .unary op a => do
    let v ← Phrase.eval engine scope a
    handOut (← lift (op.apply (← store) v))
  | .binary op a b => do
    let x ← Phrase.eval engine scope a
    let y ← Phrase.eval engine scope b
    handOut (← lift (op.apply (← store) x y))
  | .compare a rest => do
    let v ← Phrase.eval engine scope a
    evalComparisons engine scope v rest
  | .conditional test whenTrue whenFalse => do
    if Store.truthy (← Phrase.eval engine scope test) then Phrase.eval engine scope whenTrue
    else Phrase.eval engine scope whenFalse
  | .function params body => do closure body "<lambda>" (← evalParameters engine scope params) scope
  | .call f args => do
    let f ← Phrase.eval engine scope f
    let (positional, named) ← evalArguments engine scope ([], []) args
    match evaluatedText? f positional with
    | some text => evalText engine scope text
    | none => handOut (← engine.call f positional named)
  | .attribute a id => do
    let v ← Phrase.eval engine scope a
    handOut (← lift ((← store).attr v id))
  | .subscript a index => do
    let v ← Phrase.eval engine scope a
    let key ← Phrase.eval engine scope index
    handOut (← lift (TypeHint.subscript (← store) v key))
  | .slice start stop step => do
    let start ← evalOptional engine scope start
    let stop ← evalOptional engine scope stop
    handOut (.slice .fresh start stop (← evalOptional engine scope step))
  | .starred a => Phrase.eval engine scope a
  | .tuple items => do handOut (.tuple .fresh (← evalItems engine scope items))
  | .list items => do handOut (.list .fresh (← evalItems engine scope items))
  | .set items => do
    let items ← evalItems engine scope items
    handOut (← lift ((← store).setOf false items))
  | .dict entries => do handOut (.dict .fresh (← evalTable engine scope [] entries))
  | .comprehension kind element clauses => do
    let source ← evalSource engine scope clauses
    let frame ← newFrame [(sourceName, source)]
    let inner := scope.within frame
    match kind with
    | .generator => do
      let listing := .mk 0 (.comprehension .list element (overSource clauses))
      let f ← closure listing "<genexpr>" [] inner
      Items.newPending .generator "<genexpr>" (.listed f)
    | kind => do
      let items ←
        evalFirstLoop engine inner frame source (Phrase.evalOne engine inner element) clauses
      match kind with
      | .set => do handOut (← lift ((← store).setOf false items))
      | _ => handOut (.list .fresh items)
  | .dictComprehension key value clauses => do
    let source ← evalSource engine scope clauses
    let frame ← newFrame [(sourceName, source)]
    let inner := scope.within frame
    let pairs ← evalFirstLoop engine inner frame source (do
      let k ← Phrase.eval engine inner key
      let v ← Phrase.eval engine inner value
      return [.tuple .fresh [k, v]]) clauses
    let entries := pairs.filterMap fun
      | .tuple _ [k, v] => some (k, v)
      | _ => none
    handOut (.dict .fresh (← addEntries [] entries))
  | .assign id value => do
    let v ← Phrase.eval engine scope value
    bindIn scope.target id v
    return v
  | .yields _ | .yieldsFrom _ | .awaits _ => return .none

/-- The value of a phrase as a list of one item. -/
def Phrase.evalOne (engine : Engine) (scope : NameScope) : Phrase → Eval (List Value)
  | .mk _ shape => do return [← Shape.eval engine scope shape]

/-- The value of a phrase that may be left out. -/
def evalOptional (engine : Engine) (scope : NameScope) : Option Phrase → Eval Value
  | none => return .none
  | some a => Phrase.eval engine scope a

/-- The first of several values that decides, or the last one. -/
def evalLogical (engine : Engine) (scope : NameScope) (isAnd : Bool) : List Phrase → Eval Value
  | [] => return .none
  | [a] => Phrase.eval engine scope a
  | a :: b :: rest => do
    let v ← Phrase.eval engine scope a
    if Store.truthy v == isAnd then evalLogical engine scope isAnd (b :: rest) else return v

/-- A chain of comparisons, which ends with the first one that fails. -/
def evalComparisons (engine : Engine) (scope : NameScope) (left : Value) :
    List (Comparison × Phrase) → Eval Value
  | [] => return .bool true
  | (op, a) :: rest => do
    let right ← Phrase.eval engine scope a
    let right ← match op with
      | .isIn | .notIn => Items.held engine right
      | _ => pure right
    if ← lift (op.holds (← store) left right) then evalComparisons engine scope right rest
    else return .bool false

/-- The items of a list, where a spread item gives all of its own. -/
def evalItems (engine : Engine) (scope : NameScope) : List Phrase → Eval (List Value)
  | [] => return []
  | .mk _ (.starred a) :: rest => do
    let items ← spreadItems engine (← Phrase.eval engine scope a)
    return items ++ (← evalItems engine scope rest)
  | a :: rest => do
    let v ← Phrase.eval engine scope a
    return v :: (← evalItems engine scope rest)

/-- The entries of a table, where a spread table gives all of its own. -/
def evalTable (engine : Engine) (scope : NameScope) (entries : List (Value × Value)) :
    List (Option Phrase × Phrase) → Eval (List (Value × Value))
  | [] => return entries
  | (none, a) :: rest => do
    let more ← spreadEntries (← Phrase.eval engine scope a)
    evalTable engine scope (← addEntries entries more) rest
  | (some k, a) :: rest => do
    let key ← Phrase.eval engine scope k
    let v ← Phrase.eval engine scope a
    evalTable engine scope (← addEntry entries key v) rest

/-- The text of pieces. -/
def evalPieces (engine : Engine) (scope : NameScope) : List Piece → Eval String
  | [] => return ""
  | .text t :: rest => do return t ++ (← evalPieces engine scope rest)
  | .value a conversion spec :: rest => do
    let v ← Phrase.eval engine scope a
    let spec ← evalSpec engine scope spec
    let v ← lift (Format.convert (← store) v conversion)
    let text ← lift (Format.layout (← store) v spec.toList)
    return String.ofList text ++ (← evalPieces engine scope rest)

/-- The text of a specification, which is empty where there is none. -/
def evalSpec (engine : Engine) (scope : NameScope) : Option (List Piece) → Eval String
  | none => return ""
  | some pieces => evalPieces engine scope pieces

/-- The parameters of a function; their defaults are evaluated when the function is made. -/
def evalParameters (engine : Engine) (scope : NameScope) : List Parameter → Eval Signature
  | [] => return []
  | .mk id kind none :: rest => do return ⟨id, kind, none⟩ :: (← evalParameters engine scope rest)
  | .mk id kind (some a) :: rest => do
    let v ← Phrase.eval engine scope a
    return ⟨id, kind, some v⟩ :: (← evalParameters engine scope rest)

/-- The arguments of a call. -/
def evalArguments (engine : Engine) (scope : NameScope) (given : List Value × Named) :
    List Argument → Eval (List Value × Named)
  | [] => return given
  | .positional a :: rest => do
    let v ← Phrase.eval engine scope a
    evalArguments engine scope (given.1 ++ [v], given.2) rest
  | .spread a :: rest => do
    let items ← spreadItems engine (← Phrase.eval engine scope a)
    evalArguments engine scope (given.1 ++ items, given.2) rest
  | .named id a :: rest => do
    let v ← Phrase.eval engine scope a
    evalArguments engine scope (given.1, given.2.set id v) rest
  | .spreadNamed a :: rest => do
    let entries ← spreadEntries (← Phrase.eval engine scope a)
    evalArguments engine scope (given.1, ← spreadNames given.2 entries) rest

/-- What the first loop of a comprehension goes over; it is evaluated outside of the
comprehension. -/
def evalSource (engine : Engine) (scope : NameScope) : List Clause → Eval Value
  | [] => return .none
  | .mk _ source _ _ :: _ => do
    let v ← Phrase.eval engine scope source
    if !Items.isIterator (← store) v then discard (lift ((← store).iterate v))
    return v

/-- The items that the first loop of a comprehension collects. -/
def evalFirstLoop (engine : Engine) (scope : NameScope) (frame : Nat) (source : Value)
    (collect : Eval (List Value)) : List Clause → Eval (List Value)
  | [] => collect
  | .mk target _ conditions _ :: rest => do
    let items ← Items.take engine source
    let parts ← items.mapM fun v => do
      assignTo engine frame target v
      if ← evalConditions engine scope conditions then
        evalLoops engine scope frame collect rest
      else return []
    return parts.flatten

/-- The items that further loops collect. -/
def evalLoops (engine : Engine) (scope : NameScope) (frame : Nat) (collect : Eval (List Value)) :
    List Clause → Eval (List Value)
  | [] => collect
  | .mk target source conditions _ :: rest => do
    let items ← Items.take engine (← Phrase.eval engine scope source)
    let parts ← items.mapM fun v => do
      assignTo engine frame target v
      if ← evalConditions engine scope conditions then
        evalLoops engine scope frame collect rest
      else return []
    return parts.flatten

/-- Whether all conditions hold; the first one that fails ends it. -/
def evalConditions (engine : Engine) (scope : NameScope) : List Phrase → Eval Bool
  | [] => return true
  | a :: rest => do
    if Store.truthy (← Phrase.eval engine scope a) then evalConditions engine scope rest
    else return false

end

end FaultContext.Annotation
