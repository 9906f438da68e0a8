/-
# FaultContext.Answer.Shown -- values as answers show them.

An answer shows a value without its place in the store.  Exceptions are numbered in the order in
which they are first met, each is shown in full only then, and later by its number; so an answer is
finite even where exceptions form a circle.  What an exception shows besides its text depends on its
class, and its links come last.
-/
import FaultContext.TypeHint.Query
import FaultContext.Value.Attribute
import FaultContext.Value.Text

namespace FaultContext

/-! ## Types -/

/-- A type as an answer shows it. -/
inductive ShownType where
  | nothing
  | cls (name : String)
  | generic (origin : String) (args : List ShownType)
  | union (members : List ShownType)
  | typeVar (name : String)
  | forward (source : String)
  | other (text : String)

/-- A text, or that there is none and why. -/
def textOr (what : String) (t : Texted) : String :=
  match t with
  | .ok text => text
  | .error f => "<" ++ what ++ " failed: " ++ f.cls.name ++ ">"

namespace ShownType

mutual

/-- Shows a type. -/
def ofValue (s : Store) : Value → ShownType
  | .none => .nothing
  | .cls c => .cls (s.className c)
  | .generic c args => .generic (s.className c) (ofValues s args)
  | .typing head args => .generic (TypeHint.headClass head).name (ofValues s args)
  | .bare (.alias head) => .generic (TypeHint.headClass head).name []
  | .classAlias c args | .spreadAlias c args => .generic (s.className c) (ofValues s args)
  | .unpacked type => .generic "Unpack" [ofValue s type]
  | .union members => .generic "Union" (ofValues s members)
  | .unionType members => .union (ofValues s members)
  | .typeVar name => .typeVar name
  | .forward source => .forward source
  | v => .other (textOr "str" (s.str v))

/-- Shows several types. -/
def ofValues (s : Store) : List Value → List ShownType
  | [] => []
  | v :: rest => ofValue s v :: ofValues s rest

end

end ShownType

/-! ## Values -/

/-- A value as an answer shows it. -/
inductive Shown where
  | nothing
  | bool (b : Bool)
  | int (n : Int)
  | str (s : String)
  | float (text : String)
  | list (items : List Shown)
  | tuple (items : List Shown)
  | dict (entries : List (Shown × Shown))
  | contextExpr (number : Shown)
  | report (message : Shown) (cls : String) (contexts : List Shown)
  | ok (value : Shown)
  | err (error : Shown)
  | subErr (error : Shown)
  | named (name : String)
  | unprintable
  | cls (name : String)
  | function (name : String)
  | type (type : ShownType)
  | other (text : String)
  | exception (cls : String) (number : Nat) (text : String) (parts : List (String × Shown))
  | met (number : Nat)

namespace Shown

/-- Showing keeps the exceptions met so far, in order. -/
abbrev Showing := StateM (List Ref)

mutual

/-- Shows a value, given how objects are shown. -/
def valueWith (s : Store) (objects : Ref → Showing Shown) : Value → Showing Shown
  | .none => return .nothing
  | .bool b => return .bool b
  | .int _ n => return .int n
  | .str _ t => return .str t
  | .float _ x => return .float (Format.realText x)
  | .list _ items => do return .list (← valuesWith s objects items)
  | .tuple _ items => do return .tuple (← valuesWith s objects items)
  | .dict _ entries => do return .dict (← entriesWith s objects entries)
  | .cls c => return .cls (s.className c)
  | .native .contextMethod => return .function "ErrorWithContext.wrap_err"
  | .native .abstractMethod => return .function "WrapErr.wrap_err"
  | .native (.method owner name) => return .function (owner.name ++ "." ++ name)
  | .native (.merging m) => return .function m.name
  | v@(.native _) | v@(.bound ..) | v@(.bytes ..) | v@(.complex ..) | v@(.set ..) | v@(.range ..)
  | v@(.slice ..) | v@.ellipsis | v@.notImplemented | v@(.member ..) | v@(.method ..)
  | v@(.bindings _) | v@(.coroutine ..) =>
    return .other (textOr "repr" (s.repr v))
  | .object r => objects r
  | v => return .type (ShownType.ofValue s v)

/-- Shows several values. -/
def valuesWith (s : Store) (objects : Ref → Showing Shown) : List Value → Showing (List Shown)
  | [] => return []
  | v :: rest => do
    let shown ← valueWith s objects v
    return shown :: (← valuesWith s objects rest)

/-- Shows the entries of a table. -/
def entriesWith (s : Store) (objects : Ref → Showing Shown) :
    List (Value × Value) → Showing (List (Shown × Shown))
  | [] => return []
  | (k, v) :: rest => do
    let key ← valueWith s objects k
    let value ← valueWith s objects v
    return (key, value) :: (← entriesWith s objects rest)

end

/-- Shows an attribute under a label. -/
def part (s : Store) (objects : Ref → Showing Shown) (o : Object) (label field : String) :
    Showing (List (String × Shown)) := do
  return [(label, ← valueWith s objects ((o.attributes.get? field).getD .none))]

/-- What an exception shows besides its text. -/
def exceptionParts (s : Store) (objects : Ref → Showing Shown) (o : Object)
    (cause context : Option Ref) : Showing (List (String × Shown)) := do
  let isA (c : Standard) := s.isSubclass o.cls c
  let notes ← match o.attributes.get? "__notes__" with
    | none | some .none | some (.list _ []) => pure []
    | some v => do pure [("notes", ← valueWith s objects v)]
  let layer ←
    if isA .contextError then do
      let ctx ← part s objects o "ctx" "context"
      pure (ctx ++ (← part s objects o "source" "source"))
    else pure []
  let failure ← if isA .renderError then part s objects o "failure" "failure" else pure []
  let own ←
    if isA .errorWithContext then do
      let msg ← part s objects o "msg" "msg"
      pure (msg ++ (← part s objects o "cx" "cx"))
    else pure []
  let causePart ← match cause with
    | none => pure []
    | some r => do pure [("cause", ← objects r)]
  let contextPart ← match context with
    | none => pure []
    | some r => if cause = some r then pure [] else do pure [("context", ← objects r)]
  return notes ++ layer ++ failure ++ own ++ causePart ++ contextPart

/-- Shows an exception: in full where it is met first, else by its number. -/
def exceptionWith (s : Store) (objects : Ref → Showing Shown) (r : Ref) (o : Object)
    (cause context : Option Ref) : Showing Shown := do
  let met ← get
  match met.idxOf? r with
  | some number => return .met number
  | none =>
    set (met ++ [r])
    let text := textOr "str" (s.str (.object r))
    return .exception (s.className o.cls) met.length text
      (← exceptionParts s objects o cause context)

/-- Shows an object that is no exception. -/
def plainWith (s : Store) (objects : Ref → Showing Shown) (r : Ref) (o : Object) :
    Showing Shown := do
  let isA (c : Standard) := s.isSubclass o.cls c
  let held (name : String) := (o.attributes.get? name).getD .none
  match o.body with
  | .ok v => return .ok (← valueWith s objects v)
  | .err v =>
    if isA .subErr then return .subErr (← valueWith s objects v)
    else return .err (← valueWith s objects v)
  | .named name => return if isA .named then .named name else .other name
  | .function f => return .function f.qualifiedName
  | _ =>
    if isA .contextExpr then
      return .contextExpr (← valueWith s objects (held "num"))
    else if isA .report then
      let message ← valueWith s objects (held "message")
      let contexts ← match held "contexts" with
        | .tuple _ items | .list _ items => valuesWith s objects items
        | _ => pure []
      return .report message (s.className o.cls) contexts
    else if isA .unprintable then return .unprintable
    else return .other (textOr "repr" (s.repr (.object r)))

/-- Shows an object with at most `layers` objects inside one another. -/
def objectWithin (s : Store) : Nat → Ref → Showing Shown
  | 0, _ => return .nothing
  | layers + 1, r =>
    match s.get? r with
    | none => return .nothing
    | some o =>
      match o.body with
      | .exception _ cause context => exceptionWith s (objectWithin s layers) r o cause context
      | _ => plainWith s (objectWithin s layers) r o

/-- Shows a value.  Exceptions are shown once, so no more objects are inside one another than there
are. -/
def ofValue (s : Store) (v : Value) : Shown :=
  (valueWith s (objectWithin s (s.objects.size + 1)) v).run [] |>.1

end Shown
end FaultContext
