/-
# FaultContext.TypeHint.Resolve -- annotations with their names resolved.

Resolving replaces every text in an annotation by what it means, inside type constructors as well.
What a text means may hold further texts; a text that is met again inside of what it means stays as
it is.  All annotations of a function are resolved together, in order, and the first fault ends the
resolution, wherever it occurs.
-/
import FaultContext.Annotation.Evaluate
import FaultContext.TypeHint.Query

namespace FaultContext.TypeHint

open Eval

/-- Refuses a text among the arguments of a class that is no expression. -/
def checkText : Value → Eval Unit
  | .str _ source => do discard (lift (phraseOf source))
  | _ => return

/-- Whether resolving has changed nothing. -/
def unchanged (s : Store) (before after : List Value) : Bool :=
  s.equal (.tuple .fresh after) (.tuple .fresh before)

mutual

/-- Resolves a value, given what a text means. -/
def resolveWith (text : String → Eval Value) : Value → Eval Value
  | .forward source => text source
  | .generic c args => do return .generic c (← resolveAll text args)
  | .typing head args => do return .typing head (← resolveAll text args)
  | .classAlias c args => do
    args.forM checkText
    return .classAlias c (← resolveMembers text args)
  | .spreadAlias c args => do
    args.forM checkText
    return .unpacked (.classAlias c (← resolveMembers text args))
  | .unpacked type => do return .unpacked (← resolveWith text type)
  | .union members => do
    let resolved ← resolveAll text members
    let s ← store
    if unchanged s members resolved then return .union members
    else lift (unionOf s resolved)
  | .unionType members => do
    let resolved ← resolveAll text members
    let s ← store
    if unchanged s members resolved then return .unionType members
    else lift (joinAll s resolved)
  | v => return v

/-- Resolves several values. -/
def resolveAll (text : String → Eval Value) : List Value → Eval (List Value)
  | [] => return []
  | v :: rest => do
    let r ← resolveWith text v
    return r :: (← resolveAll text rest)

/-- Resolves the arguments of a class, where a text is a name as well. -/
def resolveMembers (text : String → Eval Value) : List Value → Eval (List Value)
  | [] => return []
  | .str _ source :: rest => do
    let r ← text source
    return r :: (← resolveMembers text rest)
  | v :: rest => do
    let r ← resolveWith text v
    return r :: (← resolveMembers text rest)

end

/-- How deep texts may lead to further texts. -/
def deepestText : Nat := 400

/-- What a text means, where texts inside texts are followed `depth` levels deep.  The texts that
led to this one are not followed again. -/
def resolveText (engine : Engine) (scope : NameScope) : Nat → List String → String → Eval Value
  | 0, _, _ => exhausted
  | depth + 1, met, source => do
    if met.contains source then return .forward source
    let phrase ← lift (phraseOf source)
    let v ← phrase.eval engine scope
    let type ← lift (checked (← store) "Forward references must evaluate to types." v)
    resolveWith (resolveText engine scope depth (source :: met)) type

/-- Resolves an annotation: a text is a name, and the value none is its class. -/
def resolve (engine : Engine) (scope : NameScope) (v : Value) : Eval Value :=
  let text := resolveText engine scope deepestText []
  match v with
  | .none => return noneClass
  | .str _ source => text source
  | v => resolveWith text v

/-- Resolves all annotations of a function. -/
def resolveNamed (engine : Engine) (scope : NameScope) : Named → Eval Named
  | [] => return []
  | (name, v) :: rest => do
    let r ← resolve engine scope v
    return (name, r) :: (← resolveNamed engine scope rest)

end FaultContext.TypeHint
