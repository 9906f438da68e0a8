/-
# FaultContext.Template.Parse -- templates checked before anything is called.

A template is accepted when it can be filled: it is a format text, its conversions are known, its
numbered fields use exactly the positional captures, and each named field has a named capture or a
parameter, while every named capture is used.  A capture that is called has to get along with the
parameters of the function.

Fields are checked one by one in the order of reading, a field before the fields of its own
specification, so the first fault in that order is the one that is reported.  Everything here is a
function of the template, the captures and the names of the parameters; the wording of a fault is
separate, because showing a captured value may itself fail.
-/
import FaultContext.Format.Markup
import FaultContext.Signature.Reading
import FaultContext.Template.Basic
import FaultContext.Value.Arithmetic

namespace FaultContext

open Format (Fields Malformed splitHead)

/-- Why a template or a provider is refused. -/
inductive TemplateFault where
  | routine (value : Value)
  | capturesWithoutFormat (value : Value)
  | captureParameter (source : Value) (parameter : String)
  | unknownConversion (conversion : Char)
  | malformed (malformed : Malformed)
  | number (fault : Fault)
  | mixedNumbering
  | missingPositional (index captured : Nat)
  | unusedPositional (sources : List Value)
  | missingNamed (name : String)
  | unusedNamed (names : List String)
  | notCallable (provider : Value)

namespace Template

/-! ## Captures -/

/-- The parameters that a called capture takes from the call, and whether it takes all arguments.
Every other parameter needs a default. -/
def matchParameters (source : Value) (params : List String) :
    Signature → Except TemplateFault (List String × Bool)
  | [] => .ok ([], false)
  | p :: rest =>
    match p.kind with
    | .varPositional => matchParameters source params rest
    | .varKeyword => (matchParameters source params rest).map fun (names, _) => (names, true)
    | kind =>
      if params.contains p.name && kind != .positionalOnly then
        (matchParameters source params rest).map fun (names, all) => (p.name :: names, all)
      else if p.default.isNone then .error (.captureParameter source p.name)
      else matchParameters source params rest

/-- Records a captured value: one that can be called is matched to the parameters. -/
def capture (s : Store) (params : List String) (name : Option String) (source : Value) :
    Except TemplateFault Capture :=
  if !s.isCallable source then .ok ⟨name, source, none, false⟩
  else
    match s.signature true source with
    | .error _ => .ok ⟨name, source, some [], false⟩
    | .ok signature =>
      (matchParameters source params signature).map fun (names, all) =>
        ⟨name, source, some names, all⟩

/-! ## Fields -/

/-- What the fields read so far refer to. -/
structure Usage where
  automatic : Nat
  manual : Bool
  indexes : List Nat
  names : List String

/-- No field has been read. -/
def Usage.empty : Usage := ⟨0, false, [], []⟩

/-- The number that a head of digits stands for. -/
def headNumber (head : List Char) : Except TemplateFault Nat :=
  match Store.readInteger 10 (String.ofList head) with
  | .ok n => .ok n.toNat
  | .error fault => .error (.number fault)

/-- Conversions that a field may have. -/
def knownConversion : Option Char → Bool
  | none | some 'r' | some 's' | some 'a' => true
  | _ => false

/-- Takes account of the head of a field. -/
def Usage.addHead (u : Usage) (head : List Char) : Except TemplateFault Usage :=
  if head.isEmpty then
    .ok { u with indexes := u.automatic :: u.indexes, automatic := u.automatic + 1 }
  else if Text.isNumeric head then
    (headNumber head).map fun n => { u with manual := true, indexes := n :: u.indexes }
  else .ok { u with names := String.ofList head :: u.names }

/-- Takes account of a field: its conversion, then its head, then how numbering goes on. -/
def Usage.add (u : Usage) (field : List Char × Option Char) : Except TemplateFault Usage :=
  match field.2 with
  | some c =>
    if knownConversion (some c) then added field.1 else .error (.unknownConversion c)
  | none => added field.1
where
  added (name : List Char) : Except TemplateFault Usage := do
    let next ← u.addHead (splitHead name).1
    if next.automatic ≠ 0 && next.manual then .error .mixedNumbering else .ok next

/-- What all fields of a template refer to. -/
def usage (fields : Fields) : Except TemplateFault Usage := do
  let u ← fields.found.foldlM Usage.add Usage.empty
  match fields.malformed with
  | some malformed => .error (.malformed malformed)
  | none => return u

/-! ## The whole template -/

/-- Texts in the order of their characters, each once. -/
def sortedNames (names : List String) : List String :=
  (names.mergeSort (fun a b => decide (a ≤ b))).eraseDups

/-- The least number in a list that is not below a bound. -/
def leastBeyond (bound : Nat) (indexes : List Nat) : Option Nat :=
  (indexes.filter (bound ≤ ·)).foldl (fun least n => some (least.elim n (min n))) none

/-- The members of a list whose places are not used. -/
def unusedAt (used : List Nat) : Nat → List Capture → List Value
  | _, [] => []
  | place, c :: rest =>
    if used.contains place then unusedAt used (place + 1) rest
    else c.source :: unusedAt used (place + 1) rest

/-- Checks what the fields refer to against the captures and the parameters. -/
def checkUsage (u : Usage) (positional : List Capture) (captured params : List String) :
    Except TemplateFault Unit := do
  if let some index := leastBeyond positional.length u.indexes then
    throw (.missingPositional index positional.length)
  let unused := unusedAt u.indexes 0 positional
  if !unused.isEmpty then throw (.unusedPositional unused)
  let names := sortedNames u.names
  if let some name := names.find? fun n => !captured.contains n && !params.contains n then
    throw (.missingNamed name)
  let unused := sortedNames (captured.filter fun n => !names.contains n)
  if !unused.isEmpty then throw (.unusedNamed unused)

/-- Checks a format text with its captures against the parameters of a function. -/
def parse (s : Store) (format : String) (args : List Value) (named : Named)
    (params : List String) : Except TemplateFault Template := do
  let positional ← args.mapM (capture s params none)
  let captures ← named.mapM fun (name, source) => capture s params (some name) source
  let u ← usage (Fields.ofText format.toList)
  checkUsage u positional (named.map Prod.fst) params
  return ⟨format, positional, captures⟩

end Template

namespace ContextSource

/-- Checks what a context is to be made of: a text is a template, anything else is the context
itself. -/
def parse (s : Store) (template : Value) (args : List Value) (named : Named)
    (params : List String) : Except TemplateFault ContextSource :=
  match template with
  | .str _ format => (Template.parse s format args named params).map .template
  | v =>
    if s.isRoutine v then .error (.routine v)
    else if !args.isEmpty || !named.isEmpty then .error (.capturesWithoutFormat v)
    else .ok (.value v)

/-- Checks a provider: it is given the arguments of the call if it takes any. -/
def parseProvider (s : Store) (provider : Value) : Except TemplateFault ContextSource :=
  if !s.isCallable provider then .error (.notCallable provider)
  else
    match s.signature true provider with
    | .error _ => .ok (.provider provider false)
    | .ok signature => .ok (.provider provider (!signature.isEmpty))

end ContextSource

namespace TemplateFault

/-- The class of the exception that a fault raises. -/
def cls : TemplateFault → Standard
  | .number fault => fault.cls
  | _ => .templateError

/-- The wording of a fault about a template. -/
def message (s : Store) (format : String) : TemplateFault → Texted
  | .routine v => do
    return "context() takes a template, not " ++ (← s.repr v) ++
      "; use with_context() for a context built by a function"
  | .capturesWithoutFormat v => do
    return "Captured arguments need a format string template, not " ++ (← s.repr v)
  | .captureParameter source parameter => do
    return "Captured function " ++ (← s.repr source) ++ " takes " ++ Text.quoted parameter ++
      ", which isn't a parameter of the decorated function"
  | .unknownConversion c =>
    .ok ("Unknown conversion " ++ Text.quoted c.toString ++ " in template " ++ Text.quoted format)
  | .malformed m =>
    .ok ("Malformed template " ++ Text.quoted (String.ofList m.text) ++ ": " ++ m.fault.message)
  | .number fault => .ok fault.message
  | .mixedNumbering =>
    .ok ("Template " ++ Text.quoted format ++ " mixes automatic and manual field numbering")
  | .missingPositional index captured => do
    return "Template " ++ Text.quoted format ++ " refers to positional argument " ++
      (← Store.integerText index) ++ s!" but {captured} " ++
      (if captured = 1 then "was" else "were") ++ " captured"
  | .unusedPositional sources => do
    return "Captured arguments never used by template " ++ Text.quoted format ++ ": " ++
      Store.commas (← sources.mapM s.repr)
  | .missingNamed name =>
    .ok ("Template " ++ Text.quoted format ++ " refers to \x7b" ++ name ++
      "\x7d, which is neither a captured argument nor a parameter")
  | .unusedNamed names =>
    .ok ("Named arguments never used by template " ++ Text.quoted format ++ ": " ++
      Store.commas names)
  | .notCallable v => do
    return "with_context() takes a callable, not " ++ (← s.repr v) ++
      "; use context() for a template or value"

end TemplateFault
end FaultContext
