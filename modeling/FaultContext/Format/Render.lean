/-
# FaultContext.Format.Render -- format texts filled with values.

Fields are filled from left to right.  For each field the head picks a value, the steps lead into
it, the conversion turns it into a text, the specification is filled in turn if it has fields of
its own, and the value is laid out.  The first fault ends everything, so a fault of the grammar is
met only where the fields before it went well.

Fields without a head are numbered in the order in which they are met, across all levels; they
cannot be mixed with fields that give a number.
-/
import FaultContext.Value.Attribute
import FaultContext.Value.Text

namespace FaultContext.Format

/-- What fields are filled from. -/
structure Arguments where
  positional : List Value
  named : Named

/-- How fields without a name have been numbered so far. -/
inductive Numbering where
  | undecided
  | automatic (next : Nat)
  | manual
  deriving DecidableEq, Repr

/-- Filling a part of a text: it may change the numbering. -/
abbrev Filling (α : Type) := StateT Numbering (Except Fault) α

/-- The value at a position. -/
def Arguments.at (args : Arguments) (index : Nat) : Except Fault Value :=
  match args.positional[index]? with
  | some v => .ok v
  | none => .error (.replacementIndex index)

/-- The value that a head picks. -/
def pick (args : Arguments) (head : Head) : Filling Value := do
  match head, ← get with
  | .automatic, .manual => throw .automaticAfterManual
  | .automatic, .undecided =>
    set (Numbering.automatic 1)
    args.at 0
  | .automatic, .automatic next =>
    set (Numbering.automatic (next + 1))
    args.at next
  | .index _, .automatic _ => throw .manualAfterAutomatic
  | .index n, _ =>
    set Numbering.manual
    args.at n
  | .name text, _ =>
    let name := String.ofList text
    match args.named.get? name with
    | some v => return v
    | none => throw (.missingKey (.str .fresh name))

/-- Takes one step into a value. -/
def take (s : Store) (v : Value) : Step → Except Fault Value
  | .attribute name => s.attr v (String.ofList name)
  | .item n => s.item v (.int .fresh n)
  | .key name => s.item v (.ofText name)

/-- Follows the steps of a name, then meets the fault behind them. -/
def follow (s : Store) (v : Value) (steps : Steps) : Except Fault Value := do
  let reached ← steps.steps.foldlM (take s) v
  match steps.fault with
  | some fault => .error (.path fault)
  | none => return reached

/-- The value that the name of a field leads to. -/
def resolve (s : Store) (args : Arguments) (name : List Char) : Filling Value := do
  let (head, steps) := splitHead name
  match Head.ofText head with
  | .error fault => throw (.path fault)
  | .ok head =>
    let v ← pick args head
    follow s v (Steps.ofText steps)

/-- Turns a value into a text as a conversion says. -/
def convert (s : Store) (v : Value) : Option Char → Except Fault Value
  | none => .ok v
  | some 'r' => (s.repr v).map (.str .fresh)
  | some 's' => (s.str v).map (.str .fresh)
  | some 'a' => (s.ascii v).map (.str .fresh)
  | some c => .error (.unknownConversion c)

/-- Lays out a value by the text of a specification. -/
def layout (s : Store) (v : Value) (spec : List Char) : Except Fault (List Char) :=
  let checked (r : Except SpecFault (List Char)) := r.mapError Fault.spec
  if spec.isEmpty then (s.str v).map String.toList
  else
    match v with
    | .str _ t => checked do layoutText (← Spec.read .text spec) t.toList
    | .int _ n => checked do layoutInteger .integer (← Spec.read .integer spec) n
    | .bool b => checked do layoutInteger .truth (← Spec.read .truth spec) (if b then 1 else 0)
    | .float _ x => checked do layoutReal .real (← Spec.read .real spec) x
    | v => .error (.noSpecification (s.typeName v))

/-- How deep specifications may have fields of their own. -/
def greatestDepth : Nat := 2

/-- Fills a text whose specifications may have fields `depth` levels deep. -/
def fill (s : Store) (args : Arguments) : Nat → List Char → Filling (List Char)
  | 0, _ => throw .nestedTooDeep
  | depth + 1, text => do
    let split := pieces text
    let parts ← split.pieces.mapM fun piece => do
      match piece.field with
      | none => return piece.literal
      | some field =>
        let v ← resolve s args field.name
        let v ← convert s v field.conversion
        let spec ← if field.spec.contains '{' then fill s args depth field.spec else pure field.spec
        return piece.literal ++ (← layout s v spec)
    match split.fault with
    | some fault => throw (.markup fault)
    | none => return parts.flatten

/-- Fills a format text. -/
def render (s : Store) (args : Arguments) (text : String) : Texted :=
  match (fill s args greatestDepth text.toList).run .undecided with
  | .ok (filled, _) => .ok (String.ofList filled)
  | .error fault => .error fault

end FaultContext.Format
