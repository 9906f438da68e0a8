/-
# FaultContext.Chain -- the layers of a failure.

A layer of context leads to the failure it was added to, any other exception leads to its cause,
and everything else is the end.  Links can close a circle: the chain ends before it would meet a
layer for the second time.

A class may inherit from the layers of context and from another exception whose initializer comes
first.  Its instances have no source, which is noticed when the chain has come to them.
-/
import FaultContext.Value.Attribute
import FaultContext.Value.Text

namespace FaultContext.Chain

/-- What a layer leads to; the value none where it leads nowhere. -/
def next (s : Store) (v : Value) : Except Fault Value :=
  match s.exception? v with
  | none => .ok .none
  | some r =>
    if s.isInstance v Standard.contextError then s.attr v "source"
    else
      match s.get? r with
      | some ⟨_, _, .exception _ cause _⟩ => .ok (Store.linkValue cause)
      | _ => .ok .none

/-- The layers before the first fault, and the fault. -/
structure Layers where
  layers : List Value
  fault : Option Fault

/-- One more layer in front. -/
def Layers.cons (v : Value) (rest : Layers) : Layers := { rest with layers := v :: rest.layers }

/-- All layers, if none of them is at fault. -/
def Layers.all (found : Layers) : Except Fault (List Value) :=
  match found.fault with
  | none => .ok found.layers
  | some fault => .error fault

/-- The layers from a value on, at most `steps` of them, without the exceptions met before. -/
def layersWithin (s : Store) (met : List Ref) (v : Value) : Nat → Layers
  | 0 => ⟨[], none⟩
  | steps + 1 =>
    match v with
    | .none => ⟨[], none⟩
    | .object r =>
      if met.contains r then ⟨[], none⟩
      else
        match next s v with
        | .ok following => (layersWithin s (r :: met) following steps).cons v
        | .error fault => ⟨[v], some fault⟩
    | _ => ⟨[v], none⟩

/-- The layers of a failure, outermost first.  Every layer but the last is an object of its own, so
the number of objects bounds the number of layers. -/
def layers (s : Store) (v : Value) : Layers := layersWithin s [] v (s.objects.size + 1)

/-- The last layer of a failure. -/
def root (s : Store) (v : Value) : Except Fault Value := do
  return (← (layers s v).all).getLastD v

/-- The lines that name the layers below the first one, numbered from the given number on. -/
def causeLines (s : Store) : Nat → List Value → Except Fault (List String)
  | _, [] => .ok []
  | number, v :: rest => do
    let line := s!"    {number}: " ++ (← s.str v)
    return line :: (← causeLines s (number + 1) rest)

/-- All layers of a failure as text. -/
def report (s : Store) (v : Value) : Texted := do
  match ← (layers s v).all with
  | [] => s.str v
  | first :: rest =>
    let head ← s.str first
    if rest.isEmpty then return head
    else return "\n".intercalate ([head, "", "Caused by:"] ++ (← causeLines s 0 rest))

end FaultContext.Chain
