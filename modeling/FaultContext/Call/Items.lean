/-
# FaultContext.Call.Items -- the items of a value, one after the other.

Most values that have items hold them.  An iterator gives its items away: what has been taken from
it once is gone.  Some iterators compute their items, and they do so only when the items are asked
for.
-/
import FaultContext.Chain
import FaultContext.Value.Operator
import FaultContext.World.Eval

namespace FaultContext

open Eval

namespace Items

/-- An iterator of a class over items. -/
def newIterator (c : Standard) (name : String) (items : List Value) : Eval Value :=
  new ⟨c, [], .iterator name items⟩

/-- An iterator of a class over items that are still to be computed. -/
def newPending (c : Standard) (name : String) (items : Pending) : Eval Value :=
  new ⟨c, [], .pending name items⟩

/-- Leaves the given items to an iterator. -/
def leave (r : Ref) (items : List Value) : Eval Unit :=
  modifyObject r
    (fun o =>
      match o.body with
      | .iterator name _ | .pending name _ => { o with body := .iterator name items }
      | _ => o)
    fun ⟨_, _, body⟩ => by cases body <;> rfl

/-- The results of calls, one after the other. -/
def callAll (engine : Engine) (f : Value) : List (List Value) → Eval (List Value)
  | [] => return []
  | args :: rest => do
    let v ← handOut (← engine.call f args [])
    return v :: (← callAll engine f rest)

/-- The items that a function lets through; without a function those that count as true. -/
def passing (engine : Engine) (f : Value) : List Value → Eval (List Value)
  | [] => return []
  | v :: rest => do
    let verdict ← if f.isNone then pure v else engine.call f [v] []
    let others ← passing engine f rest
    return if Store.truthy verdict then v :: others else others

/-- The first items of several lists, then the second ones, up to the end of the shortest. -/
def columns (rows : List (List Value)) : List (List Value) :=
  match rows with
  | [] => []
  | first :: _ =>
    (List.range (rows.foldl (fun n row => min n row.length) first.length)).map fun k =>
      rows.filterMap (·[k]?)

/-- Takes all items of a value, where at most `depth` iterators compute their items from one
another. -/
def takeWithin (engine : Engine) : Nat → Value → Eval (List Value)
  | 0, _ => exhausted
  | depth + 1, v => do
    let s ← store
    match v with
    | .object r =>
      match (s.get? r).map Object.body with
      | some (.iterator _ items) =>
        leave r []
        return items
      | some (.pending _ pending) =>
        leave r []
        match pending with
        | .listed f => do lift ((← store).iterate (← engine.call f [] []))
        | .mapped f sources => do
          let rows ← sources.mapM (takeWithin engine depth)
          callAll engine f (columns rows)
        | .filtered f source => do passing engine f (← takeWithin engine depth source)
        | .layers failure => lift (Chain.layers s failure).all
      | _ => lift (s.iterate v)
    | v => lift (s.iterate v)

/-- Takes all items of a value. -/
def take (engine : Engine) (v : Value) : Eval (List Value) := do
  takeWithin engine ((← store).objects.size + 1) v

/-- Whether a value is an iterator. -/
def isIterator (s : Store) : Value → Bool
  | .object r =>
    match (s.get? r).map Object.body with
    | some (.iterator ..) | some (.pending ..) => true
    | _ => false
  | _ => false

/-- A value as something that holds its items: an iterator becomes the list of what it gives. -/
def held (engine : Engine) (v : Value) : Eval Value := do
  if isIterator (← store) v then return .list .fresh (← take engine v) else return v

end Items
end FaultContext
