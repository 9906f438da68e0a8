/-
# FaultContext.Value.Access -- items.

The items of a sequence are found by their places, counted from either end, and a slice picks out a
part of a sequence.  The items of a table are found by their keys.
-/
import FaultContext.Value.Equality

namespace FaultContext.Store

/-! ## Items -/

/-- Whether a number can be a place at all. -/
def isPlace (n : Int) : Bool := -Format.greatestWord - 1 ≤ n && n ≤ Format.greatestWord

/-- The item of a sequence at a place; a negative place counts from the end. -/
def nth (kind : String) (items : List Value) (n : Int) : Except Fault Value :=
  let place := if n < 0 then n + items.length else n
  if !isPlace n then .error .placeRange
  else
    match place with
    | .ofNat k =>
      match items[k]? with
      | some v => .ok v
      | none => .error (.indexRange kind)
    | .negSucc _ => .error (.indexRange kind)

/-- The characters of a text as texts. -/
def characters (t : String) : List Value := t.toList.map fun c => .str .fresh c.toString

/-- The integer that a value counts as when it is used as a place. -/
def place? : Value → Option Int
  | .int _ n => some n
  | .bool b => some (if b then 1 else 0)
  | _ => none

/-! ## Parts of sequences -/

/-- A bound of a slice; the value none is no bound. -/
def bound? (v : Value) : Except Fault (Option Int) :=
  match v with
  | .none => .ok none
  | v =>
    match place? v with
    | some n => .ok (some n)
    | none =>
      .error (.plain .typeError
        "slice indices must be integers or None or have an __index__ method")

/-- A bound of a slice in a sequence of a length: a negative one counts from the end, and none is
outside of the given limits. -/
def clamp (length least most : Int) : Option Int → Option Int
  | none => none
  | some n =>
    let n := if n < 0 then n + length else n
    some (if n < least then least else if most < n then most else n)

/-- Where a slice of a sequence of a length begins, where it ends, and its step. -/
def sliceRange (length : Nat) (start stop step : Value) : Except Fault (Int × Int × Int) := do
  let step := (← bound? step).getD 1
  if step = 0 then throw (.plain .valueError "slice step cannot be zero")
  let start ← bound? start
  let stop ← bound? stop
  let n : Int := length
  if 0 < step then
    return ((clamp n 0 n start).getD 0, (clamp n 0 n stop).getD n, step)
  else
    return ((clamp n (-1) (n - 1) start).getD (n - 1), (clamp n (-1) (n - 1) stop).getD (-1), step)

/-- The numbers of a range. -/
def rangeItems (start stop step : Int) : List Int :=
  (List.range (rangeLength start stop step)).map fun (k : Nat) => start + (k : Int) * step

/-- The part of a list that a slice picks out. -/
def slicePart {α : Type} (items : List α) (start stop step : Value) : Except Fault (List α) := do
  let (start, stop, step) ← sliceRange items.length start stop step
  let array := items.toArray
  return (rangeItems start stop step).filterMap fun k => array[k.toNat]?

/-- The item of a range at a place. -/
def rangeItem (start stop step n : Int) : Except Fault Value :=
  let count : Int := rangeLength start stop step
  let place := if n < 0 then n + count else n
  if place < 0 || count ≤ place then .error (.plain .indexError "range object index out of range")
  else .ok (.int .fresh (start + place * step))

/-- The item of a value for a key. -/
def item (s : Store) (v key : Value) : Except Fault Value :=
  match v, key with
  | .list _ items, .slice _ a b c => do return .list .fresh (← slicePart items a b c)
  | .tuple _ items, .slice _ a b c => do return .tuple .fresh (← slicePart items a b c)
  | .str _ t, .slice _ a b c => do return .ofText (← slicePart t.toList a b c)
  | .bytes _ codes, .slice _ a b c => do return .bytes .fresh (← slicePart codes a b c)
  | .range _ start stop step, .slice _ a b c => do
    let (first, last, stride) ← sliceRange (rangeLength start stop step) a b c
    return .range .fresh (start + first * step) (start + last * step) (stride * step)
  | .list _ items, key =>
    match place? key with
    | some n => nth "list" items n
    | none => .error (.sequenceIndex "list" (s.typeName key))
  | .tuple _ items, key =>
    match place? key with
    | some n => nth "tuple" items n
    | none => .error (.sequenceIndex "tuple" (s.typeName key))
  | .str _ t, key =>
    match place? key with
    | some n => nth "string" (characters t) n
    | none => .error (.textIndex (s.typeName key))
  | .bytes _ codes, key =>
    match place? key with
    | some n =>
      match nth "index" (codes.map fun (code : Nat) => .int .fresh (code : Int)) n with
      | .error (.indexRange _) => .error (.plain .indexError "index out of range")
      | found => found
    | none => .error (.plain .typeError
        ("byte indices must be integers or slices, not " ++ s.typeName key))
  | .range _ start stop step, key =>
    match place? key with
    | some n => rangeItem start stop step n
    | none => .error (.sequenceIndex "range" (s.typeName key))
  | .dict _ entries, key => do
    match ← s.lookup entries key with
    | some found => .ok found
    | none => .error (.missingKey key)
  | .cls c, _ => .error (.classNotSubscriptable (s.className c))
  | v, _ => .error (.notSubscriptable (s.typeName v))

end FaultContext.Store
