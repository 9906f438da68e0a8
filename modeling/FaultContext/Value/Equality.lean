/-
# FaultContext.Value.Equality -- equality, order and keys.

Numbers are equal when their exact values are, whatever their kind; tables and unions are equal
whatever the order of their members; results are equal when they are of one class and their
payloads are equal; every other object is equal to itself only.  Payloads may be results again, so
equality of objects is built in layers like their texts.

Only values whose content cannot change can be keys; `unhashable?` names the type that stands in the
way.
-/
import FaultContext.Fault
import FaultContext.Store.Object

namespace FaultContext

open Number (Binary64)

/-! ## Numbers -/

/-- A number of either kind. -/
inductive Numeric where
  | int (n : Int)
  | float (x : Binary64)

namespace Numeric

/-- How two numbers compare, by their exact values. -/
def compare? : Numeric → Numeric → Option Ordering
  | .int a, .int b => some (compare a b)
  | .float x, .int b => x.compareInt? b
  | .int a, .float y => (y.compareInt? a).map Ordering.swap
  | .float x, .float y => x.compare? y

end Numeric

/-- The number that a value is; truth values are zero and one. -/
def Value.number? : Value → Option Numeric
  | .bool b => some (.int (if b then 1 else 0))
  | .int _ n => some (.int n)
  | .float _ x => some (.float x)
  | _ => Option.none

/-- How many numbers a range has. -/
def rangeLength (start stop step : Int) : Nat :=
  if 0 < step then ((stop - start + step - 1).fdiv step).toNat
  else if step < 0 then ((start - stop - step - 1).fdiv (-step)).toNat
  else 0

/-- Whether two ranges have the same numbers. -/
def sameRange (a b c d e f : Int) : Bool :=
  let n := rangeLength a b c
  n == rangeLength d e f && (n == 0 || (a == d && (n == 1 || c == f)))

namespace Store

/-! ## Equality -/

mutual

/-- Whether two values are equal, given when two objects are. -/
def equalWith (objects : Ref → Ref → Bool) : Value → Value → Bool
  | .none, .none => true
  | .str _ a, .str _ b => a == b
  | .list _ a, .list _ b => equalAll objects a b
  | .tuple _ a, .tuple _ b => equalAll objects a b
  | .dict _ a, .dict _ b => a.length == b.length && entriesIn objects a b
  | .bytes _ a, .bytes _ b => a == b
  | .complex _ a b, .complex _ c d => a.compare? c == some .eq && b.compare? d == some .eq
  | .complex _ a b, v | v, .complex _ a b =>
    match v.number? with
    | some x => b.isZero && (Numeric.float a).compare? x == some .eq
    | none => false
  | .set _ _ a, .set _ _ b => a.length == b.length && membersIn objects a b
  | .range _ a b c, .range _ d e f => sameRange a b c d e f
  | .slice _ a b c, .slice _ d e f =>
    (a.same d || equalWith objects a d) && (b.same e || equalWith objects b e) &&
      (c.same f || equalWith objects c f)
  | .ellipsis, .ellipsis => true
  | .notImplemented, .notImplemented => true
  | .member c m, .member d n => c == d && m == n
  | .method a c m, .method b d n => a.same b && c == d && m == n
  | .cls a, .cls b => a == b
  | .generic c a, .generic d b => c == d && equalAll objects a b
  | .typing c a, .typing d b => c == d && equalAll objects a b
  | .classAlias c a, .classAlias d b => c == d && equalAll objects a b
  | .spreadAlias c a, .spreadAlias d b => c == d && equalAll objects a b
  | .unpacked a, .unpacked b => equalWith objects a b
  | .union a, .union b | .union a, .unionType b | .unionType a, .union b
  | .unionType a, .unionType b => membersIn objects a b && b.all (hasMember objects a)
  | .typeVar a, .typeVar b => a == b
  | .forward a, .forward b => a == b
  | .bare a, .bare b => a == b
  | .native a, .native b => a == b
  | .bindings a, .bindings b => a == b
  | .bound a f, .bound b g => equalWith objects a b && equalWith objects f g
  | .coroutine a _ _ _, .coroutine b _ _ _ => a.same b
  | .object a, .object b => objects a b
  | a, b =>
    match a.number?, b.number? with
    | some x, some y => x.compare? y == some .eq
    | _, _ => false

/-- Whether two lists are equal item by item; an item that is the same in both is not compared. -/
def equalAll (objects : Ref → Ref → Bool) : List Value → List Value → Bool
  | [], [] => true
  | a :: as, b :: bs => (a.same b || equalWith objects a b) && equalAll objects as bs
  | _, _ => false

/-- Whether every entry of a table is in another one. -/
def entriesIn (objects : Ref → Ref → Bool) : List (Value × Value) → List (Value × Value) → Bool
  | [], _ => true
  | (k, v) :: rest, b =>
    (b.any fun (l, w) =>
        (k.same l || equalWith objects k l) && (v.same w || equalWith objects v w)) &&
      entriesIn objects rest b

/-- Whether every member of a list is in another one. -/
def membersIn (objects : Ref → Ref → Bool) : List Value → List Value → Bool
  | [], _ => true
  | a :: as, b => (b.any fun v => a.same v || equalWith objects a v) && membersIn objects as b

/-- Whether a value is a member of a list. -/
def hasMember (objects : Ref → Ref → Bool) : List Value → Value → Bool
  | [], _ => false
  | a :: as, v => a.same v || equalWith objects a v || hasMember objects as v

end

/-- Whether two objects are equal, where at most `layers` results stand inside one another.  Results
go by their payloads, even if they are one. -/
def equalObjects (s : Store) : Nat → Ref → Ref → Bool
  | 0, a, b => a == b
  | layers + 1, a, b =>
    match s.get? a, s.get? b with
    | some ⟨c, _, .ok v⟩, some ⟨d, _, .ok w⟩ => c == d && equalWith (s.equalObjects layers) v w
    | some ⟨c, _, .err v⟩, some ⟨d, _, .err w⟩ => c == d && equalWith (s.equalObjects layers) v w
    | _, _ => a == b

/-- Whether two values are equal. -/
def equal (s : Store) (a b : Value) : Bool := equalWith (s.equalObjects s.objects.size) a b

/-- Whether two values are the same or equal, which is what looking for a value goes by. -/
def agree (s : Store) (a b : Value) : Bool := a.same b || s.equal a b

/-- Whether a value is among others. -/
def isAmong (s : Store) (v : Value) (others : List Value) : Bool := others.any (s.agree v)

/-! ## Keys -/

mutual

/-- The type that keeps a value from being a key, given the same for objects. -/
def unhashableWith (s : Store) (objects : Ref → Option String) : Value → Option String
  | .list _ _ => some "list"
  | .dict _ _ => some "dict"
  | .set _ false _ => some "set"
  | .slice .. => some "slice"
  | .tuple _ items => unhashableAny s objects items
  | .cls c => if s.isHashableClass c then none else some (s.metaclass c).name
  | .generic _ args | .typing _ args | .classAlias _ args | .spreadAlias _ args | .union args
  | .unionType args => unhashableAny s objects args
  | .unpacked type => unhashableWith s objects type
  | .object r => objects r
  | _ => none

/-- The first type that keeps one of several values from being a key. -/
def unhashableAny (s : Store) (objects : Ref → Option String) : List Value → Option String
  | [] => none
  | v :: rest =>
    match unhashableWith s objects v with
    | some type => some type
    | none => unhashableAny s objects rest

end

/-- The type that keeps an object from being a key: a result is a key when its payload is. -/
def unhashableObject (s : Store) : Nat → Ref → Option String
  | 0, _ => none
  | layers + 1, r =>
    match s.get? r with
    | some ⟨_, _, .ok v⟩ | some ⟨_, _, .err v⟩ =>
      unhashableWith s (s.unhashableObject layers) v
    | _ => none

/-- The type that keeps a value from being a key. -/
def unhashable? (s : Store) (v : Value) : Option String :=
  s.unhashableWith (s.unhashableObject s.objects.size) v

/-- The value of a key in a table. -/
def lookup (s : Store) (entries : List (Value × Value)) (key : Value) :
    Except Fault (Option Value) :=
  match s.unhashable? key with
  | some type => .error (.unhashable type)
  | none => .ok ((entries.find? fun (k, _) => s.agree k key).map Prod.snd)

/-- Puts an entry into a table: a key that is there keeps its place and its form. -/
def putEntry (s : Store) (entries : List (Value × Value)) (key value : Value) :
    List (Value × Value) :=
  if entries.any fun (k, _) => s.agree k key then
    entries.map fun (k, v) => if s.agree k key then (k, value) else (k, v)
  else entries ++ [(key, value)]

/-! ## Order -/

/-- The orders. -/
inductive Relation where
  | less
  | atMost
  | greater
  | atLeast
  deriving DecidableEq, Repr

/-- The sign of an order. -/
def Relation.sign : Relation → String
  | .less => "<"
  | .atMost => "<="
  | .greater => ">"
  | .atLeast => ">="

/-- Whether an outcome of a comparison is in an order. -/
def Relation.admits : Relation → Ordering → Bool
  | .less, o => o == .lt
  | .atMost, o => o != .gt
  | .greater, o => o == .gt
  | .atLeast, o => o != .lt

/-- Whether an order holds between a value and one that is no different. -/
def Relation.isReflexive : Relation → Bool
  | .atMost | .atLeast => true
  | .less | .greater => false

/-- Whether an order holds between what ends early and what goes on. -/
def Relation.isUpward : Relation → Bool
  | .less | .atMost => true
  | .greater | .atLeast => false

/-- Whether an order holds between two sets: the smaller one is part of the greater one. -/
def Relation.ofSets (s : Store) (rel : Relation) (a b : List Value) : Bool :=
  let within (x y : List Value) := x.all (s.isAmong · y)
  match rel with
  | .less => within a b && a.length < b.length
  | .atMost => within a b
  | .greater => within b a && b.length < a.length
  | .atLeast => within b a

/-- The payloads of two results that can be compared. -/
def comparedPayloads (s : Store) (a b : Ref) : Option (Value × Value) :=
  match s.get? a, s.get? b with
  | some ⟨c, _, .ok v⟩, some ⟨d, _, .ok w⟩ => if c == d then some (v, w) else none
  | some ⟨c, _, .err v⟩, some ⟨d, _, .err w⟩ => if c == d then some (v, w) else none
  | _, _ => none

mutual

/-- Whether a value comes before another one in an order, given the same for objects. -/
def beforeWith (s : Store) (objects : Ref → Ref → Option (Except Fault Bool)) (rel : Relation) :
    Value → Value → Except Fault Bool
  | .str _ a, .str _ b => .ok (rel.admits (compare a b))
  | .list _ a, .list _ b => beforeAll s objects rel a b
  | .tuple _ a, .tuple _ b => beforeAll s objects rel a b
  | .bytes _ a, .bytes _ b => .ok (rel.admits (compare a b))
  | .set _ _ a, .set _ _ b => .ok (rel.ofSets s a b)
  | .object a, .object b =>
    match objects a b with
    | some answer => answer
    | none =>
      .error (.notOrdered rel.sign (s.typeName (.object a)) (s.typeName (.object b)))
  | a, b =>
    match a.number?, b.number? with
    | some x, some y => .ok ((x.compare? y).any rel.admits)
    | _, _ => .error (.notOrdered rel.sign (s.typeName a) (s.typeName b))

/-- Whether a list comes before another one: the first items that differ decide. -/
def beforeAll (s : Store) (objects : Ref → Ref → Option (Except Fault Bool)) (rel : Relation) :
    List Value → List Value → Except Fault Bool
  | [], [] => .ok rel.isReflexive
  | [], _ :: _ => .ok rel.isUpward
  | _ :: _, [] => .ok !rel.isUpward
  | a :: as, b :: bs =>
    if s.agree a b then beforeAll s objects rel as bs else beforeWith s objects rel a b

end

/-- Whether an object comes before another one: results of one class go by their payloads. -/
def beforeObjects (s : Store) (rel : Relation) : Nat → Ref → Ref → Option (Except Fault Bool)
  | 0, _, _ => none
  | layers + 1, a, b =>
    (s.comparedPayloads a b).map fun (v, w) =>
      beforeAll s (s.beforeObjects rel layers) rel [v] [w]

/-- Whether a value comes before another one in an order. -/
def before (s : Store) (rel : Relation) (a b : Value) : Except Fault Bool :=
  s.beforeWith (s.beforeObjects rel s.objects.size) rel a b

/-! ## Truth -/

/-- Whether a value counts as true: zero and what is empty do not. -/
def truthy : Value → Bool
  | .none => false
  | .bool b => b
  | .int _ n => n != 0
  | .float _ x => !x.isZero
  | .str _ t => !t.isEmpty
  | .list _ items => !items.isEmpty
  | .tuple _ items => !items.isEmpty
  | .dict _ entries => !entries.isEmpty
  | .bytes _ codes => !codes.isEmpty
  | .complex _ re im => !(re.isZero && im.isZero)
  | .set _ _ items => !items.isEmpty
  | .range _ start stop step => rangeLength start stop step != 0
  | _ => true

end Store
end FaultContext
