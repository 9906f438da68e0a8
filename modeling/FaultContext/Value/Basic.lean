/-
# FaultContext.Value.Basic -- what a program computes with.

A value is either plain data, which is what it looks like, or a reference to an object in the
store, which may change.  Plain data has an identity beside its content, because two equal texts or
lists are not always one: a number that is not equal to itself is still found in a list that holds
it.  Types are values too: a class, a class applied to arguments, a union of types, a type variable
or a name to be resolved later.

Deliberately not here: the objects (`FaultContext.Store.Object`), and every notion that has to look
into the store, such as equality and text.
-/
import FaultContext.Class.Standard
import FaultContext.Number.Binary64

namespace FaultContext

open Number (Binary64)

/-- A class: one that is there from the start, or one declared by the program, by its number. -/
inductive Class where
  | standard (c : Standard)
  | declared (index : Nat)
  deriving DecidableEq, Repr

instance : Coe Standard Class := ⟨.standard⟩

/-- The place of an object in the store. -/
structure Ref where
  index : Nat
  deriving DecidableEq, Repr

/-- What the library itself does to merge a context into a failure. -/
inductive Merging where
  /-- A new outer layer around the failure. -/
  | chain
  /-- A note on the failure itself. -/
  | note
  /-- The failure's own method. -/
  | method
  /-- The placeholder for types that nothing is registered for. -/
  | unregistered
  deriving DecidableEq, Repr

/-- The name of such a function. -/
def Merging.name : Merging → String
  | .chain => "chain_context"
  | .note => "note_context"
  | .method => "call_wrap_err"
  | .unregistered => "_unregistered"

/-- The module that such a function belongs to. -/
def Merging.home : Merging → String
  | .unregistered => "errify.bindings"
  | _ => "errify.std"

/-- Functions that are not written in the language.  `builtin` stands for those that every program
knows besides the first five, by their names, `method` for the functions of a class, and `merging`
for those of the library that merge contexts. -/
inductive Native where
  | len
  | max
  | repr
  | abs
  | sorted
  | builtin (name : String)
  | contextMethod
  | abstractMethod
  | method (owner : Standard) (name : String)
  | merging (m : Merging)
  deriving DecidableEq, Repr

/-- Type constructors that stand for a standard class. -/
inductive TypingHead where
  | list
  | dict
  | tuple
  | type
  deriving DecidableEq, Repr

/-- Type constructors that stand alone. -/
inductive BareForm where
  | union
  | optional
  | unpack
  | alias (head : TypingHead)
  deriving DecidableEq, Repr

/-- Which one of all equal pieces of data one is.  Data that has just been made is nothing else
until it is handed out and gets a number. -/
inductive Identity where
  | fresh
  | numbered (n : Nat)
  deriving DecidableEq, Repr

/-- Whether two pieces of data are one. -/
def Identity.same : Identity → Identity → Bool
  | .numbered a, .numbered b => a == b
  | _, _ => false

/-- A value. -/
inductive Value where
  | none
  | bool (b : Bool)
  | int (identity : Identity) (n : Int)
  | float (identity : Identity) (x : Binary64)
  | str (identity : Identity) (s : String)
  | list (identity : Identity) (items : List Value)
  | tuple (identity : Identity) (items : List Value)
  | dict (identity : Identity) (entries : List (Value × Value))
  | bytes (identity : Identity) (codes : List Nat)
  | complex (identity : Identity) (re im : Binary64)
  | set (identity : Identity) (frozen : Bool) (items : List Value)
  | range (identity : Identity) (start stop step : Int)
  | slice (identity : Identity) (start stop step : Value)
  | ellipsis
  | notImplemented
  /-- A member that a class has from the start, as the class holds it. -/
  | member (owner : Standard) (name : String)
  /-- Such a member as it is seen through a value. -/
  | method (self : Value) (owner : Standard) (name : String)
  | cls (c : Class)
  | generic (origin : Class) (args : List Value)
  | typing (head : TypingHead) (args : List Value)
  | classAlias (origin : Class) (args : List Value)
  /-- A class applied to arguments that stands for the types it holds. -/
  | spreadAlias (origin : Class) (args : List Value)
  /-- The types that a type stands for, as a type. -/
  | unpacked (type : Value)
  | union (members : List Value)
  | unionType (members : List Value)
  | typeVar (name : String)
  | forward (source : String)
  | bare (form : BareForm)
  | native (f : Native)
  /-- A set of bindings, by its number. -/
  | bindings (id : Nat)
  | bound (self function : Value)
  /-- A call whose arguments fit and which waits to be run. -/
  | coroutine (identity : Identity) (function : Value) (args : List Value)
      (named : List (String × Value))
  | object (r : Ref)

instance : Inhabited Value := ⟨.none⟩

namespace Value

/-- A class that is there from the start, as a value. -/
abbrev std (c : Standard) : Value := .cls (.standard c)

/-- Small integers are never made twice. -/
def isShared (n : Int) : Bool := -5 ≤ n && n ≤ 256

/-- Texts of at most one character of the first 256 are never made twice. -/
def isSharedText (s : String) : Bool :=
  match s.toList with
  | [] => true
  | [c] => c.toNat < 256
  | _ => false

mutual

/-- Whether two values are one: data by its identity, objects by their place, and types by what they
are. -/
def same : Value → Value → Bool
  | .none, .none => true
  | .bool a, .bool b => a == b
  | .int a m, .int b n => a.same b || (m == n && isShared m)
  | .float a _, .float b _ => a.same b
  | .str a s, .str b t => a.same b || (s == t && isSharedText s)
  | .list a _, .list b _ => a.same b
  | .tuple _ [], .tuple _ [] => true
  | .tuple a _, .tuple b _ => a.same b
  | .dict a _, .dict b _ => a.same b
  | .bytes a x, .bytes b y => a.same b || (x == y && x.length ≤ 1)
  | .complex a _ _, .complex b _ _ => a.same b
  | .set a _ _, .set b _ _ => a.same b
  | .range a _ _ _, .range b _ _ _ => a.same b
  | .slice a _ _ _, .slice b _ _ _ => a.same b
  | .ellipsis, .ellipsis => true
  | .notImplemented, .notImplemented => true
  | .member c m, .member d n => c == d && m == n
  | .cls a, .cls b => a == b
  | .generic c a, .generic d b => c == d && sameAll a b
  | .typing c a, .typing d b => c == d && sameAll a b
  | .classAlias c a, .classAlias d b => c == d && sameAll a b
  | .spreadAlias c a, .spreadAlias d b => c == d && sameAll a b
  | .unpacked a, .unpacked b => same a b
  | .union a, .union b => sameAll a b
  | .unionType a, .unionType b => sameAll a b
  | .typeVar a, .typeVar b => a == b
  | .forward a, .forward b => a == b
  | .bare a, .bare b => a == b
  | .native a, .native b => a == b
  | .bindings a, .bindings b => a == b
  | .bound a f, .bound b g => same a b && same f g
  | .coroutine a _ _ _, .coroutine b _ _ _ => a.same b
  | .object a, .object b => a == b
  | _, _ => false

/-- Whether two lists hold the same values in the same order. -/
def sameAll : List Value → List Value → Bool
  | [], [] => true
  | a :: as, b :: bs => same a b && sameAll as bs
  | _, _ => false

end

/-- The value of an optional one, absence being the value none. -/
def ofOption : Option Value → Value
  | some v => v
  | Option.none => .none

/-- Whether a value is the value none. -/
def isNone : Value → Bool
  | .none => true
  | _ => false

/-- A text as a value. -/
def ofText (cs : List Char) : Value := .str .fresh (String.ofList cs)

/-- Gives data that has just been made its number. -/
def number (n : Nat) : Value → Value
  | .int .fresh m => .int (.numbered n) m
  | .float .fresh x => .float (.numbered n) x
  | .str .fresh s => .str (.numbered n) s
  | .list .fresh items => .list (.numbered n) items
  | .tuple .fresh items => .tuple (.numbered n) items
  | .dict .fresh entries => .dict (.numbered n) entries
  | .bytes .fresh codes => .bytes (.numbered n) codes
  | .complex .fresh re im => .complex (.numbered n) re im
  | .set .fresh frozen items => .set (.numbered n) frozen items
  | .range .fresh start stop step => .range (.numbered n) start stop step
  | .slice .fresh start stop step => .slice (.numbered n) start stop step
  | .coroutine .fresh function args named => .coroutine (.numbered n) function args named
  | v => v

end Value

/-- Named values, in the order in which they were given; every name stands once. -/
abbrev Named := List (String × Value)

namespace Named

/-- The value of a name. -/
def get? (named : Named) (name : String) : Option Value := named.lookup name

/-- Whether a name has a value. -/
def has (named : Named) (name : String) : Bool := (named.get? name).isSome

/-- Gives a name a value: in its place if it has one, else at the end. -/
def set (named : Named) (name : String) (value : Value) : Named :=
  match named with
  | [] => [(name, value)]
  | (k, v) :: rest => if k = name then (k, value) :: rest else (k, v) :: set rest name value

/-- The names without one of them. -/
def erase (named : Named) (name : String) : Named := named.filter (·.1 != name)

end Named
end FaultContext
