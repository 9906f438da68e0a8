/-
# FaultContext.Program.Declare -- classes that a program declares.

A class is declared if its bases get along: their metaclasses have to agree, none of them may be
closed, their instances need a common layout, and their orders have to merge into one.  The checks
are made in this order.
-/
import FaultContext.Call.Engine
import FaultContext.Class.Linearization
import FaultContext.Program.Step
import FaultContext.World.Session

namespace FaultContext

open Eval

namespace Store

/-- The nearest class along the order of a class that decides the layout of its instances. -/
def layoutOf (s : Store) (c : Class) : Class :=
  ((s.order c).find? fun
    | .standard d => d.hasOwnLayout
    | .declared _ => false).getD Standard.object

/-- Whether nothing can be derived from a class. -/
def isFinal : Class → Bool
  | .standard c => c.isFinal
  | .declared _ => false

/-- The more special one of two classes, if one of them is derived from the other. -/
def moreSpecial? (s : Store) (c d : Class) : Option Class :=
  if s.isSubclass c d then some c else if s.isSubclass d c then some d else none

/-- The layout that all bases have in common, beginning with the one found so far, or why there is
none.  The bases are looked at in turn. -/
def commonLayout (s : Store) (layout : Class) : List Class → Except String Class
  | [] => .ok layout
  | base :: rest =>
    let name := s.className base
    if isFinal base then .error s!"type '{name}' is not an acceptable base type"
    else
      match s.moreSpecial? layout (s.layoutOf base) with
      | some layout => s.commonLayout layout rest
      | none => .error "multiple bases have instance lay-out conflict"

/-- The first of several classes that stands among them twice. -/
def repeatedClass? : List Class → Option Class
  | [] => none
  | c :: rest => if rest.contains c then some c else repeatedClass? rest

/-- Checks that the metaclasses of all bases get along. -/
def checkMetaclasses (s : Store) (metaclasses : List Standard) : Except String Unit :=
  match metaclasses.foldlM (fun winner m => s.moreSpecial? winner (.standard m))
      (.standard .type) with
  | some _ => .ok ()
  | none =>
    .error ("metaclass conflict: the metaclass of a derived class must be a (non-strict) " ++
      "subclass of the metaclasses of all its bases")

/-- Checks that no base stands twice among the bases. -/
def checkRepeated (s : Store) (bases : List Class) : Except String Unit :=
  match repeatedClass? bases with
  | some c => .error ("duplicate base class " ++ s.className c)
  | none => .ok ()

/-- The orders of the bases make the order of a class closed. -/
theorem closed_ofBases {s : Store} {k : Nat} {bases order : List Class}
    (h : Linearization.ofBases (.declared k) (bases.map s.order) bases = .ok order) :
    ClosedOrder order := by
  intro c hc a ha
  rcases Linearization.mem_of_mem_ofBases h hc with hself | ⟨l, hl, hcl⟩ | hbase
  · cases hself
  · obtain ⟨b, hb, rfl⟩ := List.mem_map.mp hl
    exact Linearization.mem_ofBases h hl (s.closed_order b c hcl a ha)
  · exact Linearization.mem_ofBases h (List.mem_map_of_mem hbase) (List.mem_map_of_mem ha)

/-- The order of a new class, or why it has none.  The classes that block one another are collected
as keys, so each of them has to be one that can be a key. -/
def newOrder (s : Store) (k : Nat) (bases : List Class) :
    Except String { order : List Class // ClosedOrder order } :=
  match h : Linearization.ofBases (.declared k) (bases.map s.order) bases with
  | .ok order => .ok ⟨order, closed_ofBases h⟩
  | .error heads =>
    if heads.any fun c => !s.isHashableClass c then
      .error (Fault.unhashable Standard.unhashableMeta.name).message
    else .error ("Cannot create a consistent method resolution\norder (MRO) for bases " ++
      commas (heads.map s.className))

/-- Adds a class with the given bases and members; without bases it is derived from the most general
class. -/
def newClass (s : Store) (name : String) (bases : List Class) (members : Named)
    (unhashable : Bool) : Except String (Class × Store) := do
  let bases := if bases.isEmpty then [.standard .object] else bases
  let metaclasses := (if unhashable then [Standard.unhashableMeta] else []) ++ bases.map s.metaclass
  s.checkMetaclasses metaclasses
  discard (s.commonLayout Standard.object bases)
  s.checkRepeated bases
  let ⟨order, closed⟩ ← s.newOrder s.declarations.size bases
  let hashable := !metaclasses.contains .unhashableMeta
  let merges := s.offersContextMethod members (order.drop 1)
  return s.declare { name, bases, order, hashable, merges, closed } members

end Store

/-- The class that a base stands for. -/
def baseClass (v : Value) : Eval Class :=
  match v with
  | .cls c => pure c
  | _ => fault (.plain .typeError "bases must be types")

/-- A function that merges contexts. -/
def contextFunction (params : List String) (body : Expr) : Eval Value :=
  newFunction
    { name := "wrap_err"
      qualifiedName := "wrap_err"
      doc := none
      annotations := []
      params := params.map fun n => ⟨n, .standard, none⟩
      attributes := []
      wrapped := none
      code := .body .direct body 0 none }

/-- How a declared class merges contexts, as a member of the class. -/
def MemberTerm.eval (engine : Engine) : MemberTerm → Eval Value
  | .value v => v.eval engine
  | .method body => contextFunction ["self", "context"] body
  | .ofClass body => do
    let f ← contextFunction ["self", "context"] body
    new ⟨Standard.classMethod, [], .ofClass f⟩
  | .static body => do
    let f ← contextFunction ["context"] body
    new ⟨Standard.staticMethod, [], .static f⟩

/-- Adds a class to the store. -/
def addClass (name : String) (bases : List Class) (members : Named) (unhashable : Bool) :
    Session Class := do
  match (← get).store.newClass name bases members unhashable with
  | .ok (c, s) =>
    modify fun w => { w with store := s }
    return c
  | .error problem => (fault (.plain .typeError problem) : Eval Class)

/-- Declares a class under its name. -/
def ClassTerm.declare (engine : Engine) (t : ClassTerm) : Session Class := do
  let bases ← (do (← evalTypes engine t.bases).mapM baseClass : Eval (List Class))
  let members ← match t.member with
    | none => pure []
    | some m => do pure [("wrap_err", ← m.eval engine)]
  let c ← addClass t.name bases members t.unhashable
  modify fun w => { w with classes := (t.name, c) :: w.classes }
  return c

end FaultContext
