/-
# FaultContext.Proofs.Nearest -- bindings of the nearest class.

A registry does not go along the order that a class has: it merges one of its own, from the orders
of the abstract bases first and those of the others behind them.  Where no class has both kinds of
bases, the two orders are the same, and a class finds the binding of the nearest class that has one
(`Registry.nearest_of_unmixed`).
-/
import FaultContext.Proofs.Descent

namespace FaultContext

/-! ## Empty rows -/

namespace Linearization

variable {α : Type}

/-- The lists that have something in them. -/
def rows (lists : List (List α)) : List (List α) := lists.filter fun l => !l.isEmpty

theorem rows_append (lists lists' : List (List α)) :
    rows (lists ++ lists') = rows lists ++ rows lists' :=
  List.filter_append lists lists'

theorem rows_nil_cons (lists : List (List α)) : rows ([] :: lists) = rows lists := rfl

theorem rows_cons_cons (a : α) (rest : List α) (lists : List (List α)) :
    rows ((a :: rest) :: lists) = (a :: rest) :: rows lists := rfl

theorem flatten_rows (lists : List (List α)) : (rows lists).flatten = lists.flatten := by
  induction lists with
  | nil => rfl
  | cons l lists ih =>
    cases l with
    | nil => rw [rows_nil_cons, ih, List.flatten_cons, List.nil_append]
    | cons a rest => rw [rows_cons_cons, List.flatten_cons, List.flatten_cons, ih]

theorem findSome?_rows {β : Type} {f : List α → Option β} (hf : f [] = none)
    (lists : List (List α)) : (rows lists).findSome? f = lists.findSome? f := by
  induction lists with
  | nil => rfl
  | cons l lists ih =>
    cases l with
    | nil => rw [rows_nil_cons, ih, List.findSome?_cons, hf]
    | cons a rest => rw [rows_cons_cons, List.findSome?_cons, List.findSome?_cons, ih]

theorem filterMap_rows {β : Type} {f : List α → Option β} (hf : f [] = none)
    (lists : List (List α)) : (rows lists).filterMap f = lists.filterMap f := by
  induction lists with
  | nil => rfl
  | cons l lists ih =>
    cases l with
    | nil => rw [rows_nil_cons, ih, List.filterMap_cons_none hf]
    | cons a rest => rw [rows_cons_cons, List.filterMap_cons, List.filterMap_cons, ih]

theorem any_rows {p : List α → Bool} (hp : p [] = false) (lists : List (List α)) :
    (rows lists).any p = lists.any p := by
  induction lists with
  | nil => rfl
  | cons l lists ih =>
    cases l with
    | nil => rw [rows_nil_cons, ih, List.any_cons, hp, Bool.false_or]
    | cons a rest => rw [rows_cons_cons, List.any_cons, List.any_cons, ih]

theorem all_isEmpty (lists : List (List α)) : lists.all List.isEmpty = (rows lists).isEmpty := by
  induction lists with
  | nil => rfl
  | cons l lists ih =>
    cases l with
    | nil => rw [rows_nil_cons, ← ih]; rfl
    | cons a rest => rfl

variable [DecidableEq α]

theorem nextHead_rows (lists : List (List α)) : nextHead (rows lists) = nextHead lists := by
  have htail : ∀ a, inTail (rows lists) a = inTail lists a := fun a => any_rows rfl lists
  unfold nextHead
  simp only [htail]
  exact findSome?_rows rfl lists

theorem leftover_rows (lists : List (List α)) : leftover (rows lists) = leftover lists := by
  rw [leftover, leftover, filterMap_rows rfl]

theorem rows_advance (a : α) (lists : List (List α)) :
    rows (advance a (rows lists)) = rows (advance a lists) := by
  induction lists with
  | nil => rfl
  | cons l lists ih =>
    cases l with
    | nil => exact ih
    | cons b rest =>
      rw [rows_cons_cons]
      simp only [advance, List.map_cons] at ih ⊢
      rw [← List.singleton_append, ← List.singleton_append (l := List.map _ lists), rows_append,
        rows_append, ih]

/-- Empty lists make no difference to what is merged. -/
theorem mergeWithin_congr {lists lists' : List (List α)} (h : rows lists = rows lists')
    (steps : Nat) : mergeWithin lists steps = mergeWithin lists' steps := by
  induction steps generalizing lists lists' with
  | zero => rfl
  | succ steps ih =>
    have hhead : nextHead lists = nextHead lists' := by
      rw [← nextHead_rows lists, h, nextHead_rows]
    have hadvance : ∀ a, rows (advance a lists) = rows (advance a lists') := fun a => by
      rw [← rows_advance a lists, h, rows_advance]
    have hleft : leftover lists = leftover lists' := by
      rw [← leftover_rows lists, h, leftover_rows]
    simp only [mergeWithin, hhead, fun a => ih (hadvance a), all_isEmpty, h, hleft]

theorem merge_congr {lists lists' : List (List α)} (h : rows lists = rows lists') :
    merge lists = merge lists' := by
  rw [merge, merge, ← flatten_rows lists, h, flatten_rows, mergeWithin_congr h]

end Linearization

/-! ## The order of a registry -/

/-- Along the order of a class no declared class has others behind its abstract bases. -/
def Store.Unmixed (s : Store) (c : Class) : Prop :=
  ∀ k, Class.declared k ∈ s.order c →
    (Registry.splitBases s (s.basesOf (.declared k))).1 = [] ∨
      (Registry.splitBases s (s.basesOf (.declared k))).2 = []

namespace Registry

variable {s : Store}

/-- Splitting the bases of a class takes none away. -/
theorem splitBases_append (s : Store) (bases : List Class) :
    (splitBases s bases).1 ++ (splitBases s bases).2 = bases := by
  dsimp only [splitBases]
  generalize hothers : bases.reverse.takeWhile (fun c => !s.isSubclass c Standard.abstractBase) =
    others
  obtain ⟨before, hbefore⟩ : ∃ before, before ++ others.reverse = bases := by
    refine ⟨(bases.reverse.dropWhile fun c => !s.isSubclass c Standard.abstractBase).reverse, ?_⟩
    rw [← hothers, ← List.reverse_append, List.takeWhile_append_dropWhile, List.reverse_reverse]
  rw [← hbefore, List.length_append, Nat.add_sub_cancel, List.take_left']
  rfl

/-- Without the interface an order is merged from those of the abstract bases and of the others. -/
theorem orderWithin_declared (s : Store) (depth k : Nat) :
    orderWithin s (depth + 1) false (.declared k) =
      let (abstract, others) := splitBases s (s.basesOf (.declared k))
      do
        let first ← abstract.mapM (orderWithin s depth false)
        let last ← others.mapM (orderWithin s depth false)
        let merged ← Linearization.merge (first ++ last ++ [abstract, [], others])
        return .declared k :: merged := by
  simp only [orderWithin, Bool.false_and, Bool.false_eq_true, if_false, List.map_nil,
    List.append_nil]
  rfl

/-- **A registry goes along the order of a class that is unmixed.** -/
theorem orderWithin_eq_order (hs : s.Ordered) {c : Class} (hc : s.Has c) (h : s.Unmixed c)
    {depth : Nat} (hdepth : c.Below depth) : orderWithin s depth false c = .ok (s.order c) := by
  refine hs.induction
    (motive := fun c => s.Unmixed c → ∀ depth, c.Below depth →
      orderWithin s depth false c = .ok (s.order c))
    (fun c _ depth _ => by cases depth <;> rfl)
    (fun k d hk hbelow ih hunmixed depth hdepth => ?_) hc h depth hdepth
  obtain ⟨depth, rfl⟩ := Nat.exists_eq_add_one.mpr (Nat.zero_lt_of_lt hdepth)
  have hbases : s.basesOf (.declared k) = d.bases := by rw [Store.basesOf, hk]; rfl
  have horder : s.order (.declared k) = d.order := by rw [Store.order, hk]; rfl
  obtain ⟨merged, hmerge, hd⟩ := Linearization.eq_cons_of_ofBases (hs.merged k d hk)
  have hsplit := hunmixed k (horder ▸ hd ▸ List.mem_cons_self)
  have hbase : ∀ b ∈ d.bases, orderWithin s depth false b = .ok (s.order b) := fun b hb =>
    ih b hb (fun j hj => hunmixed j (hs.mem_order_of_mem_order hk hb hj)) depth
      ((hbelow b hb).mono (Nat.le_of_lt_succ hdepth))
  have hall := splitBases_append s d.bases
  have hfirst := mapM_eq_ok fun b (hb : b ∈ (splitBases s d.bases).1) =>
    hbase b (mem_of_mem_splitBases (.inl hb))
  have hlast := mapM_eq_ok fun b (hb : b ∈ (splitBases s d.bases).2) =>
    hbase b (mem_of_mem_splitBases (.inr hb))
  rw [orderWithin_declared]
  rw [hbases] at hsplit ⊢
  generalize splitBases s d.bases = parts at hsplit hall hfirst hlast ⊢
  obtain ⟨abstract, others⟩ := parts
  dsimp only at hsplit hall hfirst hlast ⊢
  -- One part is empty, and empty lists make no difference.
  have hmerged : Linearization.merge
      (abstract.map s.order ++ others.map s.order ++ [abstract, [], others]) = .ok merged := by
    rw [← List.map_append, hall, ← hmerge]
    refine Linearization.merge_congr ?_
    rw [Linearization.rows_append, Linearization.rows_append]
    rcases hsplit with rfl | rfl
    · rw [List.nil_append] at hall
      rw [hall]
      rfl
    · rw [List.append_nil] at hall
      rw [hall]
      cases d.bases <;> rfl
  rw [hfirst, hlast, horder, hd]
  dsimp only [bind, Except.bind]
  rw [hmerged]
  rfl

/-- A registry dispatches a class to the nearest class along its order that has an entry. -/
def Nearest (r : Registry) (s : Store) (c : Class) : Prop :=
  r.dispatch s (.cls c) = .ok (r.firstOf (s.order c))

/-- A registry without an entry for the interface dispatches classes that are unmixed in this way.
-/
theorem nearest_of_unmixed (hs : s.Lineal) {r : Registry} {c : Class}
    (hc : s.isHashableClass c = true) (hr : r.get? Standard.wrapErr = none) (h : s.Unmixed c) :
    r.Nearest s c := by
  have hhas := Store.has_of_isHashableClass hc
  obtain ⟨rest, hrest⟩ := hs.ordered.order_eq_cons hhas
  rw [Nearest, dispatch, if_pos hc, dispatchClass]
  cases hown : r.get? c with
  | some own => rw [firstOf, hrest, List.findSome?_cons, hown]
  | none =>
    have horder := orderWithin_eq_order hs.ordered hhas h (hhas.mono (Nat.le_succ _))
    rw [dispatchOrder, hr, Option.isSome_none, Bool.false_and, Bool.false_and]
    dsimp only
    rw [horder]

end Registry
end FaultContext
