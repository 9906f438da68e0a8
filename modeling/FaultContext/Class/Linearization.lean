/-
# FaultContext.Class.Linearization -- one order out of several.

A class looks for members along one list that respects the orders of all its bases and the order in
which the bases are written.  The list is built by repeatedly taking the first head that stands in
no tail.  Where no head qualifies the orders contradict one another, and the heads that are left
over say where.
-/

namespace FaultContext.Linearization

variable {α : Type} [DecidableEq α]

/-- Whether something stands in one of the lists behind its head. -/
def inTail (lists : List (List α)) (a : α) : Bool :=
  lists.any fun l => l.tail.contains a

/-- The first head that stands in no tail. -/
def nextHead (lists : List (List α)) : Option α :=
  lists.findSome? fun
    | a :: _ => if inTail lists a then none else some a
    | [] => none

/-- Takes something off every list that begins with it. -/
def advance (a : α) (lists : List (List α)) : List (List α) :=
  lists.map fun
    | b :: rest => if b = a then rest else b :: rest
    | [] => []

/-- The heads of the lists, each once, in the order of the lists. -/
def leftover (lists : List (List α)) : List α :=
  (lists.filterMap List.head?).foldl
    (fun seen a => if seen.contains a then seen else seen ++ [a]) []

/-- Merges the lists in at most `steps` steps; a failure names the heads that block one another. -/
def mergeWithin (lists : List (List α)) : Nat → Except (List α) (List α)
  | 0 => .ok []
  | steps + 1 =>
    match nextHead lists with
    | some a => (mergeWithin (advance a lists) steps).map (a :: ·)
    | none => if lists.all List.isEmpty then .ok [] else .error (leftover lists)

/-- Merges the lists into one.  Every step takes at least one head away, so the number of elements
bounds the number of steps. -/
def merge (lists : List (List α)) : Except (List α) (List α) :=
  mergeWithin lists (lists.flatten.length + 1)

/-- The order of a class with the given bases and the orders of these bases. -/
def ofBases (self : α) (orders : List (List α)) (bases : List α) : Except (List α) (List α) :=
  (merge (orders ++ [bases])).map (self :: ·)

/-! ## Nothing is left out -/

theorem mem_of_nextHead {lists : List (List α)} {a : α} (h : nextHead lists = some a) :
    ∃ rest, a :: rest ∈ lists := by
  obtain ⟨l, hl, hhead⟩ := List.exists_of_findSome?_eq_some h
  cases l with
  | nil => cases hhead
  | cons b rest =>
    dsimp only at hhead
    split at hhead
    · cases hhead
    · cases hhead
      exact ⟨rest, hl⟩

/-- Taking something off leaves everything else. -/
theorem mem_advance {lists : List (List α)} {a b : α} {l : List α} (hl : l ∈ lists) (hb : b ∈ l)
    (hne : b ≠ a) : ∃ l' ∈ advance a lists, b ∈ l' := by
  refine ⟨_, List.mem_map_of_mem hl, ?_⟩
  cases l with
  | nil => cases hb
  | cons c rest =>
    dsimp only
    split
    next heq =>
      subst heq
      exact (List.mem_cons.mp hb).resolve_left hne
    next => exact hb

theorem length_advance_le (a : α) (lists : List (List α)) :
    (advance a lists).flatten.length ≤ lists.flatten.length := by
  induction lists with
  | nil => exact Nat.le_refl _
  | cons l lists ih =>
    have hl : (match l with
        | b :: rest => if b = a then rest else b :: rest
        | [] => []).length ≤ l.length := by
      cases l with
      | nil => exact Nat.le_refl _
      | cons b rest =>
        dsimp only
        split
        · exact Nat.le_succ _
        · exact Nat.le_refl _
    simp only [advance, List.map_cons, List.flatten_cons, List.length_append] at ih ⊢
    exact Nat.add_le_add hl ih

theorem length_advance_lt {a : α} {rest : List α} {lists : List (List α)} (h : a :: rest ∈ lists) :
    (advance a lists).flatten.length < lists.flatten.length := by
  obtain ⟨before, after, rfl⟩ := List.append_of_mem h
  have hbefore := length_advance_le a before
  have hafter := length_advance_le a after
  simp only [advance, List.map_append, List.map_cons, List.flatten_append, List.flatten_cons,
    List.length_append, if_true, List.length_cons] at hbefore hafter ⊢
  omega

theorem mem_mergeWithin {lists : List (List α)} {steps : Nat} {merged : List α}
    (h : mergeWithin lists steps = .ok merged) (hsteps : lists.flatten.length < steps)
    {l : List α} {b : α} (hl : l ∈ lists) (hb : b ∈ l) : b ∈ merged := by
  induction steps generalizing lists merged l with
  | zero => cases hsteps
  | succ steps ih =>
    unfold mergeWithin at h
    split at h
    next a ha =>
      obtain ⟨rest, hrest⟩ := mem_of_nextHead ha
      cases hmerge : mergeWithin (advance a lists) steps with
      | error heads => rw [hmerge] at h; cases h
      | ok others =>
        rw [hmerge] at h
        cases h
        by_cases hne : b = a
        · exact hne ▸ List.mem_cons_self
        · obtain ⟨l', hl', hb'⟩ := mem_advance hl hb hne
          have hshorter := length_advance_lt hrest
          exact List.mem_cons_of_mem _ (ih hmerge (by omega) hl' hb')
    next =>
      split at h
      next hempty =>
        have := List.isEmpty_iff.mp (List.all_eq_true.mp hempty l hl)
        subst this
        cases hb
      next => cases h

/-! ## Nothing is added -/

theorem mem_of_mem_advance {lists : List (List α)} {a b : α} {l : List α}
    (hl : l ∈ advance a lists) (hb : b ∈ l) : ∃ l' ∈ lists, b ∈ l' := by
  obtain ⟨l', hl', rfl⟩ := List.mem_map.mp hl
  refine ⟨l', hl', ?_⟩
  cases l' with
  | nil => exact hb
  | cons c rest =>
    dsimp only at hb
    split at hb
    · exact List.mem_cons_of_mem _ hb
    · exact hb

theorem mem_of_mem_mergeWithin {lists : List (List α)} {steps : Nat} {merged : List α}
    (h : mergeWithin lists steps = .ok merged) {b : α} (hb : b ∈ merged) :
    ∃ l ∈ lists, b ∈ l := by
  induction steps generalizing lists merged with
  | zero => cases h; cases hb
  | succ steps ih =>
    unfold mergeWithin at h
    split at h
    next a ha =>
      cases hmerge : mergeWithin (advance a lists) steps with
      | error heads => rw [hmerge] at h; cases h
      | ok others =>
        rw [hmerge] at h
        cases h
        rcases List.mem_cons.mp hb with rfl | hb
        · obtain ⟨rest, hrest⟩ := mem_of_nextHead ha
          exact ⟨_, hrest, List.mem_cons_self⟩
        · obtain ⟨l, hl, hbl⟩ := ih hmerge hb
          exact mem_of_mem_advance hl hbl
    next =>
      split at h
      · cases h; cases hb
      · cases h

/-- The order of a class begins with the class itself. -/
theorem eq_cons_of_ofBases {self : α} {orders : List (List α)} {bases order : List α}
    (h : ofBases self orders bases = .ok order) :
    ∃ merged, merge (orders ++ [bases]) = .ok merged ∧ order = self :: merged := by
  cases hmerge : merge (orders ++ [bases]) with
  | error heads => rw [ofBases, hmerge] at h; cases h
  | ok merged =>
    rw [ofBases, hmerge] at h
    cases h
    exact ⟨merged, rfl, rfl⟩

/-- A class goes through itself, its bases, and what these go through. -/
theorem mem_of_mem_ofBases {self : α} {orders : List (List α)} {bases order : List α}
    (h : ofBases self orders bases = .ok order) {b : α} (hb : b ∈ order) :
    b = self ∨ (∃ l ∈ orders, b ∈ l) ∨ b ∈ bases := by
  obtain ⟨merged, hmerge, rfl⟩ := eq_cons_of_ofBases h
  rcases List.mem_cons.mp hb with rfl | hb
  · exact .inl rfl
  · obtain ⟨l, hl, hbl⟩ := mem_of_mem_mergeWithin hmerge hb
    rcases List.mem_append.mp hl with hl | hl
    · exact .inr (.inl ⟨l, hl, hbl⟩)
    · exact .inr (.inr (List.mem_singleton.mp hl ▸ hbl))

/-- A class goes through everything that its bases go through. -/
theorem mem_ofBases {self : α} {orders : List (List α)} {bases order : List α}
    (h : ofBases self orders bases = .ok order) {l : List α} {b : α} (hl : l ∈ orders)
    (hb : b ∈ l) : b ∈ order := by
  obtain ⟨merged, hmerge, rfl⟩ := eq_cons_of_ofBases h
  exact List.mem_cons_of_mem _
    (mem_mergeWithin hmerge (Nat.lt_succ_self _) (List.mem_append_left _ hl) hb)

end FaultContext.Linearization
