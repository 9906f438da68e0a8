/-
# FaultContext.Proofs.Traversal -- steps that may fail, one after the other.

What a sequence of steps ends with is told by what its parts end with: it succeeds if both of them
do, and it fails where the first of them fails.  The same for the members of a list: something is
made of all of them exactly if something is made of each (`mapM_eq_ok_iff`), and steps that are
taken in turn stop at the first one that fails (`foldlM_eq_error_iff`).
-/
import Mathlib.Data.List.Forall2

namespace FaultContext

variable {ε α β γ σ : Type}

/-! ## Checks in a row -/

section

variable {x : Except ε α} {f : α → Except ε β}

/-- A sequence succeeds if both of its parts do. -/
theorem except_bind_eq_ok {b : β} : (x >>= f) = .ok b ↔ ∃ a, x = .ok a ∧ f a = .ok b := by
  cases x with
  | error e =>
    constructor
    · intro h
      cases h
    · rintro ⟨_, ⟨⟩, _⟩
  | ok a =>
    constructor
    · intro h
      exact ⟨a, rfl, h⟩
    · rintro ⟨a, ⟨⟩, h⟩
      exact h

/-- A sequence fails if its first part does, or else its second part. -/
theorem except_bind_eq_error {e : ε} :
    (x >>= f) = .error e ↔ x = .error e ∨ ∃ a, x = .ok a ∧ f a = .error e := by
  cases x with
  | error e' => simp [bind, Except.bind]
  | ok a => simp [bind, Except.bind]

/-- A check that stands before something else. -/
theorem except_check_eq_ok {failed : Bool} {e : ε} {x : Except ε β} {b : β} :
    (if failed = true then (do (Except.error e : Except ε PUnit); x) else x) = .ok b ↔
      failed = false ∧ x = .ok b := by
  cases failed with
  | true =>
    constructor
    · intro h
      cases h
    · rintro ⟨⟨⟩, _⟩
  | false => exact ⟨fun h => ⟨rfl, h⟩, fun h => h.2⟩

theorem except_map_eq_ok {g : α → β} {b : β} : x.map g = .ok b ↔ ∃ a, x = .ok a ∧ b = g a := by
  cases x with
  | error e =>
    constructor
    · intro h
      cases h
    · rintro ⟨_, ⟨⟩, _⟩
  | ok a =>
    constructor
    · rintro ⟨⟩
      exact ⟨a, rfl, rfl⟩
    · rintro ⟨a, ⟨⟩, rfl⟩
      rfl

theorem except_map_ok_iff {g : α → β} : (∃ b, x.map g = .ok b) ↔ ∃ a, x = .ok a := by
  simp only [except_map_eq_ok]
  constructor
  · rintro ⟨_, a, ha, -⟩
    exact ⟨a, ha⟩
  · rintro ⟨a, ha⟩
    exact ⟨g a, a, ha, rfl⟩

end

/-! ## All members of a list -/

section

variable {f : α → Except ε β} {as : List α} {bs : List β}

/-- **What is made of the members of a list** is made of one of them after the other. -/
theorem mapM_eq_ok_iff : as.mapM f = .ok bs ↔ List.Forall₂ (fun a b => f a = .ok b) as bs := by
  induction as generalizing bs with
  | nil =>
    rw [List.forall₂_nil_left_iff]
    constructor
    · rintro ⟨⟩
      rfl
    · rintro rfl
      rfl
  | cons a rest ih =>
    simp only [List.mapM_cons, except_bind_eq_ok, List.forall₂_cons_left_iff, ← ih]
    constructor
    · rintro ⟨b, hb, others, hothers, ⟨⟩⟩
      exact ⟨b, others, hb, hothers, rfl⟩
    · rintro ⟨b, others, hb, hothers, rfl⟩
      exact ⟨b, hb, others, hothers, rfl⟩

theorem mapM_eq_ok {g : α → β} (h : ∀ a ∈ as, f a = .ok (g a)) : as.mapM f = .ok (as.map g) :=
  mapM_eq_ok_iff.mpr (List.forall₂_map_right_iff.mpr (List.forall₂_same.mpr h))

/-- What is done to each member of a list leaves what it leaves of each member. -/
theorem map_of_mapM {g : β → γ} {k : α → γ} (h : ∀ a b, f a = .ok b → g b = k a)
    (hm : as.mapM f = .ok bs) : bs.map g = as.map k := by
  have hsame : List.Forall₂ (fun a b => k a = g b) as bs :=
    (mapM_eq_ok_iff.mp hm).imp fun a b hb => (h a b hb).symm
  have hequal : List.Forall₂ (· = ·) (as.map k) (bs.map g) :=
    List.forall₂_map_left_iff.mpr (List.forall₂_map_right_iff.mpr hsame)
  rw [List.forall₂_eq_eq_eq] at hequal
  exact hequal.symm

/-- What is made of all members of a list is made of one of them. -/
theorem exists_of_mem_mapM (h : as.mapM f = .ok bs) {b : β} (hb : b ∈ bs) :
    ∃ a ∈ as, f a = .ok b := by
  induction mapM_eq_ok_iff.mp h with
  | nil => cases hb
  | @cons a first rest others hfirst hothers ih =>
    rcases List.mem_cons.mp hb with rfl | hb
    · exact ⟨a, List.mem_cons_self, hfirst⟩
    · obtain ⟨a', ha', hmade⟩ := ih (mapM_eq_ok_iff.mpr hothers) hb
      exact ⟨a', List.mem_cons_of_mem _ ha', hmade⟩

/-- Something can be done to all members of a list if it can be done to each. -/
theorem mapM_ok_iff : (∃ bs, as.mapM f = .ok bs) ↔ ∀ a ∈ as, ∃ b, f a = .ok b := by
  simp only [mapM_eq_ok_iff]
  induction as with
  | nil => exact ⟨fun _ _ ha => absurd ha List.not_mem_nil, fun _ => ⟨[], .nil⟩⟩
  | cons a rest ih =>
    rw [List.forall_mem_cons, ← ih]
    constructor
    · rintro ⟨_, _ | ⟨hb, hothers⟩⟩
      exact ⟨⟨_, hb⟩, _, hothers⟩
    · rintro ⟨⟨b, hb⟩, others, hothers⟩
      exact ⟨b :: others, .cons hb hothers⟩

theorem mapM_congr_of_mem {g : α → Except ε β} (h : ∀ a ∈ as, f a = g a) :
    as.mapM f = as.mapM g := by
  induction as with
  | nil => rfl
  | cons a rest ih =>
    obtain ⟨ha, hrest⟩ := List.forall_mem_cons.mp h
    rw [List.mapM_cons, List.mapM_cons, ha, ih hrest]

/-- If it fails, it fails for one of the members. -/
theorem exists_of_mapM_eq_error {e : ε} (h : as.mapM f = .error e) : ∃ a ∈ as, f a = .error e := by
  induction as with
  | nil => cases h
  | cons a rest ih =>
    rw [List.mapM_cons] at h
    rcases except_bind_eq_error.mp h with ha | ⟨b, -, h⟩
    · exact ⟨a, List.mem_cons_self, ha⟩
    · rcases except_bind_eq_error.mp h with hrest | ⟨others, -, h⟩
      · obtain ⟨a', ha', hfault⟩ := ih hrest
        exact ⟨a', List.mem_cons_of_mem _ ha', hfault⟩
      · cases h

/-- Steps taken in turn stop at the first one that fails. -/
theorem foldlM_eq_error_iff {f : σ → α → Except ε σ} {u : σ} {e : ε} :
    as.foldlM f u = .error e ↔ ∃ before a after reached,
      as = before ++ a :: after ∧ before.foldlM f u = .ok reached ∧ f reached a = .error e := by
  induction as generalizing u with
  | nil =>
    refine iff_of_false (by rintro ⟨⟩) ?_
    rintro ⟨before, a, after, _, hsplit, -⟩
    cases before <;> cases hsplit
  | cons first rest ih =>
    rw [List.foldlM_cons, except_bind_eq_error]
    constructor
    · rintro (hfirst | ⟨next, hfirst, hrest⟩)
      · exact ⟨[], first, rest, u, rfl, rfl, hfirst⟩
      · obtain ⟨before, a, after, reached, rfl, hbefore, ha⟩ := ih.mp hrest
        refine ⟨first :: before, a, after, reached, rfl, ?_, ha⟩
        rw [List.foldlM_cons, hfirst]
        exact hbefore
    · rintro ⟨before, a, after, reached, hsplit, hbefore, ha⟩
      cases before with
      | nil =>
        cases hsplit
        cases hbefore
        exact .inl ha
      | cons head before =>
        cases hsplit
        obtain ⟨next, hfirst, hbefore⟩ := except_bind_eq_ok.mp hbefore
        exact .inr ⟨next, hfirst, ih.mpr ⟨before, a, after, reached, rfl, hbefore, ha⟩⟩

end

end FaultContext
