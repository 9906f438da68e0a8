/-
# FaultContext.Proofs.FailureTypes -- the class that a type hint names as a failure.

A type hint is made of names, subscripts and bars (`Hint`).  However these are nested, a union that
comes out of them has no union among its members, and no two of its members are the same failure
(`Flat`).  So a hint is known by its alternatives, and the question which class it names is one
about these.

The answer passes over failures that name no class: the class of failures without a payload, and a
failure whose payload is a type variable, a name to be resolved later or a type made of others.
Beside them another failure decides, and the answer is its payload although the hint leaves open
what else a failure may carry.
-/
import FaultContext.Proofs.Traversal
import FaultContext.TypeHint.Query
import Mathlib.Data.List.Nodup

namespace FaultContext.TypeHint

/-! ## Alternatives -/

/-- A failure with a class as its payload. -/
def failureOf (P : Class) : Value := .generic Standard.err [.cls P]

/-- Whether an alternative is a failure, with or without a payload. -/
def isFailure : Value → Bool
  | .cls (.standard .err) | .generic (.standard .err) _ => true
  | _ => false

/-- The class that an alternative names as the payload of a failure. -/
def named? : Value → Option Class
  | .generic (.standard .err) [.cls payload] => some payload
  | _ => none

/-- Whether an alternative is a failure that names no class. -/
def isVague (v : Value) : Bool := isFailure v && (named? v).isNone

/-- There are failures among some alternatives, and all of them have one class as their payload. -/
structure PinsDown (alternatives : List Value) (P : Class) : Prop where
  some : ∃ a ∈ alternatives, isFailure a
  all : ∀ a ∈ alternatives, isFailure a → a = failureOf P

theorem named?_eq_some_iff {v : Value} {P : Class} : named? v = some P ↔ v = failureOf P := by
  constructor
  · intro h
    unfold named? at h
    split at h
    · cases h
      rfl
    · cases h
  · rintro rfl
    rfl

theorem isFailure_of_named? {v : Value} {P : Class} (h : named? v = some P) : isFailure v := by
  rw [named?_eq_some_iff.mp h]
  rfl

/-- Alternatives without vague failures pin down the class that they name, if it is one only. -/
theorem pinsDown_filter_iff {alternatives : List Value} {P : Class} :
    PinsDown (alternatives.filter (!isVague ·)) P ↔
      P ∈ alternatives.filterMap named? ∧ ∀ Q ∈ alternatives.filterMap named?, Q = P := by
  simp only [List.mem_filterMap, forall_exists_index, and_imp]
  constructor
  · rintro ⟨⟨a, ha, hfailure⟩, hall⟩
    have hP := named?_eq_some_iff.mpr (hall a ha hfailure)
    refine ⟨⟨a, (List.mem_filter.mp ha).1, hP⟩, fun Q b hb hQ => ?_⟩
    have hkept : b ∈ alternatives.filter (!isVague ·) :=
      List.mem_filter.mpr ⟨hb, by simp [isVague, hQ]⟩
    have heq := hall b hkept (isFailure_of_named? hQ)
    exact Option.some.inj (hQ.symm.trans (named?_eq_some_iff.mpr heq))
  · rintro ⟨⟨a, ha, hP⟩, hall⟩
    refine ⟨⟨a, List.mem_filter.mpr ⟨ha, by simp [isVague, hP]⟩, isFailure_of_named? hP⟩, ?_⟩
    intro b hb hfailure
    obtain ⟨hmem, hclear⟩ := List.mem_filter.mp hb
    -- A failure that is not vague names a class.
    obtain ⟨Q, hQ⟩ := Option.isSome_iff_exists.mp (by simpa [isVague, hfailure] using hclear)
    rw [← hall Q b hmem hQ]
    exact named?_eq_some_iff.mp hQ

/-! ## Flat types -/

/-- Whether a value is a type, or a mark that stands for one in a subscript, and no union. -/
def isAtomic : Value → Bool
  | .none | .str .. | .ellipsis | .cls _ | .generic .. | .typing .. | .classAlias ..
  | .spreadAlias .. | .unpacked _ | .typeVar _ | .forward _ | .bare _ => true
  | _ => false

/-- A type of which no alternative is a union, and which names every class once at most. -/
structure Flat (v : Value) : Prop where
  atomic : ∀ a ∈ flatten v, isAtomic a
  once : ((flatten v).filterMap named?).Nodup

variable {s : Store} {v r : Value}

theorem flatten_of_atomic (h : isAtomic v) : flatten v = [v] := by
  cases v with
  | union => cases h
  | unionType => cases h
  | _ => rfl

theorem Flat.of_atomic (h : isAtomic v) : Flat v := by
  have hflatten := flatten_of_atomic h
  constructor
  · rw [hflatten]
    exact List.forall_mem_singleton.mpr h
  · rw [hflatten]
    cases hv : named? v <;> simp [hv]

/-- A flat type is a union, or it is its only alternative. -/
theorem Flat.cases (h : Flat v) :
    (∃ members, v = .union members ∨ v = .unionType members) ∨ isAtomic v := by
  cases v with
  | union members => exact .inl ⟨members, .inl rfl⟩
  | unionType members => exact .inl ⟨members, .inr rfl⟩
  | _ => exact .inr (h.atomic _ (List.mem_singleton_self _))

/-! ## Repetitions -/

/-- Values that are left are from the list, and none of them is found among those before it. -/
theorem foldl_distinct (s : Store) (members : List Value) {seen : List Value}
    (hseen : seen.Pairwise fun a b => s.agree b a = false) :
    let kept := members.foldl (fun seen v => if s.isAmong v seen then seen else seen ++ [v]) seen
    (∀ a ∈ kept, a ∈ seen ∨ a ∈ members) ∧ kept.Pairwise fun a b => s.agree b a = false := by
  induction members generalizing seen with
  | nil => exact ⟨fun a ha => .inl ha, hseen⟩
  | cons v rest ih =>
    rw [List.foldl_cons]
    split
    next =>
      obtain ⟨hmem, hkept⟩ := ih hseen
      exact ⟨fun a ha => (hmem a ha).imp_right (List.mem_cons_of_mem _), hkept⟩
    next hnew =>
      have hlonger : (seen ++ [v]).Pairwise fun a b => s.agree b a = false := by
        refine List.pairwise_append.mpr ⟨hseen, List.pairwise_singleton _ _, fun a ha b hb => ?_⟩
        cases List.mem_singleton.mp hb
        simp only [Store.isAmong, List.any_eq_true, not_exists, not_and] at hnew
        exact Bool.eq_false_iff.mpr (hnew a ha)
      obtain ⟨hmem, hkept⟩ := ih hlonger
      refine ⟨fun a ha => ?_, hkept⟩
      rcases hmem a ha with hold | hrest
      · rcases List.mem_append.mp hold with hold | hlast
        · exact .inl hold
        · cases List.mem_singleton.mp hlast
          exact .inr List.mem_cons_self
      · exact .inr (List.mem_cons_of_mem _ hrest)

theorem mem_of_mem_distinct {members : List Value} {a : Value} (h : a ∈ distinct s members) :
    a ∈ members :=
  ((foldl_distinct s members .nil).1 a h).resolve_left List.not_mem_nil

/-- Without repetitions, every class is named once at most. -/
theorem nodup_distinct (s : Store) (members : List Value) :
    ((distinct s members).filterMap named?).Nodup := by
  refine List.Pairwise.filterMap named? ?_ (foldl_distinct s members .nil).2
  rintro a b hdifferent P hP Q hQ rfl
  have hsame : (failureOf P).same (failureOf P) = ((P == P) && true) := rfl
  rw [named?_eq_some_iff.mp hP, named?_eq_some_iff.mp hQ, Store.agree, hsame] at hdifferent
  simp at hdifferent

/-- Alternatives without repetition make a flat union. -/
theorem Flat.of_distinct {members : List Value} (h : ∀ a ∈ members, isAtomic a) :
    Flat (.union (distinct s members)) ∧ Flat (.unionType (distinct s members)) ∧
      ∀ one, distinct s members = [one] → Flat one := by
  have hatomic : ∀ a ∈ distinct s members, isAtomic a := fun a ha => h a (mem_of_mem_distinct ha)
  refine ⟨⟨hatomic, nodup_distinct s members⟩, ⟨hatomic, nodup_distinct s members⟩, ?_⟩
  intro one hone
  exact .of_atomic (hatomic one (by rw [hone]; exact List.mem_singleton_self _))

/-! ## Making types -/

/-- What stands for a value where a type is expected is the value itself, or no union. -/
theorem eq_or_atomic_of_convert (h : convert v = .ok r) : r = v ∨ isAtomic r := by
  cases v with
  | none =>
    cases h
    exact .inr rfl
  | str i source =>
    obtain ⟨_, -, ⟨⟩⟩ := except_bind_eq_ok.mp h
    exact .inr rfl
  | _ =>
    cases h
    exact .inl rfl

/-- A check of an argument leaves what the argument stands for. -/
theorem convert_of_checked {complaint : String} (h : checked s complaint v = .ok r) :
    convert v = .ok r := by
  obtain ⟨converted, hconvert, h⟩ := except_bind_eq_ok.mp h
  rw [hconvert]
  split at h
  · exact h
  · cases h
  · cases h
  · obtain ⟨_, -, ⟨⟩⟩ := except_bind_eq_ok.mp h
  · exact h

theorem Flat.convert (hv : Flat v) (h : TypeHint.convert v = .ok r) : Flat r := by
  rcases eq_or_atomic_of_convert h with rfl | hatomic
  · exact hv
  · exact .of_atomic hatomic

theorem Flat.checked {complaint : String} (hv : Flat v)
    (h : TypeHint.checked s complaint v = .ok r) : Flat r :=
  hv.convert (convert_of_checked h)

/-- A union of flat types is flat. -/
theorem Flat.unionOf {args : List Value} (hargs : ∀ a ∈ args, Flat a)
    (h : TypeHint.unionOf s args = .ok r) : Flat r := by
  rw [TypeHint.unionOf] at h
  split at h
  · cases h
  obtain ⟨types, htypes, h⟩ := except_bind_eq_ok.mp h
  have hatomic : ∀ a ∈ types.flatMap flatten, isAtomic a := by
    intro a ha
    obtain ⟨type, htype, ha⟩ := List.mem_flatMap.mp ha
    obtain ⟨arg, harg, hchecked⟩ := exists_of_mem_mapM htypes htype
    exact ((hargs arg harg).checked hchecked).atomic a ha
  obtain ⟨hunion, -, hone⟩ := Flat.of_distinct (s := s) hatomic
  rw [unionOfChecked] at h
  split at h
  · cases h
  · split at h
    next one heq =>
      cases h
      exact hone _ heq
    next =>
      cases h
      exact hunion

/-- Two flat types joined by a bar make a flat one. -/
theorem Flat.join {a b : Value} (ha : Flat a) (hb : Flat b) (h : TypeHint.join s a b = .ok r) :
    Flat r := by
  rw [TypeHint.join] at h
  split at h
  · exact .unionOf (by simp [ha, hb]) h
  · split at h
    · obtain ⟨a', ha', h⟩ := except_bind_eq_ok.mp h
      obtain ⟨b', hb', h⟩ := except_bind_eq_ok.mp h
      have hatomic : ∀ c ∈ flatten a' ++ flatten b', isAtomic c := fun c hc =>
        (List.mem_append.mp hc).elim ((ha.convert ha').atomic c) ((hb.convert hb').atomic c)
      obtain ⟨-, hunion, hone⟩ := Flat.of_distinct (s := s) hatomic
      split at h
      next one heq =>
        cases h
        exact hone _ heq
      next =>
        cases h
        exact hunion
    · cases h

/-- No type is a number, a set or a table. -/
theorem Flat.bar {a b : Value} (ha : Flat a) (hb : Flat b) (h : TypeHint.bar s a b = .ok r) :
    Flat r := by
  have hjoin : TypeHint.bar s a b = TypeHint.join s a b := by
    rcases ha.cases with ⟨members, rfl | rfl⟩ | hatomic
    · rfl
    · rfl
    · cases a with
      | none | str | ellipsis | cls | generic | typing | classAlias | spreadAlias | unpacked
      | typeVar | forward | bare => rfl
      | _ => cases hatomic
  exact ha.join hb (hjoin.symm.trans h)

theorem Flat.joinAll {members : List Value} (hmembers : ∀ a ∈ members, Flat a)
    (h : TypeHint.joinAll s members = .ok r) : Flat r := by
  cases members with
  | nil =>
    cases h
    exact .of_atomic rfl
  | cons a rest =>
    obtain ⟨ha, hrest⟩ := List.forall_mem_cons.mp hmembers
    rw [TypeHint.joinAll] at h
    induction rest generalizing a with
    | nil =>
      cases h
      exact ha
    | cons b rest ih =>
      obtain ⟨hb, hrest⟩ := List.forall_mem_cons.mp hrest
      obtain ⟨joined, hjoined, h⟩ := except_bind_eq_ok.mp h
      have hflat := ha.bar hb hjoined
      exact ih joined (List.forall_mem_cons.mpr ⟨hflat, hrest⟩) h hflat hrest

/-- What stands for a type that is no union when its type variables are replaced. -/
theorem Flat.substitute_atomic {given : Named} (hgiven : ∀ p ∈ given, Flat p.2) (hv : isAtomic v)
    (h : TypeHint.substitute s given v = .ok r) : Flat r := by
  cases v with
  | typeVar name =>
    rw [TypeHint.substitute] at h
    split at h
    next found hfound =>
      obtain ⟨before, behind, rfl, -⟩ := List.lookup_eq_some_iff.mp hfound
      exact (hgiven (name, found) (by simp)).checked h
    next =>
      cases h
      exact .of_atomic rfl
  | generic | typing | classAlias =>
    rw [TypeHint.substitute] at h
    obtain ⟨_, -, ⟨⟩⟩ := except_bind_eq_ok.mp h
    exact .of_atomic rfl
  | none | str | ellipsis | cls | spreadAlias | unpacked | forward | bare =>
    cases h
    exact .of_atomic rfl
  | _ => cases hv

theorem mem_substituteAll {given : Named} {members types : List Value}
    (h : substituteAll s given members = .ok types) :
    ∀ type ∈ types, ∃ m ∈ members, substitute s given m = .ok type := by
  induction members generalizing types with
  | nil =>
    cases h
    exact fun _ htype => absurd htype List.not_mem_nil
  | cons m rest ih =>
    rw [substituteAll] at h
    obtain ⟨first, hfirst, h⟩ := except_bind_eq_ok.mp h
    obtain ⟨others, hothers, ⟨⟩⟩ := except_bind_eq_ok.mp h
    intro type htype
    rcases List.mem_cons.mp htype with rfl | htype
    · exact ⟨m, List.mem_cons_self, hfirst⟩
    · obtain ⟨m', hm', hmade⟩ := ih hothers type htype
      exact ⟨m', List.mem_cons_of_mem _ hm', hmade⟩

/-- What a flat type is when its type variables are replaced by flat types. -/
theorem Flat.substitute {given : Named} (hgiven : ∀ p ∈ given, Flat p.2) (hv : Flat v)
    (h : TypeHint.substitute s given v = .ok r) : Flat r := by
  rcases hv.cases with ⟨members, rfl | rfl⟩ | hatomic
  · rw [TypeHint.substitute] at h
    obtain ⟨types, htypes, h⟩ := except_bind_eq_ok.mp h
    refine .unionOf (fun type htype => ?_) h
    obtain ⟨m, hm, hmade⟩ := mem_substituteAll htypes type htype
    exact .substitute_atomic hgiven (hv.atomic m hm) hmade
  · rw [TypeHint.substitute] at h
    obtain ⟨types, htypes, h⟩ := except_bind_eq_ok.mp h
    refine .joinAll (fun type htype => ?_) h
    obtain ⟨m, hm, hmade⟩ := mem_substituteAll htypes type htype
    exact .substitute_atomic hgiven (hv.atomic m hm) hmade
  · exact .substitute_atomic hgiven hatomic h

/-- The types that stand in brackets. -/
def keyTypes : Value → List Value
  | .tuple _ items => items
  | key => [key]

theorem Flat.applyOpen {args : List Value} (hv : Flat v) (hargs : ∀ a ∈ args, Flat a)
    (h : TypeHint.applyOpen s v args = .ok r) : Flat r := by
  rw [TypeHint.applyOpen] at h
  obtain ⟨shown, -, h⟩ := except_bind_eq_ok.mp h
  split at h
  · cases h
  obtain ⟨types, htypes, h⟩ := except_bind_eq_ok.mp h
  obtain ⟨-, -, h⟩ := except_bind_eq_ok.mp h
  refine hv.substitute (fun p hp => ?_) h
  obtain ⟨arg, harg, hmade⟩ := exists_of_mem_mapM htypes (List.of_mem_zip hp).2
  exact (hargs arg harg).convert hmade

theorem atomic_of_applyClass {c : Class} {args : List Value}
    (h : applyClass s c args = .ok r) : isAtomic r := by
  rw [applyClass] at h
  split at h
  · obtain ⟨types, -, h⟩ := except_bind_eq_ok.mp h
    obtain ⟨-, -, ⟨⟩⟩ := except_bind_eq_ok.mp h
    rfl
  · split at h
    · cases h
    · split at h
      · cases h
        rfl
      · cases h

theorem atomic_of_applyHead {head : TypingHead} {args : List Value}
    (h : applyHead s head args = .ok r) : isAtomic r := by
  rw [applyHead] at h
  split at h
  · obtain ⟨types, -, h⟩ := except_bind_eq_ok.mp h
    obtain ⟨-, -, ⟨⟩⟩ := except_bind_eq_ok.mp h
    rfl
  · obtain ⟨types, -, ⟨⟩⟩ := except_bind_eq_ok.mp h
    rfl

theorem mem_of_nth {kind : String} {items : List Value} {n : Int}
    (h : Store.nth kind items n = .ok r) : r ∈ items := by
  rw [Store.nth] at h
  split at h
  · cases h
  · split at h
    · split at h
      next hfound =>
        cases h
        exact List.mem_of_getElem? hfound
      next => cases h
    · cases h

/-- The only types with items are texts, and these are texts again. -/
theorem atomic_of_item {key : Value} (hv : isAtomic v) (h : s.item v key = .ok r) :
    isAtomic r := by
  cases v with
  | str i text =>
    cases key with
    | slice _ first last step =>
      obtain ⟨part, -, ⟨⟩⟩ := except_bind_eq_ok.mp h
      rfl
    | int | bool =>
      obtain ⟨c, -, rfl⟩ := List.mem_map.mp (mem_of_nth h)
      rfl
    | _ => cases h
  | none | ellipsis | cls | generic | typing | classAlias | spreadAlias | unpacked
  | typeVar | forward | bare => cases h
  | _ => cases hv

/-- A flat type applied to flat types is flat. -/
theorem Flat.subscript {key : Value} (hv : Flat v) (hkey : ∀ a ∈ keyTypes key, Flat a)
    (h : TypeHint.subscript s v key = .ok r) : Flat r := by
  unfold TypeHint.subscript at h
  dsimp only at h
  split at h
  next => exact .unionOf hkey h
  next =>
    obtain ⟨type, htype, h⟩ := except_bind_eq_ok.mp h
    -- A tuple is no type, so the key is what stands in the brackets.
    have hflat : Flat type := by
      refine Flat.checked ?_ htype
      cases key with
      | tuple i items =>
        obtain ⟨converted, ⟨⟩, hshown⟩ := except_bind_eq_ok.mp htype
        obtain ⟨_, -, ⟨⟩⟩ := except_bind_eq_ok.mp hshown
      | _ => exact hkey _ (List.mem_singleton_self _)
    refine .unionOf (List.forall_mem_cons.mpr ⟨hflat, ?_⟩) h
    exact List.forall_mem_singleton.mpr (.of_atomic rfl)
  next =>
    obtain ⟨type, -, ⟨⟩⟩ := except_bind_eq_ok.mp h
    exact .of_atomic rfl
  next => exact .of_atomic (atomic_of_applyHead h)
  next => exact .of_atomic (atomic_of_applyClass h)
  iterate 7 next => exact hv.applyOpen hkey h
  next hunion _ _ _ hunionType =>
    rcases hv.cases with ⟨members, rfl | rfl⟩ | hatomic
    · exact absurd rfl (hunion members)
    · exact absurd rfl (hunionType members)
    · exact .of_atomic (atomic_of_item hatomic h)

/-! ## Hints -/

/-- Types that a program writes: names and texts, and what subscripts and bars make of types. -/
inductive Hint : Value → Prop
  | none : Hint .none
  | cls (c : Class) : Hint (.cls c)
  | typeVar (name : String) : Hint (.typeVar name)
  | forward (source : String) : Hint (.forward source)
  | text (i : Identity) (source : String) : Hint (.str i source)
  | bare (form : BareForm) : Hint (.bare form)
  | ellipsis : Hint .ellipsis
  | openResult : Hint openResult
  | subscript {s : Store} {v key r : Value} : Hint v → (∀ a ∈ keyTypes key, Hint a) →
    TypeHint.subscript s v key = .ok r → Hint r
  | bar {s : Store} {a b r : Value} : Hint a → Hint b → TypeHint.bar s a b = .ok r → Hint r

/-- Hints are flat. -/
theorem Hint.flat (h : Hint v) : Flat v := by
  induction h with
  | openResult => exact ⟨by decide, by decide⟩
  | subscript _ _ hmade hv hkey => exact hv.subscript hkey hmade
  | bar _ _ hmade ha hb => exact ha.bar hb hmade
  | _ => exact .of_atomic rfl

/-! ## The class that is named -/

theorem failureType_of_atomic (h : isAtomic v) : failureType v = named? v := by
  unfold failureType named?
  split <;> simp_all [isAtomic]

theorem failureTypes_of_atomic (members : List Value) (h : ∀ a ∈ members, isAtomic a) :
    failureTypes members = members.filterMap named? := by
  induction members with
  | nil => rfl
  | cons a rest ih =>
    obtain ⟨ha, hrest⟩ := List.forall_mem_cons.mp h
    rw [failureTypes, failureType_of_atomic ha, ih hrest]
    cases hnamed : named? a <;> simp [hnamed]

theorem single?_eq_some_iff {α : Type} {as : List α} (h : as.Nodup) {a : α} :
    single? as = some a ↔ a ∈ as ∧ ∀ b ∈ as, b = a := by
  match as, h with
  | [], _ => simp [single?]
  | [b], _ => simp [single?, eq_comm]
  | b :: c :: rest, h =>
    have hdifferent : b ≠ c := (List.nodup_cons.mp h).1 ∘ fun heq => heq ▸ List.mem_cons_self
    refine ⟨nofun, fun ⟨_, hall⟩ => absurd ?_ hdifferent⟩
    exact (hall b (by simp)).trans (hall c (by simp)).symm

/-- A flat type names a class if its alternatives name it and no other one. -/
theorem Flat.failureType_eq_some_iff (h : Flat v) {P : Class} :
    failureType v = some P ↔
      P ∈ (flatten v).filterMap named? ∧ ∀ Q ∈ (flatten v).filterMap named?, Q = P := by
  rw [← single?_eq_some_iff h.once]
  rcases h.cases with ⟨members, rfl | rfl⟩ | hatomic
  · rw [failureType, failureTypes_of_atomic members h.atomic, flatten]
  · rw [failureType, failureTypes_of_atomic members h.atomic, flatten]
  · rw [failureType_of_atomic hatomic, flatten_of_atomic hatomic]
    cases hv : named? v <;> simp [hv, single?]

/-- **The class that a hint names.**  A hint names a class exactly if its alternatives, without the
failures that name no class themselves, pin down this class.  So it is what all alternatives pin
down, unless one of them is a vague failure: then these pin down nothing, and there is an answer
just the same if the other failures name a class. -/
theorem failureType_eq_some_iff_of_hint (h : Hint v) (P : Class) :
    (failureType v = some P ↔ PinsDown ((flatten v).filter (!isVague ·)) P) ∧
      ((∃ a ∈ flatten v, isVague a) → ¬PinsDown (flatten v) P) ∧
      ((failureType v = some P ↔ PinsDown (flatten v) P) ↔
        ¬((∃ a ∈ flatten v, isVague a) ∧ failureType v = some P)) := by
  have hnames : failureType v = some P ↔ PinsDown ((flatten v).filter (!isVague ·)) P :=
    h.flat.failureType_eq_some_iff.trans pinsDown_filter_iff.symm
  have hopen : (∃ a ∈ flatten v, isVague a) → ¬PinsDown (flatten v) P := by
    rintro ⟨a, ha, hvague⟩ hpins
    obtain ⟨hfailure, hnameless⟩ := Bool.and_eq_true_iff.mp hvague
    rw [hpins.all a ha hfailure] at hnameless
    cases hnameless
  refine ⟨hnames, hopen, ?_⟩
  by_cases hvague : ∃ a ∈ flatten v, isVague a
  · simp [hvague, hopen hvague]
  · -- Nothing is left out.
    have hall : (flatten v).filter (!isVague ·) = flatten v := by
      refine List.filter_eq_self.mpr fun a ha => ?_
      simpa using fun hv => hvague ⟨a, ha, hv⟩
    rw [hall] at hnames
    exact ⟨fun _ hboth => hvague hboth.1, fun _ => hnames⟩

/-- A union of two failures, one of a class and one of a type variable, names the class. -/
theorem class_named_beside_type_variable :
    let v := .union [failureOf Standard.str, .generic Standard.err [.typeVar "T"]]
    Hint v ∧ failureType v = some Standard.str ∧ ¬PinsDown (flatten v) Standard.str := by
  intro v
  have hstr : subscript .empty (.cls Standard.err) (.std .str) = .ok (failureOf Standard.str) := rfl
  have hnamed : Hint (failureOf Standard.str) :=
    .subscript (.cls Standard.err) (List.forall_mem_singleton.mpr (.cls _)) hstr
  have hvariable : subscript .empty (.cls Standard.err) (.typeVar "T") =
      .ok (.generic Standard.err [.typeVar "T"]) := rfl
  have hopen : Hint (.generic Standard.err [.typeVar "T"]) :=
    .subscript (.cls Standard.err) (List.forall_mem_singleton.mpr (.typeVar _)) hvariable
  have hboth : ∀ a ∈ keyTypes (.tuple .fresh [failureOf Standard.str,
      .generic Standard.err [.typeVar "T"]]), Hint a :=
    List.forall_mem_cons.mpr ⟨hnamed, List.forall_mem_singleton.mpr hopen⟩
  have hmade : subscript .empty (.bare .union) (.tuple .fresh [failureOf Standard.str,
      .generic Standard.err [.typeVar "T"]]) = .ok v := by
    with_unfolding_all rfl
  have hv : Hint v := .subscript (.bare .union) hboth hmade
  obtain ⟨hnames, hvague, -⟩ := failureType_eq_some_iff_of_hint hv Standard.str
  have hpins : PinsDown ((flatten v).filter (!isVague ·)) Standard.str :=
    ⟨⟨failureOf Standard.str, List.mem_singleton_self _, rfl⟩,
      List.forall_mem_singleton.mpr fun _ => rfl⟩
  exact ⟨hv, hnames.mpr hpins, hvague
    ⟨.generic Standard.err [.typeVar "T"], by simp [v, flatten], rfl⟩⟩

end FaultContext.TypeHint
