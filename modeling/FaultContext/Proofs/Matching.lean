/-
# FaultContext.Proofs.Matching -- binding against calling.

Binding arguments from outside and calling with them are two ways to give out the same arguments.
Binding succeeds where the arguments fit, with one exception (`Signature.Clashes`): a named argument
that has the name of a positional-only parameter without an argument is refused, although a call
gives it to the collector.  A partial binding only asks that the arguments have places.

Where binding succeeds, it says together with the defaults exactly what the parameters hold in a
call (`Signature.withDefaults_matched`).
-/
import FaultContext.Proofs.Placing

namespace FaultContext.Signature

/-- A named argument has the name of a positional-only parameter that no argument has gone to. -/
def Clashes (s : Signature) (args : List Value) (named : Named) : Prop :=
  ∃ p ∈ s.positionalParams.drop args.length, p.kind = .positionalOnly ∧ named.has p.name

/-- What arguments are bound to, in the order in which they find their parameters. -/
def matched (s : Signature) (args : List Value) (named : Named) : Named :=
  s.placed args ++ s.surplus args ++
    (s.unplaced args).filterMap (fun p => (named.get? p.name).map (p.name, ·)) ++
    gathered (s.collector? .varKeyword) (named.selected (!s.takes ·)).isEmpty
      (collected (named.selected (!s.takes ·)))

variable {s : Signature} {args : List Value} {named : Named} {isPartial : Bool}

/-! ## Parameters with and without a positional argument -/

/-- A positional argument has gone to the parameters at the front. -/
theorem has_placed_iff {n : String} :
    (s.placed args).has n ↔ ∃ p ∈ s.positionalParams.take args.length, p.name = n := by
  obtain ⟨hlength, hzip⟩ := s.zip_take_take args
  have hnames : (s.placed args).map Prod.fst =
      (s.positionalParams.take args.length).map Param.name := by
    rw [← List.map_fst_zip (Nat.le_of_eq hlength.symm), hzip, placed, List.map_map, List.map_map]
    rfl
  rw [Named.has_iff, hnames, List.mem_map]

/-- No argument is given twice if no named one has the name of a parameter at the front. -/
theorem once_iff (hs : s.names.Nodup) :
    (∀ n, named.has n → s.takes n → (s.placed args).has n = false) ↔
      s.Free args named := by
  constructor
  · intro h p hp hkind
    have hmem : p ∈ s := List.mem_of_mem_filter (List.mem_of_mem_take hp)
    have htakes : s.takes p.name = true := by
      rw [takes_name hs hmem]
      simp [Param.takesNamed, hkind]
    by_contra hhas
    have hplaced := h p.name (by simpa using hhas) htakes
    rw [← Bool.not_eq_true] at hplaced
    exact hplaced (has_placed_iff.mpr ⟨p, hp, rfl⟩)
  · intro h n hhas htakes
    rw [← Bool.not_eq_true, has_placed_iff]
    rintro ⟨p, hp, rfl⟩
    obtain ⟨hmem, hpositional⟩ := List.mem_filter.mp (List.mem_of_mem_take hp)
    rw [takes_name hs hmem] at htakes
    have hkind : p.kind = .standard := by
      cases hkind : p.kind <;>
        simp [Param.takesNamed, Param.takesPositional, hkind] at htakes hpositional ⊢
    rw [h p hp hkind] at hhas
    cases hhas

/-- The parameters that a named argument can go to are among those that are left. -/
theorem takes_eq_any_unplaced
    (hfree : s.Free args named)
    (hclash : ¬ s.Clashes args named) {n : String} (hn : named.has n) :
    s.takes n = (s.unplaced args).any fun p => p.name = n := by
  rw [Bool.eq_iff_iff, takes, List.any_eq_true, List.any_eq_true]
  simp only [Bool.and_eq_true, decide_eq_true_eq, unplaced, List.mem_append]
  constructor
  · rintro ⟨p, hp, htakes, rfl⟩
    refine ⟨p, ?_, rfl⟩
    have hcollector : p.isCollector = false := by
      cases hkind : p.kind <;> simp [Param.takesNamed, Param.isCollector, hkind] at htakes ⊢
    refine ((mem_iff hcollector).mp hp).imp_left fun hpositional => ?_
    rw [← List.take_append_drop args.length s.positionalParams, List.mem_append] at hpositional
    refine hpositional.resolve_left fun hfront => ?_
    have hkind : p.kind = .standard := by
      have hp := (List.mem_filter.mp (List.mem_of_mem_take hfront)).2
      cases hkind : p.kind <;>
        simp [Param.takesNamed, Param.takesPositional, hkind] at htakes hp ⊢
    rw [hfree p hfront hkind] at hn
    cases hn
  · rintro ⟨p, hp | hp, rfl⟩
    · obtain ⟨hmem, hpositional⟩ := List.mem_filter.mp (List.mem_of_mem_drop hp)
      refine ⟨p, hmem, ?_, rfl⟩
      have hkind : p.kind ≠ .positionalOnly := fun hkind => hclash ⟨p, hp, hkind, hn⟩
      cases h : p.kind <;> simp [Param.takesNamed, Param.takesPositional, h] at hkind hpositional ⊢
    · obtain ⟨hmem, hkind⟩ := List.mem_filter.mp hp
      simp only [decide_eq_true_eq] at hkind
      exact ⟨p, hmem, by simp [Param.takesNamed, hkind], rfl⟩

/-- The parameters that are left have no positional argument. -/
theorem has_placed_of_mem_unplaced (hs : s.names.Nodup) {p : Param} (hp : p ∈ s.unplaced args) :
    (s.placed args).has p.name = false := by
  rw [← Bool.not_eq_true, has_placed_iff]
  rintro ⟨q, hq, hname⟩
  have hqmem := List.mem_filter.mp (List.mem_of_mem_take hq)
  rcases List.mem_append.mp hp with hdrop | hkeyword
  · -- Both are parameters for positional arguments, and no name stands there twice.
    have hnodup : (s.positionalParams.map Param.name).Nodup :=
      hs.sublist (List.filter_sublist.map _)
    have heq := List.inj_on_of_nodup_map hnodup (List.mem_of_mem_take hq)
      (List.mem_of_mem_drop hdrop) hname
    exact List.disjoint_take_drop (List.Nodup.of_map _ hnodup) (Nat.le_refl _) hq (heq ▸ hdrop)
  · obtain ⟨hmem, hkind⟩ := List.mem_filter.mp hkeyword
    have heq := List.inj_on_of_nodup_map hs hqmem.1 hmem hname
    simp only [decide_eq_true_eq] at hkind
    simpa [heq, Param.takesPositional, hkind] using hqmem.2

theorem mem_of_mem_unplaced {p : Param} (hp : p ∈ s.unplaced args) : p ∈ s := by
  rcases List.mem_append.mp hp with hp | hp
  · exact List.mem_of_mem_filter (List.mem_of_mem_drop hp)
  · exact List.mem_of_mem_filter hp

theorem isCollector_of_mem_unplaced {p : Param} (hp : p ∈ s.unplaced args) :
    p.isCollector = false := by
  rcases List.mem_append.mp hp with hp | hp
  · exact isCollector_of_mem_positionalParams (List.mem_of_mem_drop hp)
  · exact isCollector_of_mem_keywordParams hp

/-- A parameter that is left is given what stands under its name. -/
theorem given?_of_mem_unplaced (hs : s.names.Nodup) (hclash : ¬ s.Clashes args named) {p : Param}
    (hp : p ∈ s.unplaced args) : s.given? args named p = named.get? p.name := by
  rw [given?_of_not_isCollector hs (mem_of_mem_unplaced hp) (isCollector_of_mem_unplaced hp),
    Named.get?_append, Named.get?_selected, takes_name hs (mem_of_mem_unplaced hp),
    Named.get?_eq_none_iff.mpr (has_placed_of_mem_unplaced hs hp), Option.none_or]
  cases htakes : p.takesNamed with
  | true => rfl
  | false =>
    -- It is positional-only, and then there is no argument of its name.
    rw [if_neg Bool.false_ne_true, eq_comm, Named.get?_eq_none_iff, ← Bool.not_eq_true]
    intro hhas
    rcases List.mem_append.mp hp with hdrop | hkeyword
    · refine hclash ⟨p, hdrop, ?_, hhas⟩
      have hpositional := (List.mem_filter.mp (List.mem_of_mem_drop hdrop)).2
      cases h : p.kind <;> simp [Param.takesNamed, Param.takesPositional, h] at htakes hpositional ⊢
    · have hkind := (List.mem_filter.mp hkeyword).2
      simp only [decide_eq_true_eq] at hkind
      simp [Param.takesNamed, hkind] at htakes

/-- The other parameters have one. -/
theorem isSome_get?_placed {p : Param} (hp : p ∈ s) (hcollector : p.isCollector = false)
    (hleft : p ∉ s.unplaced args) : ((s.placed args).get? p.name).isSome := by
  have hfront : p ∈ s.positionalParams.take args.length := by
    rcases (mem_iff hcollector).mp hp with hpositional | hkeyword
    · rw [← List.take_append_drop args.length s.positionalParams, List.mem_append] at hpositional
      exact hpositional.resolve_right fun hdrop => hleft (List.mem_append.mpr (.inl hdrop))
    · exact absurd (List.mem_append.mpr (.inr hkeyword)) hleft
  exact has_placed_iff.mpr ⟨p, hfront, rfl⟩

/-- Every parameter has a value if those that are left have one. -/
theorem filled_iff (hs : s.names.Nodup) (hclash : ¬ s.Clashes args named) :
    (∀ p ∈ s, (s.value? args named p).isSome) ↔
      ∀ p ∈ s.unplaced args, named.has p.name ∨ p.default.isSome := by
  constructor
  · intro h p hp
    have hvalue := h p (mem_of_mem_unplaced hp)
    rw [value?, given?_of_mem_unplaced hs hclash hp, Option.isSome_or, Bool.or_eq_true] at hvalue
    exact hvalue
  · intro h p hp
    cases hcollector : p.isCollector with
    | true => exact s.value?_isSome_of_isCollector args named hcollector
    | false =>
      rw [value?, Option.isSome_or, Bool.or_eq_true]
      by_cases hleft : p ∈ s.unplaced args
      · rw [given?_of_mem_unplaced hs hclash hleft]
        exact h p hleft
      · -- A positional argument has gone to it.
        refine .inl ?_
        rw [given?_of_not_isCollector hs hp hcollector, Named.get?_append, Option.isSome_or,
          isSome_get?_placed hp hcollector hleft, Bool.true_or]

/-! ## Success -/

theorem names_unplaced_nodup (hs : s.WellFormed) : (s.unplaced args).names.Nodup := by
  have hsublist : (s.unplaced args).Sublist s := by
    conv_rhs => rw [hs.ordered]
    refine (List.drop_sublist _ _).append ?_
    exact (List.sublist_append_left _ _).trans (List.sublist_append_right _ _)
  exact hs.names_nodup.sublist (hsublist.map Param.name)

/-- What is asked of the parameters that are left. -/
theorem unplaced_iff (hs : s.names.Nodup) :
    (∀ p ∈ s.unplaced args, (named.has p.name → p.kind ≠ .positionalOnly) ∧
      (isPartial ∨ named.has p.name ∨ p.default.isSome)) ↔
      ¬ s.Clashes args named ∧ (isPartial ∨ ∀ p ∈ s, (s.value? args named p).isSome) := by
  have hclash : (∀ p ∈ s.unplaced args, named.has p.name → p.kind ≠ .positionalOnly) ↔
      ¬ s.Clashes args named := by
    constructor
    · rintro h ⟨p, hp, hkind, hhas⟩
      exact h p (List.mem_append.mpr (.inl hp)) hhas hkind
    · intro h p hp hhas hkind
      rcases List.mem_append.mp hp with hdrop | hkeyword
      · exact h ⟨p, hdrop, hkind, hhas⟩
      · simpa [hkind] using (List.mem_filter.mp hkeyword).2
  rw [forall₂_and, hclash]
  refine and_congr_right fun hclash => ?_
  cases isPartial with
  | true => simp
  | false => simpa using (filled_iff hs hclash).symm

/-- Named arguments go to the parameters that are left. -/
theorem bindNamed_unplaced (hs : s.WellFormed)
    (hfree : s.Free args named) {found : Named × Named} :
    bindNamed isPartial (s.unplaced args) named = .ok found ↔
      (¬ s.Clashes args named ∧ (isPartial ∨ ∀ p ∈ s, (s.value? args named p).isSome)) ∧
      found = ((s.unplaced args).filterMap (fun p => (named.get? p.name).map (p.name, ·)),
        named.selected (!s.takes ·)) := by
  have hcondition : (∀ p ∈ s.unplaced args, p.isCollector = false →
      (named.has p.name → p.kind ≠ .positionalOnly) ∧
      (isPartial ∨ named.has p.name ∨ p.default.isSome)) ↔
      ∀ p ∈ s.unplaced args, (named.has p.name → p.kind ≠ .positionalOnly) ∧
        (isPartial ∨ named.has p.name ∨ p.default.isSome) :=
    forall₂_congr fun p hp => by simp [isCollector_of_mem_unplaced hp]
  rw [bindNamed_eq_ok_iff (names_unplaced_nodup hs), hcondition, unplaced_iff hs.names_nodup]
  refine and_congr_right fun ⟨hclash, _⟩ => ?_
  have hbound : ((s.unplaced args).filterMap fun p =>
      (if p.isCollector then none else named.get? p.name).map (p.name, ·)) =
      (s.unplaced args).filterMap fun p => (named.get? p.name).map (p.name, ·) :=
    List.filterMap_congr fun p hp => by simp [isCollector_of_mem_unplaced hp]
  have hextra : (named.selected fun n =>
      !(s.unplaced args).any fun p => !p.isCollector && p.name = n) =
      named.selected (!s.takes ·) := by
    refine Named.selected_congr fun n hn => congrArg (! ·) ?_
    rw [takes_eq_any_unplaced hfree hclash hn]
    rw [Bool.eq_iff_iff, List.any_eq_true, List.any_eq_true]
    refine exists_congr fun p => and_congr_right fun hp => ?_
    simp [isCollector_of_mem_unplaced hp]
  rw [hbound, hextra]

/-- Named arguments that no parameter takes need a collector. -/
theorem known_iff :
    (∀ n, named.has n → s.takes n = false → (s.collector? .varKeyword).isSome) ↔
      named.selected (!s.takes ·) = [] ∨ (s.collector? .varKeyword).isSome := by
  rw [Named.selected_eq_nil_iff]
  cases (s.collector? .varKeyword).isSome <;> simp

/-- Binding succeeds if all arguments have places, none of them by the name of a positional-only
parameter that is left, and, unless the binding is partial, every parameter has a value. -/
theorem bindWith_eq_ok_iff (hs : s.WellFormed) {bound : Named} :
    s.bindWith isPartial args named = .ok bound ↔
      (s.Places args named ∧ ¬ s.Clashes args named ∧
        (isPartial ∨ ∀ p ∈ s, (s.value? args named p).isSome)) ∧
      bound = s.matched args named := by
  simp only [bindWith, except_bind_eq_ok]
  constructor
  · rintro ⟨⟨positional, left⟩, hpositional, ⟨byName, extra⟩, hnamed, hextra⟩
    obtain ⟨hfree, hroom, hplaced, hleft, hcollector⟩ := bindPositional_of_ok hs hpositional
    rw [← bindNamed_filter, hleft, bindNamed_unplaced hs hfree] at hnamed
    obtain ⟨hrest, ⟨⟩⟩ := hnamed
    rw [collectExtra_eq_ok_iff, hcollector, hplaced] at hextra
    obtain ⟨hknown, rfl⟩ := hextra
    have honce := (once_iff hs.names_nodup).mpr hfree
    exact ⟨⟨⟨honce, known_iff.mpr hknown, hroom⟩, hrest⟩, rfl⟩
  · rintro ⟨⟨hplaces, hrest⟩, rfl⟩
    have hfree := (once_iff hs.names_nodup).mp hplaces.once
    obtain ⟨found, hpositional⟩ :=
      bindPositional_isOk hs hfree hplaces.room ((unplaced_iff hs.names_nodup).mpr hrest)
    obtain ⟨-, -, hplaced, hleft, hcollector⟩ := bindPositional_of_ok hs hpositional
    have hnamed := (bindNamed_unplaced hs hfree).mpr ⟨hrest, rfl⟩
    rw [← hleft, bindNamed_filter] at hnamed
    refine ⟨found, hpositional, _, hnamed, collectExtra_eq_ok_iff.mpr ⟨?_, ?_⟩⟩
    · rw [hcollector]
      exact known_iff.mp hplaces.known
    · rw [hcollector, hplaced, hleft]
      rfl

/-- **Arguments that fit are accepted, and no others, unless there is a clash of names.** -/
theorem accepts_iff (hs : s.WellFormed) :
    s.accepts args named ↔ s.Fits args named ∧ ¬ s.Clashes args named := by
  have hok : s.accepts args named ↔ ∃ bound, s.bindWith false args named = .ok bound := by
    rw [accepts, bind]
    cases s.bindWith false args named <;> simp [Except.isOk, Except.toBool]
  rw [hok]
  constructor
  · rintro ⟨bound, hbound⟩
    obtain ⟨⟨hplaces, hclash, hfilled⟩, -⟩ := (bindWith_eq_ok_iff hs).mp hbound
    exact ⟨⟨hplaces, hfilled.resolve_left Bool.false_ne_true⟩, hclash⟩
  · rintro ⟨hfits, hclash⟩
    exact ⟨_, (bindWith_eq_ok_iff hs).mpr ⟨⟨hfits.toPlaces, hclash, .inr hfits.filled⟩, rfl⟩⟩

/-! ## What is bound -/

theorem withDefaults_eq (s : Signature) (bound : Named) :
    s.withDefaults bound =
      s.filterMap fun p => ((bound.get? p.name).or (defaultOf p)).map (p.name, ·) := by
  refine List.filterMap_congr fun p _ => ?_
  cases bound.get? p.name <;> rfl

theorem collector?_of_mem (hs : s.WellFormed) {p : Param} (hp : p ∈ s) {kind : ParamKind}
    (hkind : p.kind = kind) (hcollector : kind = .varPositional ∨ kind = .varKeyword) :
    s.collector? kind = some p := by
  have hother : ∀ {other : ParamKind}, p ∈ (s.collector? other).toList → s.collector? kind = some p := by
    intro other h
    have h := Option.mem_toList.mp h
    rw [← hkind, collector?_kind h]
    exact h
  rw [hs.ordered, List.mem_append, List.mem_append, List.mem_append] at hp
  rcases hp with hp | hp | hp | hp
  · have hpositional := (List.mem_filter.mp hp).2
    rcases hcollector with rfl | rfl <;> simp [Param.takesPositional, hkind] at hpositional
  · exact hother hp
  · have hkeyword := (List.mem_filter.mp hp).2
    rcases hcollector with rfl | rfl <;> simp [hkind] at hkeyword
  · exact hother hp

/-- What a collector is bound to is found under its name and under that of no other parameter. -/
theorem get?_gathered (hs : s.WellFormed) {p : Param} (hp : p ∈ s) {kind : ParamKind}
    (hcollector : kind = .varPositional ∨ kind = .varKeyword) (isEmpty : Bool) (v : Value) :
    (gathered (s.collector? kind) isEmpty v).get? p.name =
      if p.kind = kind ∧ isEmpty = false then some v else none := by
  cases isEmpty with
  | true => simp [gathered, Named.get?]
  | false =>
    by_cases hkind : p.kind = kind
    · rw [gathered, if_neg Bool.false_ne_true, collector?_of_mem hs hp hkind hcollector,
        Option.toList_some, List.map_singleton, Named.get?_cons, if_pos rfl, if_pos ⟨hkind, rfl⟩]
    · rw [if_neg fun h => hkind h.1, Named.get?_eq_none_iff, ← Bool.not_eq_true, Named.has_iff,
        gathered, if_neg Bool.false_ne_true, List.map_map, List.mem_map]
      rintro ⟨c, hc, hname⟩
      have hc := Option.mem_toList.mp hc
      have heq := List.inj_on_of_nodup_map hs.names_nodup (List.mem_of_find?_eq_some hc) hp hname
      exact hkind (heq ▸ collector?_kind hc)

/-- A parameter is known by its name. -/
theorem eq_of_name_eq (hs : s.WellFormed) {p q : Param} (hp : p ∈ s) (hq : q ∈ s)
    (hname : q.name = p.name) : q = p :=
  List.inj_on_of_nodup_map hs.names_nodup hq hp hname

/-- Only the parameters that are left are bound by their names. -/
theorem get?_byName_of_not_mem (hs : s.WellFormed) {p : Param} (hp : p ∈ s)
    (hleft : p ∉ s.unplaced args) :
    Named.get? ((s.unplaced args).filterMap fun q => (named.get? q.name).map (q.name, ·)) p.name =
      none := by
  rw [Named.get?_eq_none_iff, ← Bool.not_eq_true]
  intro hhas
  obtain ⟨q, hq, hname⟩ := exists_of_has_filterMap hhas
  have heq := eq_of_name_eq hs hp (mem_of_mem_unplaced hq) hname
  exact hleft (heq ▸ hq)

/-- No positional argument is placed at a collector. -/
theorem get?_placed_of_isCollector (hs : s.WellFormed) {p : Param} (hp : p ∈ s)
    (hcollector : p.isCollector = true) : (s.placed args).get? p.name = none := by
  rw [Named.get?_eq_none_iff, ← Bool.not_eq_true, has_placed_iff]
  rintro ⟨q, hq, hname⟩
  have hq := List.mem_of_mem_take hq
  have heq := eq_of_name_eq hs hp (List.mem_of_mem_filter hq) hname
  rw [← heq, isCollector_of_mem_positionalParams hq] at hcollector
  cases hcollector

/-- What a collector is bound to, and nothing by default, is what it holds. -/
theorem matched_of_isCollector (hs : s.WellFormed) {p : Param} (hp : p ∈ s)
    (hcollector : p.isCollector = true) :
    ((s.matched args named).get? p.name).or (defaultOf p) = s.value? args named p := by
  have hleft : p ∉ s.unplaced args := by
    intro hleft
    rw [isCollector_of_mem_unplaced hleft] at hcollector
    cases hcollector
  have hdefault := hs.collectors p hp hcollector
  rw [matched, Named.get?_append, Named.get?_append, Named.get?_append, surplus,
    get?_gathered hs hp (.inl rfl), get?_gathered hs hp (.inr rfl), value?,
    get?_placed_of_isCollector hs hp hcollector, get?_byName_of_not_mem hs hp hleft]
  cases hkind : p.kind <;> simp [Param.isCollector, hkind] at hcollector
  case varPositional =>
    cases hrest : args.drop s.positionalParams.length <;>
      simp [given?, defaultOf, hkind, hdefault, hrest]
  case varKeyword =>
    cases hrest : named.selected (!s.takes ·) <;>
      simp [given?, defaultOf, collected, hkind, hdefault, hrest]

/-- What any other parameter is bound to, and else its default, is what it holds. -/
theorem matched_of_not_isCollector (hs : s.WellFormed) (hclash : ¬ s.Clashes args named)
    {p : Param} (hp : p ∈ s) (hcollector : p.isCollector = false) :
    ((s.matched args named).get? p.name).or (defaultOf p) = s.value? args named p := by
  have hkind : p.kind ≠ .varPositional ∧ p.kind ≠ .varKeyword := by
    constructor <;> (intro h; simp [Param.isCollector, h] at hcollector)
  have hdefault : defaultOf p = p.default := by
    rw [defaultOf]
    cases hdefault : p.default <;> cases h : p.kind <;> simp [h] at hkind ⊢
  rw [matched, Named.get?_append, Named.get?_append, Named.get?_append, surplus,
    get?_gathered hs hp (.inl rfl), get?_gathered hs hp (.inr rfl), value?,
    if_neg fun h => hkind.1 h.1, if_neg fun h => hkind.2 h.1, Option.or_none, Option.or_none,
    hdefault]
  by_cases hleft : p ∈ s.unplaced args
  · rw [given?_of_mem_unplaced hs.names_nodup hclash hleft,
      Named.get?_eq_none_iff.mpr (has_placed_of_mem_unplaced hs.names_nodup hleft),
      get?_filterMap (names_unplaced_nodup hs) (fun q => named.get? q.name) hleft,
      Option.none_or]
  · have hplaced := isSome_get?_placed hp hcollector hleft
    obtain ⟨v, hv⟩ := Option.isSome_iff_exists.mp hplaced
    rw [get?_byName_of_not_mem hs hp hleft,
      given?_of_not_isCollector hs.names_nodup hp hcollector, Named.get?_append, hv]
    rfl

/-- What is bound under the name of a parameter, and else its default, is what it holds. -/
theorem withDefaults_matched (hs : s.WellFormed) (hclash : ¬ s.Clashes args named) :
    s.withDefaults (s.matched args named) = s.slots args named := by
  rw [withDefaults_eq, slots]
  refine List.filterMap_congr fun p hp => congrArg _ ?_
  cases hcollector : p.isCollector with
  | true => exact matched_of_isCollector hs hp hcollector
  | false => exact matched_of_not_isCollector hs hclash hp hcollector

end FaultContext.Signature
