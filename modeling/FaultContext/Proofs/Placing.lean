/-
# FaultContext.Proofs.Placing -- how a binding gives out arguments.

Binding goes through the parameters in their order, so what it does is said for parameters in that
order (`Signature.WellFormed`): those that positional arguments go to, a collector, those that only
named arguments go to, and another collector.

Positional arguments go to the first parameters, and what is left of them to the collector
(`bindPositional_of_ok`, `bindPositional_isOk`).  Named arguments then go to the parameters that are
left (`bindNamed_eq_ok_iff`), and the collector gets the rest (`collectExtra_eq_ok_iff`).
-/
import FaultContext.Proofs.Entering

namespace FaultContext.Signature

/-- Parameters as every function has them: those that positional arguments go to, a collector of
the others, those that only named arguments go to, and a collector of named arguments.  No name
stands twice, and collectors have no default. -/
structure WellFormed (s : Signature) : Prop where
  ordered : s = s.positionalParams ++ ((s.collector? .varPositional).toList ++
    (s.keywordParams ++ (s.collector? .varKeyword).toList))
  names_nodup : s.names.Nodup
  collectors : ∀ p ∈ s, p.isCollector → p.default = none

/-- What a collector is bound to, if there is something to collect. -/
def gathered (collector : Option Param) (isEmpty : Bool) (v : Value) : Named :=
  if isEmpty then [] else collector.toList.map fun c => (c.name, v)

/-- What the collector of positional arguments is bound to. -/
def surplus (s : Signature) (args : List Value) : Named :=
  let rest := args.drop s.positionalParams.length
  gathered (s.collector? .varPositional) rest.isEmpty (.tuple .fresh rest)

/-- The parameters that positional arguments leave to named ones. -/
def unplaced (s : Signature) (args : List Value) : Signature :=
  s.positionalParams.drop args.length ++ s.keywordParams

/-- What comes after the parameters that positional arguments go to. -/
def trailing (s : Signature) : Signature := s.keywordParams ++ (s.collector? .varKeyword).toList

/-- No named argument has the name of a parameter that a positional argument has gone to; the name
of a positional-only one may be collected. -/
def Free (s : Signature) (args : List Value) (named : Named) : Prop :=
  ∀ p ∈ s.positionalParams.take args.length, p.kind = .standard → named.has p.name = false

/-! ## Parameters in their order -/

section Order

variable {s : Signature}

theorem collector?_kind {kind : ParamKind} {c : Param} (h : c ∈ s.collector? kind) :
    c.kind = kind := by
  simpa using List.find?_some h

theorem trailing_kind {p : Param} (hp : p ∈ s.trailing) :
    p.kind = .keywordOnly ∨ p.kind = .varKeyword := by
  rcases List.mem_append.mp hp with hp | hp
  · exact .inl (by simpa using (List.mem_filter.mp hp).2)
  · exact .inr (collector?_kind (Option.mem_toList.mp hp))

theorem filter_trailing (s : Signature) :
    (s.trailing.filter fun p => !p.isCollector) = s.keywordParams := by
  have hkeyword : ∀ p ∈ s.keywordParams, (!p.isCollector) = true := by
    intro p hp
    rw [isCollector_of_mem_keywordParams hp]
    rfl
  rw [trailing, List.filter_append, List.filter_eq_self.mpr hkeyword]
  refine List.append_right_eq_self.mpr (List.filter_eq_nil_iff.mpr fun p hp => ?_)
  have hkind := collector?_kind (Option.mem_toList.mp hp)
  simp [Param.isCollector, hkind]

theorem collector?_append {kind : ParamKind} {front rest : Signature}
    (hfront : ∀ p ∈ front, p.kind ≠ kind) :
    collector? (front ++ rest) kind = collector? rest kind := by
  have hnone : front.find? (·.kind = kind) = none :=
    List.find?_eq_none.mpr fun p hp => by simpa using hfront p hp
  rw [collector?, List.find?_append, hnone, Option.none_or, collector?]

theorem collector?_trailing (s : Signature) :
    s.trailing.collector? .varKeyword = s.collector? .varKeyword := by
  have hkeyword : ∀ p ∈ s.keywordParams, p.kind ≠ .varKeyword := by
    intro p hp hkind
    simpa [hkind] using (List.mem_filter.mp hp).2
  rw [trailing, collector?_append hkeyword]
  cases hfound : s.collector? .varKeyword with
  | none => rfl
  | some c => simp [collector?, collector?_kind hfound]

/-- What is left to named arguments, with the collectors. -/
theorem filter_drop_append_trailing (s : Signature) (args : List Value) :
    ((s.positionalParams.drop args.length ++
      ((s.collector? .varPositional).toList ++ s.trailing)).filter fun p => !p.isCollector) =
      s.unplaced args := by
  have hpositional : ∀ p ∈ s.positionalParams.drop args.length, (!p.isCollector) = true := by
    intro p hp
    rw [isCollector_of_mem_positionalParams (List.mem_of_mem_drop hp)]
    rfl
  have hcollector : ∀ p ∈ (s.collector? .varPositional).toList, ¬(!p.isCollector) = true := by
    intro p hp
    simp [Param.isCollector, collector?_kind (Option.mem_toList.mp hp)]
  rw [List.filter_append, List.filter_append, List.filter_eq_self.mpr hpositional,
    List.filter_eq_nil_iff.mpr hcollector, filter_trailing]
  rfl

theorem collector?_drop_append_trailing (s : Signature) (args : List Value) :
    collector? (s.positionalParams.drop args.length ++
      ((s.collector? .varPositional).toList ++ s.trailing)) .varKeyword =
      s.collector? .varKeyword := by
  rw [collector?_append, collector?_append, collector?_trailing]
  · intro p hp
    rw [collector?_kind (Option.mem_toList.mp hp)]
    decide
  · intro p hp hkind
    simpa [Param.takesPositional, hkind] using
      (List.mem_filter.mp (List.mem_of_mem_drop hp)).2

/-- The parameters that positional arguments go to, and these arguments. -/
theorem zip_take_take (s : Signature) (args : List Value) :
    (args.take s.positionalParams.length).length =
      (s.positionalParams.take args.length).length ∧
    (s.positionalParams.take args.length).zip (args.take s.positionalParams.length) =
      s.positionalParams.zip args := by
  constructor
  · rw [List.length_take, List.length_take, Nat.min_comm]
  · conv_rhs => rw [List.zip_eq_zip_take_min]
    rw [Nat.min_comm, ← List.take_eq_take_min, Nat.min_comm, ← List.take_eq_take_min]

end Order

/-! ## Positional arguments -/

section Positional

variable {s : Signature} {args : List Value} {named : Named} {isPartial : Bool}

/-- The first parameters take an argument each. -/
theorem bindPositional_append (isPartial : Bool) (named : Named) {front : List Param}
    (hfront : ∀ p ∈ front, p.takesPositional) (rest : Signature) {args : List Value}
    (hlength : args.length = front.length) (more : List Value)
    (found : Named × Signature) :
    bindPositional isPartial named (front ++ rest) (args ++ more) = .ok found ↔
      (∀ p ∈ front, p.kind = .standard → named.has p.name = false) ∧
      ∃ further, bindPositional isPartial named rest more = .ok further ∧
        found = ((front.zip args).map (fun (p, v) => (p.name, v)) ++ further.1, further.2) := by
  induction front generalizing args found with
  | nil =>
    obtain rfl := List.length_eq_zero_iff.mp hlength
    simp
  | cons p front ih =>
    obtain ⟨a, args, rfl⟩ := List.exists_cons_of_length_eq_add_one hlength
    have hp := hfront p List.mem_cons_self
    have ih := ih (fun q hq => hfront q (List.mem_cons_of_mem _ hq)) (Nat.succ.inj hlength)
    have hfurther : ∀ found,
        (bindPositional isPartial named (front ++ rest) (args ++ more)).map
          (fun bound => ((p.name, a) :: bound.1, bound.2)) = .ok found ↔
        (∀ q ∈ front, q.kind = .standard → named.has q.name = false) ∧
        ∃ further, bindPositional isPartial named rest more = .ok further ∧
          found = (((p :: front).zip (a :: args)).map (fun (p, v) => (p.name, v)) ++ further.1,
            further.2) := by
      intro found
      rw [except_map_eq_ok]
      constructor
      · rintro ⟨a, hrun, rfl⟩
        obtain ⟨hfree, further, hmore, rfl⟩ := (ih a).mp hrun
        exact ⟨hfree, further, hmore, rfl⟩
      · rintro ⟨hfree, further, hmore, rfl⟩
        exact ⟨_, (ih _).mpr ⟨hfree, further, hmore, rfl⟩, rfl⟩
    rw [List.forall_mem_cons]
    cases hkind : p.kind with
    | positionalOnly =>
      simp only [List.cons_append, bindPositional, hkind, hfurther, reduceCtorEq, false_implies,
        true_and]
    | standard =>
      simp only [List.cons_append, bindPositional, hkind, true_implies]
      cases named.has p.name with
      | true => simp
      | false => simp only [Bool.false_eq_true, if_false, hfurther, true_and]
    | varPositional => simp [Param.takesPositional, hkind] at hp
    | keywordOnly => simp [Param.takesPositional, hkind] at hp
    | varKeyword => simp [Param.takesPositional, hkind] at hp

/-- Without positional arguments nothing is bound, and nothing but a collector of them is passed
over. -/
theorem bindPositional_nil {isPartial : Bool} {named : Named} {s : Signature}
    {found : Named × Signature} (h : bindPositional isPartial named s [] = .ok found) :
    found.1 = [] ∧ (found.2.filter fun p => !p.isCollector) = (s.filter fun p => !p.isCollector) ∧
      found.2.collector? .varKeyword = s.collector? .varKeyword := by
  cases s with
  | nil =>
    cases h
    exact ⟨rfl, rfl, rfl⟩
  | cons p s =>
    rw [bindPositional] at h
    by_cases hkind : p.kind = .varPositional
    · rw [if_pos hkind] at h
      cases h
      simp [collector?, Param.isCollector, hkind]
    · rw [if_neg hkind] at h
      repeat' split at h
      all_goals cases h
      all_goals exact ⟨rfl, rfl, rfl⟩

theorem bindPositional_nil_isOk {isPartial : Bool} {named : Named} {s : Signature}
    (h : ∀ p ∈ s, p.isCollector = false → (named.has p.name → p.kind ≠ .positionalOnly) ∧
      (isPartial ∨ named.has p.name ∨ p.default.isSome)) :
    ∃ found, bindPositional isPartial named s [] = .ok found := by
  cases s with
  | nil => exact ⟨_, rfl⟩
  | cons p s =>
    have hp := h p List.mem_cons_self
    rw [bindPositional]
    by_cases hcollector : p.isCollector
    · simp only [Param.isCollector, Bool.or_eq_true, beq_iff_eq] at hcollector
      rcases hcollector with hkind | hkind
      · exact ⟨_, if_pos hkind⟩
      · cases named.has p.name <;> simp [hkind]
    · obtain ⟨hclash, hfilled⟩ := hp (by simpa using hcollector)
      have hkind : p.kind ≠ .varPositional := by
        intro hkind
        simp [Param.isCollector, hkind] at hcollector
      rw [if_neg hkind]
      cases hhas : named.has p.name with
      | true => simp [hclash hhas]
      | false =>
        simp only [hhas, Bool.false_eq_true, false_or] at hfilled
        rcases hfilled with hpartial | hdefault
        · simp [hpartial]
        · simp [hdefault]

/-- Arguments that are left over go to the collector and nowhere else. -/
theorem bindPositional_cons {isPartial : Bool} {named : Named} {collector : Option Param}
    (hcollector : ∀ c ∈ collector, c.kind = .varPositional) {rest : Signature}
    (hrest : ∀ p ∈ rest, p.kind = .keywordOnly ∨ p.kind = .varKeyword) {a : Value}
    {args : List Value} {found : Named × Signature} :
    bindPositional isPartial named (collector.toList ++ rest) (a :: args) = .ok found ↔
      collector.isSome ∧ found = (gathered collector false (.tuple .fresh (a :: args)), rest) := by
  cases collector with
  | some c => simp [bindPositional, hcollector c rfl, gathered, @eq_comm _ found]
  | none =>
    cases rest with
    | nil => simp [bindPositional]
    | cons p rest =>
      rcases hrest p List.mem_cons_self with hkind | hkind <;> simp [bindPositional, hkind]

/-- Binding gives the first parameters an argument each and then goes on with the rest. -/
theorem bindPositional_eq_ok_iff (hs : s.WellFormed) {found : Named × Signature} :
    bindPositional isPartial named s args = .ok found ↔
      s.Free args named ∧
      ∃ further, bindPositional isPartial named (s.positionalParams.drop args.length ++
          ((s.collector? .varPositional).toList ++ s.trailing))
          (args.drop s.positionalParams.length) = .ok further ∧
        found = (s.placed args ++ further.1, further.2) := by
  have hfront : ∀ p ∈ s.positionalParams.take args.length, p.takesPositional := fun p hp =>
    (List.mem_filter.mp (List.mem_of_mem_take hp)).2
  obtain ⟨hlength, hzip⟩ := s.zip_take_take args
  have happend := bindPositional_append isPartial named hfront
    (s.positionalParams.drop args.length ++ ((s.collector? .varPositional).toList ++ s.trailing))
    hlength (args.drop s.positionalParams.length) found
  rw [List.take_append_drop, ← List.append_assoc, List.take_append_drop, hzip] at happend
  rw [trailing, ← hs.ordered] at happend
  exact happend

/-- What positional arguments are bound to, and what they leave. -/
theorem bindPositional_of_ok (hs : s.WellFormed) {found : Named × Signature}
    (h : bindPositional isPartial named s args = .ok found) :
    s.Free args named ∧
    (args.length ≤ s.positionalParams.length ∨ (s.collector? .varPositional).isSome) ∧
    found.1 = s.placed args ++ s.surplus args ∧
    (found.2.filter fun p => !p.isCollector) = s.unplaced args ∧
    found.2.collector? .varKeyword = s.collector? .varKeyword := by
  obtain ⟨hfree, ⟨bound, left⟩, hfurther, rfl⟩ := (bindPositional_eq_ok_iff hs).mp h
  refine ⟨hfree, ?_⟩
  cases hmore : args.drop s.positionalParams.length with
  | nil =>
    -- All arguments have a parameter of their own.
    rw [hmore] at hfurther
    obtain ⟨hbound, hleft, hcollector⟩ := bindPositional_nil hfurther
    refine ⟨.inl (List.drop_eq_nil_iff.mp hmore), ?_,
      hleft.trans (filter_drop_append_trailing s args),
      hcollector.trans (collector?_drop_append_trailing s args)⟩
    simp only [surplus, hmore, gathered, List.isEmpty_nil, if_true]
    exact congrArg _ hbound
  | cons a rest =>
    -- Every parameter has an argument, and the collector takes the rest.
    have hlength : s.positionalParams.length ≤ args.length := by
      have hlength := congrArg List.length hmore
      simp only [List.length_drop, List.length_cons] at hlength
      omega
    rw [hmore, List.drop_eq_nil_of_le hlength, List.nil_append,
      bindPositional_cons (fun c hc => collector?_kind hc) (fun p hp => trailing_kind hp)]
      at hfurther
    obtain ⟨hcollector, ⟨⟩⟩ := hfurther
    refine ⟨.inr hcollector, ?_, ?_, collector?_trailing s⟩
    · simp only [surplus, hmore, List.isEmpty_cons]
    · rw [filter_trailing, unplaced, List.drop_eq_nil_of_le hlength, List.nil_append]

theorem bindPositional_isOk (hs : s.WellFormed)
    (hfree : s.Free args named)
    (hroom : args.length ≤ s.positionalParams.length ∨ (s.collector? .varPositional).isSome)
    (hleft : ∀ p ∈ s.unplaced args, (named.has p.name → p.kind ≠ .positionalOnly) ∧
      (isPartial ∨ named.has p.name ∨ p.default.isSome)) :
    ∃ found, bindPositional isPartial named s args = .ok found := by
  suffices hfurther : ∃ further, bindPositional isPartial named
      (s.positionalParams.drop args.length ++
        ((s.collector? .varPositional).toList ++ s.trailing))
      (args.drop s.positionalParams.length) = .ok further by
    obtain ⟨further, hfurther⟩ := hfurther
    exact ⟨_, (bindPositional_eq_ok_iff hs).mpr ⟨hfree, further, hfurther, rfl⟩⟩
  cases hmore : args.drop s.positionalParams.length with
  | nil =>
    refine bindPositional_nil_isOk fun p hp hcollector => hleft p ?_
    rw [← filter_drop_append_trailing]
    exact List.mem_filter.mpr ⟨hp, by rw [hcollector]; rfl⟩
  | cons a rest =>
    have hlength : s.positionalParams.length < args.length := by
      have hlength := congrArg List.length hmore
      simp only [List.length_drop, List.length_cons] at hlength
      omega
    rw [List.drop_eq_nil_of_le (Nat.le_of_lt hlength), List.nil_append]
    refine ⟨_, (bindPositional_cons (fun c hc => collector?_kind hc)
      (fun p hp => trailing_kind hp)).mpr ⟨?_, rfl⟩⟩
    exact hroom.resolve_left (Nat.not_le.mpr hlength)

end Positional

/-! ## Named arguments -/

/-- Named arguments go to the parameters of their names, which take them once. -/
theorem bindNamed_eq_ok_iff {isPartial : Bool} {left : Signature} (hleft : left.names.Nodup)
    {named : Named} {found : Named × Named} :
    bindNamed isPartial left named = .ok found ↔
      (∀ p ∈ left, p.isCollector = false →
        (named.has p.name → p.kind ≠ .positionalOnly) ∧
        (isPartial ∨ named.has p.name ∨ p.default.isSome)) ∧
      found = (left.filterMap fun p =>
          (if p.isCollector then none else named.get? p.name).map (p.name, ·),
        named.selected fun n => !left.any fun p => !p.isCollector && p.name = n) := by
  induction left generalizing named found with
  | nil => simp [bindNamed, Named.selected, @eq_comm _ found]
  | cons p left ih =>
    obtain ⟨hp, hleft⟩ := List.nodup_cons.mp hleft
    rw [bindNamed, List.forall_mem_cons, List.filterMap_cons]
    cases hcollector : p.isCollector with
    | true => simpa [hcollector] using ih hleft
    | false =>
      -- Whether or not the parameter takes an argument, the later ones get those of other names.
      have hothers : ∀ q ∈ left, (named.erase p.name).get? q.name = named.get? q.name := by
        intro q hq
        refine Named.get?_erase_of_ne fun h => hp ?_
        rw [← h]
        exact List.mem_map_of_mem hq
      have ih : ∀ found, bindNamed isPartial left (named.erase p.name) = .ok found ↔
          (∀ q ∈ left, q.isCollector = false →
            (named.has q.name → q.kind ≠ .positionalOnly) ∧
            (isPartial ∨ named.has q.name ∨ q.default.isSome)) ∧
          found = (left.filterMap fun q =>
              (if q.isCollector then none else named.get? q.name).map (q.name, ·),
            named.selected fun n => !(p :: left).any fun q => !q.isCollector && q.name = n) := by
        intro found
        have hcondition : (∀ q ∈ left, q.isCollector = false →
            ((named.erase p.name).has q.name → q.kind ≠ .positionalOnly) ∧
            (isPartial ∨ (named.erase p.name).has q.name ∨ q.default.isSome)) ↔
            ∀ q ∈ left, q.isCollector = false →
              (named.has q.name → q.kind ≠ .positionalOnly) ∧
              (isPartial ∨ named.has q.name ∨ q.default.isSome) := by
          refine forall₂_congr fun q hq => ?_
          rw [Named.has, hothers q hq, Named.has]
        have hbound : (left.filterMap fun q =>
            (if q.isCollector then none else (named.erase p.name).get? q.name).map (q.name, ·)) =
            left.filterMap fun q =>
              (if q.isCollector then none else named.get? q.name).map (q.name, ·) :=
          List.filterMap_congr fun q hq => by rw [hothers q hq]
        have hextra : (named.erase p.name).selected
            (fun n => !left.any fun q => !q.isCollector && q.name = n) =
            named.selected fun n => !(p :: left).any fun q => !q.isCollector && q.name = n := by
          rw [Named.selected, Named.erase, List.filter_filter, Named.selected]
          refine List.filter_congr fun entry _ => ?_
          rw [List.any_cons, hcollector, Bool.not_or, Bool.and_comm]
          simp [bne, @eq_comm _ p.name, beq_eq_decide]
        rw [ih hleft, hcondition, hbound, hextra]
      cases hgiven : named.get? p.name with
      | none =>
        have hhas : named.has p.name = false := by rw [Named.has, hgiven]; rfl
        rw [Named.erase_of_get?_eq_none hgiven] at ih
        cases isPartial <;> cases p.default <;> simp [hhas, ih]
      | some v =>
        have hhas : named.has p.name = true := by rw [Named.has, hgiven]; rfl
        by_cases hkind : p.kind = .positionalOnly
        · simp [hhas, hkind]
        · simp [hhas, hkind, except_map_eq_ok, ih]

/-- Collectors have no part in it. -/
theorem bindNamed_filter (isPartial : Bool) (left : Signature) (named : Named) :
    bindNamed isPartial (left.filter fun p => !p.isCollector) named =
      bindNamed isPartial left named := by
  induction left generalizing named with
  | nil => rfl
  | cons p left ih =>
    cases hcollector : p.isCollector with
    | true => simp [bindNamed, hcollector, ih]
    | false => simp [bindNamed, hcollector, ih]

/-- Arguments that no parameter has taken need a collector. -/
theorem collectExtra_eq_ok_iff {left : Signature} {bound extra found : Named} :
    collectExtra left bound extra = .ok found ↔
      (extra = [] ∨ (left.collector? .varKeyword).isSome) ∧
      found = bound ++ gathered (left.collector? .varKeyword) extra.isEmpty (collected extra) := by
  cases extra with
  | nil => simp [collectExtra, gathered, @eq_comm _ found]
  | cons entry rest =>
    simp only [collectExtra, collector?]
    cases left.find? (·.kind = .varKeyword) <;> simp [gathered, @eq_comm _ found]

end FaultContext.Signature
