/-
# FaultContext.Proofs.Accepting -- what the fields of an accepted template refer to.

Checking a template reads its fields one by one and keeps account of what they refer to; filling it
keeps account of how they are numbered.  For the fields of an accepted template the two accounts go
along with one another (`Agrees`), so each head picks what the check has recorded for it: the
automatic fields the positional captures in their order, a head of digits the capture of that
number, and any other head the capture or the parameter of that name.

This holds for each head by itself and not only for the whole, because the check compares what it
has recorded with what was captured, and refuses the template if anything is missing.
-/
import FaultContext.Proofs.Entering
import FaultContext.Proofs.FieldHeads
import FaultContext.Proofs.Filling

namespace FaultContext

open Format (Fields Numbering Arguments Head fieldHead advance pickHead trail decimals? Overflows)

namespace Template

/-! ## What the whole check asks for -/

theorem mem_sortedNames {names : List String} {n : String} : n ∈ sortedNames names ↔ n ∈ names := by
  rw [sortedNames, List.mem_eraseDups, List.mem_mergeSort]

/-- Where no number is beyond a bound, all are below it. -/
theorem lt_of_leastBeyond {bound : Nat} {indexes : List Nat}
    (h : leastBeyond bound indexes = none) : ∀ i ∈ indexes, i < bound := by
  have hsome : ∀ (rest : List Nat) (least : Nat),
      (rest.foldl (fun least n => some (least.elim n (min n))) (some least)) ≠ none := by
    intro rest
    induction rest with
    | nil => exact fun _ => nofun
    | cons n rest ih => exact fun least => ih _
  intro i hi
  refine Nat.lt_of_not_le fun hle => ?_
  have hmem : i ∈ indexes.filter (bound ≤ ·) := List.mem_filter.mpr ⟨hi, decide_eq_true hle⟩
  rw [leastBeyond] at h
  cases hbeyond : indexes.filter (bound ≤ ·) with
  | nil => rw [hbeyond] at hmem; cases hmem
  | cons n rest => rw [hbeyond] at h; exact hsome rest n h

/-- All that fields refer to is there. -/
structure Usage.Covered (u : Usage) (captures : Nat) (captured params : List String) : Prop where
  indexes : ∀ i ∈ u.indexes, i < captures
  names : ∀ n ∈ u.names, n ∈ captured ∨ n ∈ params

theorem covered_of_checkUsage {u : Usage} {positional : List Capture}
    {captured params : List String} (h : checkUsage u positional captured params = .ok ()) :
    u.Covered positional.length captured params := by
  simp only [checkUsage, bind, Except.bind, pure, Except.pure] at h
  cases hbeyond : leastBeyond positional.length u.indexes with
  | some index => rw [hbeyond] at h; cases h
  | none =>
    rw [hbeyond] at h
    dsimp only at h
    refine ⟨lt_of_leastBeyond hbeyond, fun n hn => ?_⟩
    split at h
    next => cases h
    next =>
      cases hmissing : (sortedNames u.names).find? fun n =>
          !captured.contains n && !params.contains n with
      | some name => rw [hmissing] at h; cases h
      | none =>
        have hfound := List.find?_eq_none.mp hmissing n (mem_sortedNames.mpr hn)
        simpa [or_iff_not_imp_left] using hfound

/-! ## Reading the fields -/

section

variable {u u' : Usage} {field : List Char × Option Char}

/-- What a field that is accepted adds to the account. -/
theorem addHead_of_add (h : u.add field = .ok u') :
    u.addHead (fieldHead field) = .ok u' ∧ ¬ (u'.automatic ≠ 0 ∧ u'.manual = true) := by
  have hadded : Usage.add.added u field.1 = .ok u' := by
    rw [Usage.add] at h
    split at h
    · split at h
      · exact h
      · cases h
    · exact h
  change (u.addHead (fieldHead field) >>= fun next =>
    if next.automatic ≠ 0 && next.manual then .error .mixedNumbering else .ok next) = _ at hadded
  cases hhead : u.addHead (fieldHead field) with
  | error fault => rw [hhead] at hadded; cases hadded
  | ok next =>
    rw [hhead] at hadded
    simp only [bind, Except.bind] at hadded
    split at hadded
    next => cases hadded
    next hmixed =>
      cases hadded
      exact ⟨rfl, by simpa using hmixed⟩

/-- The kinds of heads, and what each of them adds. -/
theorem cases_of_addHead {head : List Char} (h : u.addHead head = .ok u') :
    (head = [] ∧ u' = { u with
      indexes := u.automatic :: u.indexes, automatic := u.automatic + 1 }) ∨
    (head ≠ [] ∧ Text.isNumeric head = true ∧ ∃ n, decimals? 0 head = some n ∧
      u' = { u with manual := true, indexes := n :: u.indexes }) ∨
    (head ≠ [] ∧ Text.isNumeric head = false ∧ decimals? 0 head = none ∧
      u' = { u with names := String.ofList head :: u.names }) := by
  rw [Usage.addHead] at h
  split at h
  next hempty =>
    cases h
    exact .inl ⟨List.isEmpty_iff.mp hempty, rfl⟩
  next hempty =>
    have hhead : head ≠ [] := fun hnil => hempty (List.isEmpty_iff.mpr hnil)
    split at h
    next hnumeric =>
      cases hnumber : headNumber head with
      | error fault => rw [hnumber] at h; cases h
      | ok n =>
        rw [hnumber] at h
        cases h
        exact .inr (.inl ⟨hhead, hnumeric, n, decimals?_of_headNumber hnumeric hnumber, rfl⟩)
    next hname =>
      cases h
      rw [Bool.not_eq_true] at hname
      refine .inr (.inr ⟨hhead, hname, ?_, rfl⟩)
      cases hdecimals : decimals? 0 head with
      | none => rfl
      | some n => rw [isNumeric_of_decimals? hhead hdecimals] at hname; cases hname

/-- Fields without a head are counted. -/
theorem automatic_of_add (h : u.add field = .ok u') :
    u'.automatic = u.automatic + [fieldHead field].count [] := by
  have hcount : ∀ head : List Char, head ≠ [] → [head].count [] = 0 := fun head hhead =>
    List.count_eq_zero.mpr (by simpa using hhead.symm)
  rcases cases_of_addHead (addHead_of_add h).1 with
    ⟨hempty, rfl⟩ | ⟨hhead, -, n, -, rfl⟩ | ⟨hhead, -, -, rfl⟩
  · rw [hempty]
    rfl
  · rw [hcount _ hhead]
    rfl
  · rw [hcount _ hhead]
    rfl

/-- Nothing that has been recorded is forgotten. -/
theorem subset_of_foldlM {fields : List (List Char × Option Char)}
    (h : fields.foldlM Usage.add u = .ok u') : u.indexes ⊆ u'.indexes ∧ u.names ⊆ u'.names := by
  induction fields generalizing u with
  | nil => cases h; exact ⟨List.Subset.refl _, List.Subset.refl _⟩
  | cons field rest ih =>
    obtain ⟨next, hnext, hrest⟩ := except_bind_eq_ok.mp h
    obtain ⟨hindexes, hnames⟩ := ih hrest
    have hstep : u.indexes ⊆ next.indexes ∧ u.names ⊆ next.names := by
      rcases cases_of_addHead (addHead_of_add hnext).1 with
        ⟨-, rfl⟩ | ⟨-, -, n, -, rfl⟩ | ⟨-, -, -, rfl⟩ <;> simp
    exact ⟨List.Subset.trans hstep.1 hindexes, List.Subset.trans hstep.2 hnames⟩

/-- What the head of a field stands for, where `automatic` fields without a head stand before it.
-/
def headValue (args : Arguments) (automatic : Nat) (head : List Char) : Except Fault Value :=
  match Head.ofText head with
  | .error fault => .error (.path fault)
  | .ok .automatic => args.at automatic
  | .ok (.index n) => args.at n
  | .ok (.name text) =>
    match args.named.get? (String.ofList text) with
    | some v => .ok v
    | none => .error (.missingKey (.str .fresh (String.ofList text)))

/-- The account of the check and the numbering of fields go along with one another. -/
def Agrees (u : Usage) : Numbering → Prop
  | .undecided => u.automatic = 0
  | .automatic next => 0 < next ∧ u.automatic = next
  | .manual => u.manual = true

/-- **One field**: its head picks what it stands for, and the two accounts still agree. -/
theorem pickHead_of_add (args : Arguments) {n : Numbering} (h : u.add field = .ok u')
    (hn : Agrees u n) :
    ((pickHead args (fieldHead field)).run n).map Prod.fst =
        headValue args u.automatic (fieldHead field) ∧
      Agrees u' (advance n (fieldHead field)) := by
  obtain ⟨hadd, hmixed⟩ := addHead_of_add h
  generalize (fieldHead field) = head at hadd ⊢
  have hat : ∀ (index : Nat) (next : Numbering),
      ((do set next; args.at index : Format.Filling Value).run n).map Prod.fst = args.at index := by
    intro index next
    change (args.at index >>= fun v => Pure.pure (v, next)).map Prod.fst = _
    cases args.at index <;> rfl
  unfold headValue pickHead advance
  rcases cases_of_addHead hadd with
    ⟨rfl, rfl⟩ | ⟨hhead, -, i, hi, rfl⟩ | ⟨hhead, -, hname, rfl⟩
  · -- A field without a head takes the next number.
    have hof : Head.ofText [] = .ok .automatic := rfl
    rw [hof]
    cases n with
    | undecided =>
      have hzero : u.automatic = 0 := hn
      rw [hzero]
      exact ⟨hat 0 (.automatic 1), Nat.one_pos, rfl⟩
    | automatic next =>
      obtain ⟨hpos, rfl⟩ := hn
      exact ⟨hat _ _, Nat.succ_pos _, rfl⟩
    | manual => exact absurd ⟨Nat.succ_ne_zero _, hn⟩ hmixed
  · -- A number has been given; there are no fields without a head then.
    have hzero : u.automatic = 0 := Decidable.not_not.mp fun hne => hmixed ⟨hne, rfl⟩
    by_cases hover : Overflows 0 head
    · rw [Head.ofText_of_overflows hover]
      cases n with
      | undecided => exact ⟨rfl, hzero⟩
      | automatic next => exact absurd (hn.2.symm.trans hzero) (Nat.ne_of_gt hn.1)
      | manual => exact ⟨rfl, rfl⟩
    · rw [Head.ofText_of_not_overflows hhead hover, hi]
      cases n with
      | undecided => exact ⟨hat i .manual, rfl⟩
      | automatic next => exact absurd (hn.2.symm.trans hzero) (Nat.ne_of_gt hn.1)
      | manual => exact ⟨hat i .manual, rfl⟩
  · -- A name makes no difference to numbering.
    have hagrees : Agrees { u with names := String.ofList head :: u.names } n := by
      cases n <;> exact hn
    by_cases hover : Overflows 0 head
    · rw [Head.ofText_of_overflows hover]
      exact ⟨rfl, hagrees⟩
    · rw [Head.ofText_of_not_overflows hhead hover, hname]
      refine ⟨?_, hagrees⟩
      change ((match args.named.get? (String.ofList head) with
        | some v => Pure.pure v
        | none => throw (.missingKey (.str .fresh (String.ofList head))) :
        Format.Filling Value).run n).map Prod.fst =
        match args.named.get? (String.ofList head) with
        | some v => Except.ok v
        | none => .error (.missingKey (.str .fresh (String.ofList head)))
      cases args.named.get? (String.ofList head) <;> rfl

/-- **All fields**: each head picks what it stands for. -/
theorem trail_of_foldlM (args : Arguments) {fields : List (List Char × Option Char)}
    {n : Numbering} (h : fields.foldlM Usage.add u = .ok u') (hn : Agrees u n) {i : Nat}
    {head : List Char} (hi : (fields.map fieldHead)[i]? = some head) :
    (trail args n (fields.map fieldHead))[i]? =
      some (headValue args (u.automatic +
        ((fields.map fieldHead).take i).count []) head) := by
  induction fields generalizing u n i with
  | nil => cases hi
  | cons field rest ih =>
    obtain ⟨next, hnext, hrest⟩ := except_bind_eq_ok.mp h
    obtain ⟨hpick, hagrees⟩ := pickHead_of_add args hnext hn
    cases i with
    | zero =>
      cases hi
      rw [List.map_cons, trail, hpick]
      rfl
    | succ i =>
      have hlater := ih hrest hagrees hi
      rw [automatic_of_add hnext, Nat.add_assoc, ← List.count_append] at hlater
      rw [List.map_cons, trail, List.getElem?_cons_succ, hlater, List.take_succ_cons]
      rfl

/-- **What is recorded** is what heads stand for. -/
theorem mem_of_foldlM {fields : List (List Char × Option Char)}
    (h : fields.foldlM Usage.add u = .ok u') {i : Nat} {head : List Char}
    (hi : (fields.map fieldHead)[i]? = some head) :
    (head = [] ∧ u.automatic +
        ((fields.map fieldHead).take i).count [] ∈ u'.indexes) ∨
      (head ≠ [] ∧ Text.isNumeric head = true ∧ ∃ n ∈ u'.indexes, decimals? 0 head = some n) ∨
      (head ≠ [] ∧ Text.isNumeric head = false ∧ decimals? 0 head = none ∧
        String.ofList head ∈ u'.names) := by
  induction fields generalizing u i with
  | nil => cases hi
  | cons field rest ih =>
    obtain ⟨next, hnext, hrest⟩ := except_bind_eq_ok.mp h
    cases i with
    | zero =>
      cases hi
      obtain ⟨hindexes, hnames⟩ := subset_of_foldlM hrest
      rcases cases_of_addHead (addHead_of_add hnext).1 with
        ⟨hempty, rfl⟩ | ⟨hhead, hnumeric, n, hn, rfl⟩ | ⟨hhead, hname, hnone, rfl⟩
      · exact .inl ⟨hempty, hindexes List.mem_cons_self⟩
      · exact .inr (.inl ⟨hhead, hnumeric, n, hindexes List.mem_cons_self, hn⟩)
      · exact .inr (.inr ⟨hhead, hname, hnone, hnames List.mem_cons_self⟩)
    | succ i =>
      have hlater := ih hrest hi
      rw [automatic_of_add hnext, Nat.add_assoc, ← List.count_append] at hlater
      exact hlater

end

/-! ## Accepted templates -/

/-- A capture is recorded with its name and what was captured. -/
theorem eq_of_capture {s : Store} {params : List String} {name : Option String} {source : Value}
    {c : Capture} (h : capture s params name source = .ok c) :
    c.name = name ∧ c.source = source := by
  rw [capture] at h
  split at h
  · cases h
    exact ⟨rfl, rfl⟩
  · split at h
    · cases h
      exact ⟨rfl, rfl⟩
    next signature _ =>
      cases hmatched : matchParameters source params signature with
      | error fault => rw [hmatched] at h; cases h
      | ok matched =>
        rw [hmatched] at h
        cases h
        exact ⟨rfl, rfl⟩

/-- Captures are recorded in their order. -/
theorem sources_of_mapM {s : Store} {params : List String} {args : List Value}
    {positional : List Capture} (h : args.mapM (capture s params none) = .ok positional) :
    positional.map Capture.source = args := by
  have hsources : positional.map Capture.source = args.map id :=
    map_of_mapM (fun _ _ hc => (eq_of_capture hc).2) h
  rwa [List.map_id] at hsources

/-- What an accepted template is: a format text whose fields have known conversions and refer to
captures and parameters that are there. -/
structure Accepted (t : Template) (format : String) (args : List Value) (named : Named)
    (params : List String) : Prop where
  text : t.format = format
  sources : t.positional.map Capture.source = args
  captures : t.named.map (fun c => (c.name, c.source)) = named.map fun (n, v) => (some n, v)
  wellFormed : (Fields.ofText format.toList).malformed = none
  conversions : ∀ field ∈ (Fields.ofText format.toList).found, knownConversion field.2 = true
  usage : ∃ u, (Fields.ofText format.toList).found.foldlM Usage.add Usage.empty = .ok u ∧
    u.Covered args.length (named.map Prod.fst) params

theorem knownConversion_of_foldlM {fields : List (List Char × Option Char)} {u u' : Usage}
    (h : fields.foldlM Usage.add u = .ok u') :
    ∀ field ∈ fields, knownConversion field.2 = true := by
  induction fields generalizing u with
  | nil => exact fun _ hfield => absurd hfield List.not_mem_nil
  | cons field rest ih =>
    obtain ⟨next, hnext, hrest⟩ := except_bind_eq_ok.mp h
    refine List.forall_mem_cons.mpr ⟨?_, ih hrest⟩
    rw [Usage.add] at hnext
    split at hnext
    next c hc =>
      split at hnext
      next hknown => rw [hc]; exact hknown
      next => cases hnext
    next hnone => rw [hnone]; rfl

theorem accepted_of_parse {s : Store} {format : String} {args : List Value} {named : Named}
    {params : List String} {t : Template} (h : parse s format args named params = .ok t) :
    t.Accepted format args named params := by
  obtain ⟨positional, hpositional, h⟩ := except_bind_eq_ok.mp h
  obtain ⟨captures, hcaptures, h⟩ := except_bind_eq_ok.mp h
  obtain ⟨u, husage, h⟩ := except_bind_eq_ok.mp h
  obtain ⟨_, hcheck, h⟩ := except_bind_eq_ok.mp h
  cases h
  have hsources := sources_of_mapM hpositional
  obtain ⟨u', hfold, husage⟩ := except_bind_eq_ok.mp husage
  have hmalformed : (Fields.ofText format.toList).malformed = none ∧ u' = u := by
    split at husage
    · cases husage
    next hnone =>
      cases husage
      exact ⟨hnone, rfl⟩
  obtain ⟨hmalformed, rfl⟩ := hmalformed
  refine ⟨rfl, hsources, ?_, hmalformed, knownConversion_of_foldlM hfold, u', hfold, ?_⟩
  · refine map_of_mapM (fun entry c hc => ?_) hcaptures
    obtain ⟨hname, hsource⟩ := eq_of_capture hc
    rw [hname, hsource]
  · rw [← hsources, List.length_map]
    exact covered_of_checkUsage hcheck

end Template
end FaultContext
