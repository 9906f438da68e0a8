/-
# FaultContext.Proofs.Acceptance -- exactly which templates are accepted.

The check reads the fields of a template in one pass and keeps account of what they refer to; then
it compares the account with what was captured.  `Fillable` says the same without a pass: the text
and all specifications in it are format texts, conversions are known, the numbered fields are either
all automatic and as many as the captures or all explicit and refer to exactly the captures, the
named fields use up the named captures and need nothing but captures and parameters, and a capture
that is called gets along with the parameters.

`parse_text_ok_iff` proves the two the same, for every text and all captures.  The step lemma behind
it is about one head (`Records.addHead`): what the account holds is determined by the heads read so
far, whatever their order and however deep their fields stand.

Not here: which fault is reported for a template that is refused, see
`FaultContext.Proofs.Refusing`.
-/
import FaultContext.Proofs.Accepting

namespace FaultContext

/-! ## Format texts and their fields -/

namespace Format

/-- A text parses as a format text, and so do the specifications in it. -/
inductive WellFormed : List Char → Prop
  | intro {cs : List Char} (fault : (pieces cs).fault = none)
    (specs : ∀ piece ∈ (pieces cs).pieces, ∀ field, piece.field = some field → field.spec ≠ [] →
      WellFormed field.spec) : WellFormed cs

/-- All fields of a text in the order of reading, a field before those of its specification. -/
def fieldsWithin (cs : List Char) : List Field :=
  (pieces cs).pieces.attach.flatMap fun ⟨piece, hp⟩ =>
    match hf : piece.field with
    | none => []
    | some field =>
      have := spec_length_lt hp hf
      field :: fieldsWithin field.spec
termination_by cs.length

/-- The text in front of the first step of a field's name. -/
def Field.head (field : Field) : List Char := (splitHead field.name).1

theorem fieldsWithin_eq (cs : List Char) :
    fieldsWithin cs = (pieces cs).pieces.flatMap fun piece =>
      piece.field.elim [] fun field => field :: fieldsWithin field.spec := by
  rw [fieldsWithin, List.flatMap_subtype (g := fun piece =>
    piece.field.elim [] fun field => field :: fieldsWithin field.spec), List.unattach_attach]
  intro piece hp
  dsimp only
  split
  next hfield => rw [hfield]; rfl
  next field hfield => rw [hfield]; rfl

/-- The reading of several pieces stops where the reading of one of them does. -/
theorem malformed_foldr_append {readings : List Fields} :
    (readings.foldr Fields.append Fields.empty).malformed = none ↔
      ∀ reading ∈ readings, reading.malformed = none := by
  induction readings with
  | nil => simp [Fields.empty]
  | cons first rest ih => rw [List.foldr_cons, Fields.malformed_append, ih, List.forall_mem_cons]

/-- **The reading of a text is not stopped exactly where the text is well formed.** -/
theorem malformed_eq_none_iff {cs : List Char} :
    (Fields.ofText cs).malformed = none ↔ WellFormed cs := by
  constructor
  · -- A specification is shorter than the text it stands in.
    intro h
    induction hn : cs.length using Nat.strong_induction_on generalizing cs with
    | _ n ih =>
      obtain ⟨hfault, hspecs, -⟩ := wellFormed_of_malformed h
      refine ⟨hfault, fun piece hp field hfield _ => ?_⟩
      have hshorter := spec_length_lt hp hfield
      exact ih _ (hn ▸ hshorter) (hspecs piece hp field hfield) rfl
  · intro h
    induction h with
    | @intro cs fault specs ih =>
      rw [Fields.ofText_eq fault, malformed_foldr_append, List.forall_mem_map]
      intro piece hp
      rw [Fields.ofPiece]
      cases hfield : piece.field with
      | none => rfl
      | some field =>
        refine Fields.malformed_append.mpr ⟨rfl, ?_⟩
        by_cases hspec : field.spec = []
        · rw [hspec, Fields.ofText_nil]
          rfl
        · exact ih piece hp field hfield hspec

/-- The fields that are read are all fields of the text. -/
theorem found_eq_map_fieldsWithin {cs : List Char} (h : (Fields.ofText cs).malformed = none) :
    (Fields.ofText cs).found =
      (fieldsWithin cs).map fun field => (field.name, field.conversion) := by
  induction hn : cs.length using Nat.strong_induction_on generalizing cs with
  | _ n ih =>
    obtain ⟨-, hspecs, hfound⟩ := wellFormed_of_malformed h
    rw [hfound, fieldsWithin_eq, List.map_flatMap]
    refine List.flatMap_congr fun piece hp => ?_
    rw [fieldsOfPiece]
    cases hfield : piece.field with
    | none => rfl
    | some field =>
      have hshorter := spec_length_lt hp hfield
      dsimp only [Option.elim]
      rw [ih _ (hn ▸ hshorter) (hspecs piece hp field hfield) rfl, List.map_cons]

end Format

namespace Template

open Format (Fields WellFormed fieldsWithin fieldHead splitHead)

/-! ## What heads stand for -/

/-- A head is made of digits that write a number. -/
def Writes (head : List Char) (n : Nat) : Prop :=
  Text.isNumeric head = true ∧ Number.readInteger 10 (String.ofList head) = .ok (n : Int)

/-- A head is a name if it is not empty and not made of digits. -/
def IsName (head : List Char) : Prop :=
  head ≠ [] ∧ Text.isNumeric head = false

/-- A head of digits can be read as a number. -/
def Legible (head : List Char) : Prop :=
  Text.isNumeric head = true → ∃ n, Writes head n

/-- The heads refer to the positional captures `0, …, k - 1`: either all without a head and as many
as there are captures, or by number. -/
inductive Numbered (heads : List (List Char)) (k : Nat) : Prop
  | automatic (unnumbered : ∀ head ∈ heads, Text.isNumeric head = false)
    (count : heads.count [] = k)
  | manual (numbered : [] ∉ heads) (legible : ∀ head ∈ heads, Legible head)
    (exact : ∀ n, (∃ head ∈ heads, Writes head n) ↔ n < k)

/-- Some heads are empty and others are made of digits. -/
def Mixed (heads : List (List Char)) : Prop :=
  [] ∈ heads ∧ ∃ head ∈ heads, Text.isNumeric head = true

theorem isNumeric_nil : Text.isNumeric [] = false := rfl

theorem headNumber_eq_ok_iff {head : List Char} {n : Nat} (h : Text.isNumeric head = true) :
    headNumber head = .ok n ↔ Writes head n := by
  unfold headNumber Writes Store.readInteger
  rw [readInteger_of_isNumeric h, and_iff_right h]
  cases Number.readUnsigned 10 head with
  | error fault => cases fault <;> simp [Except.map, Except.mapError]
  | ok m =>
    show (.ok m : Except TemplateFault Nat) = .ok n ↔
      (.ok (m : Int) : Except Number.IntegerFault Int) = .ok (n : Int)
    rw [Except.ok.injEq, Except.ok.injEq, Int.ofNat_inj]

/-! ## The account of the fields -/

/-- The account is what the heads read so far say. -/
structure Usage.Records (u : Usage) (heads : List (List Char)) : Prop where
  automatic : u.automatic = heads.count []
  manual : u.manual = true ↔ ∃ head ∈ heads, Text.isNumeric head = true
  indexes : ∀ n, n ∈ u.indexes ↔ n < heads.count [] ∨ ∃ head ∈ heads, Writes head n
  names : ∀ n, n ∈ u.names ↔ ∃ head ∈ heads, IsName head ∧ String.ofList head = n

section

variable {u u' : Usage} {heads : List (List Char)} {head : List Char}

theorem Usage.records_empty : Usage.empty.Records [] := by
  constructor <;> simp [Usage.empty]

theorem exists_mem_concat {p : List Char → Prop} :
    (∃ h ∈ heads ++ [head], p h) ↔ (∃ h ∈ heads, p h) ∨ p head := by
  constructor
  · rintro ⟨h, hmem, hp⟩
    rcases List.mem_append.mp hmem with hmem | hmem
    · exact .inl ⟨h, hmem, hp⟩
    · exact .inr (List.mem_singleton.mp hmem ▸ hp)
  · rintro (⟨h, hmem, hp⟩ | hp)
    · exact ⟨h, List.mem_append_left _ hmem, hp⟩
    · exact ⟨head, List.mem_append_right _ (List.mem_singleton_self _), hp⟩

/-- Digits write one number. -/
theorem Writes.unique {n m : Nat} (hn : Writes head n) (hm : Writes head m) : m = n := by
  have heq : (.ok (m : Int) : Except Number.IntegerFault Int) = .ok (n : Int) :=
    hm.2.symm.trans hn.2
  simp only [Except.ok.injEq] at heq
  omega

/-- **One head**: the account still is what the heads say. -/
theorem Usage.Records.addHead (h : u.Records heads) (hadd : u.addHead head = .ok u') :
    u'.Records (heads ++ [head]) := by
  obtain ⟨hautomatic, hmanual, hindexes, hnames⟩ := h
  unfold Usage.addHead at hadd
  split at hadd
  next hempty =>
    -- It takes the next number.
    cases hadd
    rw [List.isEmpty_iff] at hempty
    subst hempty
    have hcount : (heads ++ [[]]).count [] = heads.count [] + 1 := by simp
    refine ⟨?_, ?_, fun n => ?_, fun n => ?_⟩
    · rw [hcount, ← hautomatic]
    · simp [hmanual, isNumeric_nil]
    · have hwrites : ¬Writes [] n := fun h => absurd h.1 (by simp [isNumeric_nil])
      rw [exists_mem_concat, or_iff_left hwrites, hcount, List.mem_cons, hindexes, hautomatic,
        ← or_assoc]
      refine or_congr_left ?_
      omega
    · simp [hnames, IsName]
  next hempty =>
    have hhead : head ≠ [] := fun hnil => hempty (List.isEmpty_iff.mpr hnil)
    have hcount : (heads ++ [head]).count [] = heads.count [] := by
      rw [List.count_append, List.count_singleton, if_neg (by simpa using hhead), Nat.add_zero]
    split at hadd
    next hnumeric =>
      -- It refers to the number that it writes, and to no other one.
      obtain ⟨n, hn, rfl⟩ := except_map_eq_ok.mp hadd
      rw [headNumber_eq_ok_iff hnumeric] at hn
      refine ⟨?_, ?_, fun m => ?_, fun m => ?_⟩
      · rw [hcount, ← hautomatic]
      · simp [hnumeric]
      · have hwrites : Writes head m ↔ m = n := ⟨hn.unique, fun heq => heq ▸ hn⟩
        rw [exists_mem_concat, hwrites, hcount, List.mem_cons, hindexes, or_comm, or_assoc]
      · simp [hnames, IsName, hnumeric]
    next hname =>
      cases hadd
      rw [Bool.not_eq_true] at hname
      refine ⟨?_, ?_, fun n => ?_, fun n => ?_⟩
      · rw [hcount, ← hautomatic]
      · simp [hmanual, hname]
      · have hwrites : ¬Writes head n := fun h => absurd h.1 (by simp [hname])
        rw [exists_mem_concat, or_iff_left hwrites, hcount, hindexes]
      · have hisName : IsName head := ⟨hhead, hname⟩
        rw [exists_mem_concat, List.mem_cons, hnames, or_comm, eq_comm (a := n)]
        simp [hisName]

/-- A head can be taken account of unless it is made of digits that write no number. -/
theorem Usage.addHead_ok_iff : (∃ u', u.addHead head = .ok u') ↔ Legible head := by
  unfold Usage.addHead Legible
  split
  next hempty =>
    rw [List.isEmpty_iff] at hempty
    simp [hempty, isNumeric_nil]
  · split
    next hnumeric =>
      simp only [hnumeric, forall_const, except_map_eq_ok, headNumber_eq_ok_iff hnumeric]
      constructor
      · rintro ⟨_, n, hn, -⟩
        exact ⟨n, hn⟩
      · rintro ⟨n, hn⟩
        exact ⟨_, n, hn, rfl⟩
    next hname => simp [hname]

/-- Numbering is mixed in the account exactly where it is mixed in the heads. -/
theorem Usage.Records.mixed_iff (h : u.Records heads) :
    (u.automatic ≠ 0 ∧ u.manual = true) ↔ Mixed heads := by
  unfold Mixed
  rw [h.automatic, h.manual, ← Nat.pos_iff_ne_zero, List.count_pos_iff]

variable {field : List Char × Option Char} {fields : List (List Char × Option Char)}

/-- A field with a conversion that is known is taken account of by its head. -/
theorem Usage.add_of_known (hknown : knownConversion field.2 = true) :
    u.add field = (do
      let next ← u.addHead (fieldHead field)
      if next.automatic ≠ 0 && next.manual then .error .mixedNumbering else .ok next) := by
  obtain ⟨name, _ | c⟩ := field
  · rfl
  · exact if_pos hknown

theorem Usage.add_eq_ok_iff :
    u.add field = .ok u' ↔ knownConversion field.2 = true ∧
      u.addHead (fieldHead field) = .ok u' ∧ ¬(u'.automatic ≠ 0 ∧ u'.manual = true) := by
  constructor
  · intro h
    have hfold : [field].foldlM Usage.add u = .ok u' := by
      rw [List.foldlM_cons, h]
      rfl
    have hknown := knownConversion_of_foldlM hfold field List.mem_cons_self
    exact ⟨hknown, addHead_of_add h⟩
  · rintro ⟨hknown, hadd, hmixed⟩
    rw [Usage.add_of_known hknown, hadd]
    exact if_neg (by simpa using hmixed)

/-- **All fields**: the account is what all their heads say. -/
theorem Usage.Records.foldlM (h : u.Records heads) (hrun : fields.foldlM Usage.add u = .ok u') :
    u'.Records (heads ++ fields.map fieldHead) := by
  induction fields generalizing u heads with
  | nil =>
    cases hrun
    simpa using h
  | cons field rest ih =>
    obtain ⟨next, hnext, hrest⟩ := except_bind_eq_ok.mp hrun
    have hlater := ih (h.addHead (Usage.add_eq_ok_iff.mp hnext).2.1) hrest
    rwa [List.append_assoc] at hlater

/-- A field can be read by itself. -/
def Readable (field : List Char × Option Char) : Prop :=
  knownConversion field.2 = true ∧ Legible (fieldHead field)

theorem Mixed.append (h : Mixed heads) (later : List (List Char)) : Mixed (heads ++ later) := by
  obtain ⟨hempty, head, hhead, hnumeric⟩ := h
  exact ⟨List.mem_append_left _ hempty, head, List.mem_append_left _ hhead, hnumeric⟩

/-- **The fields can be read in turn exactly where each can be read by itself and numbering is not
mixed.**  Where it is mixed, it stays so, so the whole decides and not each step. -/
theorem Usage.Records.foldlM_ok_iff (h : u.Records heads) (hmixed : ¬Mixed heads) :
    (∃ u', fields.foldlM Usage.add u = .ok u') ↔
      (∀ field ∈ fields, Readable field) ∧ ¬Mixed (heads ++ fields.map fieldHead) := by
  induction fields generalizing u heads with
  | nil =>
    simp only [List.not_mem_nil, false_imp_iff, implies_true, List.map_nil, List.append_nil,
      true_and]
    exact ⟨fun _ => hmixed, fun _ => ⟨u, rfl⟩⟩
  | cons field rest ih =>
    rw [List.forall_mem_cons, List.map_cons, List.append_cons]
    constructor
    · rintro ⟨u', hrun⟩
      obtain ⟨next, hnext, hrest⟩ := except_bind_eq_ok.mp hrun
      obtain ⟨hknown, hadd, hsingle⟩ := Usage.add_eq_ok_iff.mp hnext
      have hrecords := h.addHead hadd
      rw [hrecords.mixed_iff] at hsingle
      obtain ⟨hreadable, hwhole⟩ := (ih hrecords hsingle).mp ⟨u', hrest⟩
      exact ⟨⟨⟨hknown, Usage.addHead_ok_iff.mp ⟨next, hadd⟩⟩, hreadable⟩, hwhole⟩
    · rintro ⟨⟨⟨hknown, hlegible⟩, hreadable⟩, hwhole⟩
      obtain ⟨next, hadd⟩ := Usage.addHead_ok_iff (u := u).mpr hlegible
      have hrecords := h.addHead hadd
      have hsingle : ¬Mixed (heads ++ [fieldHead field]) := fun hm => hwhole (hm.append _)
      obtain ⟨u', hrest⟩ := (ih hrecords hsingle).mpr ⟨hreadable, hwhole⟩
      rw [← hrecords.mixed_iff] at hsingle
      refine ⟨u', except_bind_eq_ok.mpr ⟨next, ?_, hrest⟩⟩
      exact Usage.add_eq_ok_iff.mpr ⟨hknown, hadd, hsingle⟩

end

/-! ## The account against the captures -/

theorem leastBeyond_eq_none_iff {bound : Nat} {indexes : List Nat} :
    leastBeyond bound indexes = none ↔ ∀ i ∈ indexes, i < bound := by
  constructor
  · exact lt_of_leastBeyond
  · intro h
    have hnone : indexes.filter (bound ≤ ·) = [] := by
      rw [List.filter_eq_nil_iff]
      intro i hi
      have := h i hi
      simp
      omega
    rw [leastBeyond, hnone]
    rfl

/-- All captures from a place on are used. -/
theorem unusedAt_eq_nil_iff {used : List Nat} {place : Nat} {captures : List Capture} :
    unusedAt used place captures = [] ↔ ∀ i < captures.length, place + i ∈ used := by
  induction captures generalizing place with
  | nil => simp [unusedAt]
  | cons c rest ih =>
    have hsplit : (∀ i < (c :: rest).length, place + i ∈ used) ↔
        place ∈ used ∧ ∀ i < rest.length, place + 1 + i ∈ used := by
      constructor
      · intro h
        refine ⟨h 0 (by simp), fun i hi => ?_⟩
        rw [Nat.add_assoc, Nat.add_comm 1 i]
        exact h (i + 1) (by simpa using hi)
      · rintro ⟨hfirst, hrest⟩ (_ | i) hi
        · exact hfirst
        · rw [Nat.add_comm i 1, ← Nat.add_assoc]
          exact hrest i (by simpa using hi)
    rw [hsplit, unusedAt]
    split
    next hused => simp [ih, List.contains_iff_mem.mp hused]
    next hunused =>
      refine iff_of_false (List.cons_ne_nil _ _) fun h => hunused ?_
      exact List.contains_iff_mem.mpr h.1

theorem sortedNames_eq_nil_iff {names : List String} : sortedNames names = [] ↔ names = [] := by
  constructor
  · intro h
    rw [List.eq_nil_iff_forall_not_mem]
    intro n hn
    rw [← mem_sortedNames, h] at hn
    cases hn
  · rintro rfl
    simp [sortedNames]

/-- **The comparison**: the numbers used are exactly the places of the captures, the names are
captures or parameters, and every named capture is used. -/
theorem checkUsage_eq_ok_iff {u : Usage} {positional : List Capture}
    {captured params : List String} :
    checkUsage u positional captured params = .ok () ↔
      (∀ i, i ∈ u.indexes ↔ i < positional.length) ∧
      (∀ n ∈ u.names, n ∈ captured ∨ n ∈ params) ∧ ∀ n ∈ captured, n ∈ u.names := by
  have hplaces : (∀ i, i ∈ u.indexes ↔ i < positional.length) ↔
      leastBeyond positional.length u.indexes = none ∧ unusedAt u.indexes 0 positional = [] := by
    rw [leastBeyond_eq_none_iff, unusedAt_eq_nil_iff]
    simp only [Nat.zero_add]
    exact ⟨fun h => ⟨fun i => (h i).mp, fun i => (h i).mpr⟩, fun h i => ⟨h.1 i, h.2 i⟩⟩
  have hmissing : (∀ n ∈ u.names, n ∈ captured ∨ n ∈ params) ↔
      ((sortedNames u.names).find? fun n => !captured.contains n && !params.contains n) =
        none := by
    simp only [List.find?_eq_none, mem_sortedNames, Bool.and_eq_true, Bool.not_eq_true',
      List.contains_eq_mem, decide_eq_false_iff_not, not_and, not_not, or_iff_not_imp_left]
  have hunused : (∀ n ∈ captured, n ∈ u.names) ↔
      sortedNames (captured.filter fun n => !(sortedNames u.names).contains n) = [] := by
    simp [sortedNames_eq_nil_iff, List.filter_eq_nil_iff, mem_sortedNames]
  rw [hplaces, hmissing, hunused]
  simp only [checkUsage, bind, Except.bind, pure, Except.pure, throw, throwThe,
    MonadExceptOf.throw]
  cases leastBeyond positional.length u.indexes with
  | some index => simp
  | none =>
    cases unusedAt u.indexes 0 positional with
    | cons => simp
    | nil =>
      cases (sortedNames u.names).find? fun n => !captured.contains n && !params.contains n with
      | some name => simp
      | none =>
        cases sortedNames (captured.filter fun n => !(sortedNames u.names).contains n) with
        | cons => simp
        | nil => simp

/-! ## Captures -/

/-- A parameter of a captured function is provided for: it collects arguments, or it is a parameter
of the decorated function and can be given by name, or it has a default. -/
def Provided (params : List String) (p : Param) : Prop :=
  p.isCollector = true ∨ (p.name ∈ params ∧ p.kind ≠ .positionalOnly) ∨ p.default.isSome = true

/-- A captured value that can be called, and whose signature is known, gets along with the
parameters. -/
def Suits (s : Store) (params : List String) (source : Value) : Prop :=
  s.isCallable source = true → ∀ signature, s.signature true source = .ok signature →
    ∀ p ∈ signature, Provided params p

theorem matchParameters_ok_iff {source : Value} {params : List String} {signature : Signature} :
    (∃ matched, matchParameters source params signature = .ok matched) ↔
      ∀ p ∈ signature, Provided params p := by
  induction signature with
  | nil => simp [matchParameters]
  | cons p rest ih =>
    have hmap : ∀ k : List String × Bool → List String × Bool,
        (∃ matched, (matchParameters source params rest).map k = .ok matched) ↔
          ∀ p ∈ rest, Provided params p := by
      intro k
      rw [except_map_ok_iff, ih]
    have hother : p.isCollector = false →
        ((∃ matched,
          (if params.contains p.name && p.kind != .positionalOnly then
            (matchParameters source params rest).map fun found => (p.name :: found.1, found.2)
          else if p.default.isNone then .error (.captureParameter source p.name)
          else matchParameters source params rest) = .ok matched) ↔
        Provided params p ∧ ∀ p ∈ rest, Provided params p) := by
      intro hcollector
      by_cases hnamed : (params.contains p.name && p.kind != .positionalOnly) = true
      · have hprovided : Provided params p := .inr (.inl (by simpa using hnamed))
        rw [if_pos hnamed, and_iff_right hprovided]
        exact hmap _
      · rw [if_neg hnamed]
        by_cases hdefault : p.default.isNone = true
        · rw [if_pos hdefault]
          refine iff_of_false (by simp) ?_
          rintro ⟨h | h | h, -⟩
          · rw [hcollector] at h
            cases h
          · exact hnamed (by simpa using h)
          · rw [Option.isNone_iff_eq_none.mp hdefault] at h
            cases h
        · have hprovided : Provided params p :=
            .inr (.inr (by simpa [Option.isSome_iff_ne_none] using hdefault))
          rw [if_neg hdefault, and_iff_right hprovided]
          exact ih
    have hcollector : p.isCollector = true → Provided params p := .inl
    rw [List.forall_mem_cons, matchParameters]
    cases hkind : p.kind with
    | varPositional =>
      rw [and_iff_right (hcollector (by simp [Param.isCollector, hkind]))]
      exact ih
    | varKeyword =>
      rw [and_iff_right (hcollector (by simp [Param.isCollector, hkind]))]
      exact hmap _
    | _ =>
      -- No collector: it is named, or has a default, or is refused.
      have h := hother (by simp [Param.isCollector, hkind])
      rwa [hkind] at h

theorem capture_ok_iff {s : Store} {params : List String} {name : Option String} {source : Value} :
    (∃ c, capture s params name source = .ok c) ↔ Suits s params source := by
  unfold capture Suits
  cases hcallable : s.isCallable source with
  | false => simp
  | true =>
    cases hsignature : s.signature true source with
    | error fault => simp
    | ok signature =>
      simp only [Bool.not_true, Bool.false_eq_true, if_false, forall_const, Except.ok.injEq,
        forall_eq', ← @matchParameters_ok_iff source params signature]
      exact except_map_ok_iff

/-- Captures can be recorded if each of them suits. -/
theorem captures_ok_iff {s : Store} {args : List Value} {named : Named} {params : List String} :
    ((∃ positional, args.mapM (capture s params none) = .ok positional) ∧
        ∃ captures, (named.mapM fun (name, source) => capture s params (some name) source) =
          .ok captures) ↔
      ∀ source ∈ args ++ named.map Prod.snd, Suits s params source := by
  rw [mapM_ok_iff, mapM_ok_iff, List.forall_mem_append, List.forall_mem_map]
  simp only [capture_ok_iff]

/-! ## The whole check -/

/-- A template can be filled from the captures and the parameters. -/
structure Fillable (s : Store) (format : String) (args : List Value) (named : Named)
    (params : List String) : Prop where
  wellFormed : WellFormed format.toList
  conversions : ∀ field ∈ fieldsWithin format.toList,
    field.conversion ∈ [none, some 'r', some 's', some 'a']
  numbered : Numbered ((fieldsWithin format.toList).map Format.Field.head) args.length
  used : ∀ n ∈ named.map Prod.fst,
    ∃ field ∈ fieldsWithin format.toList, IsName field.head ∧ String.ofList field.head = n
  present : ∀ field ∈ fieldsWithin format.toList, IsName field.head →
    String.ofList field.head ∈ named.map Prod.fst ∨ String.ofList field.head ∈ params
  captures : ∀ source ∈ args ++ named.map Prod.snd, Suits s params source

theorem knownConversion_iff {conversion : Option Char} :
    knownConversion conversion = true ↔
      conversion ∈ [none, some 'r', some 's', some 'a'] := by
  unfold knownConversion
  split
  · simp
  · simp
  · simp
  · simp
  next hnone hr hs ha =>
    simp only [Bool.false_eq_true, List.mem_cons, List.not_mem_nil, or_false, false_iff, not_or]
    exact ⟨hnone, hr, hs, ha⟩

/-- The numbers that heads refer to are exactly those below a bound if the heads are numbered up to
it, where numbering is not mixed. -/
theorem numbered_iff {heads : List (List Char)} {k : Nat} :
    Numbered heads k ↔ (∀ head ∈ heads, Legible head) ∧ ¬Mixed heads ∧
      ∀ n, (n < heads.count [] ∨ ∃ head ∈ heads, Writes head n) ↔ n < k := by
  constructor
  · rintro (⟨hunnumbered, rfl⟩ | ⟨hnumbered, hlegible, hexact⟩)
    · refine ⟨?_, ?_, fun n => ?_⟩
      · intro head hhead hnumeric
        rw [hunnumbered head hhead] at hnumeric
        cases hnumeric
      · rintro ⟨-, head, hhead, hnumeric⟩
        rw [hunnumbered head hhead] at hnumeric
        cases hnumeric
      · refine or_iff_left ?_
        rintro ⟨head, hhead, hnumeric, -⟩
        rw [hunnumbered head hhead] at hnumeric
        cases hnumeric
    · refine ⟨hlegible, fun h => hnumbered h.1, fun n => ?_⟩
      rw [List.count_eq_zero.mpr hnumbered, ← hexact n]
      simp
  · rintro ⟨hlegible, hmixed, hexact⟩
    by_cases hempty : [] ∈ heads
    · -- All fields are automatic then.
      have hunnumbered : ∀ head ∈ heads, Text.isNumeric head = false := by
        intro head hhead
        rw [← Bool.not_eq_true]
        exact fun hnumeric => hmixed ⟨hempty, head, hhead, hnumeric⟩
      have hwrites : ∀ n, ¬∃ head ∈ heads, Writes head n := by
        rintro n ⟨head, hhead, hnumeric, -⟩
        rw [hunnumbered head hhead] at hnumeric
        cases hnumeric
      have hcount : ∀ n, n < heads.count [] ↔ n < k := by
        intro n
        rw [← hexact n, or_iff_left (hwrites n)]
      have hle := hcount k
      have hge := hcount (heads.count [])
      exact .automatic hunnumbered (by omega)
    · refine .manual hempty hlegible fun n => ?_
      rw [← hexact n, List.count_eq_zero.mpr hempty]
      simp

theorem usage_eq_ok_iff {fields : Fields} {u : Usage} :
    usage fields = .ok u ↔
      fields.found.foldlM Usage.add Usage.empty = .ok u ∧ fields.malformed = none := by
  unfold usage
  rw [except_bind_eq_ok]
  cases fields.malformed with
  | none => simp [pure, Except.pure]
  | some malformed => simp

/-- The heads that are read are those of all fields. -/
theorem map_fieldHead_found {format : List Char}
    (h : (Fields.ofText format).malformed = none) :
    (Fields.ofText format).found.map fieldHead =
      (fieldsWithin format).map Format.Field.head := by
  rw [Format.found_eq_map_fieldsWithin h, List.map_map]
  rfl

/-- The fields of a format text can be read in turn. -/
theorem found_foldlM_ok_iff {format : List Char} (h : (Fields.ofText format).malformed = none) :
    (∃ u, (Fields.ofText format).found.foldlM Usage.add Usage.empty = .ok u) ↔
      (∀ field ∈ fieldsWithin format, field.conversion ∈ [none, some 'r', some 's', some 'a']) ∧
      (∀ head ∈ (fieldsWithin format).map Format.Field.head, Legible head) ∧
      ¬Mixed ((fieldsWithin format).map Format.Field.head) := by
  rw [Usage.records_empty.foldlM_ok_iff (by simp [Mixed]), List.nil_append,
    map_fieldHead_found h, ← and_assoc]
  refine and_congr_left fun _ => ?_
  simp only [Format.found_eq_map_fieldsWithin h, List.forall_mem_map, Readable,
    knownConversion_iff, forall_and]
  rfl

/-- The account of the fields of a format text is compared with what was captured. -/
theorem checkUsage_found_iff {format : List Char} {u : Usage} {positional : List Capture}
    {captured params : List String} (h : (Fields.ofText format).malformed = none)
    (hu : (Fields.ofText format).found.foldlM Usage.add Usage.empty = .ok u) :
    checkUsage u positional captured params = .ok () ↔
      (∀ n, (n < ((fieldsWithin format).map Format.Field.head).count [] ∨
        ∃ head ∈ (fieldsWithin format).map Format.Field.head, Writes head n) ↔
          n < positional.length) ∧
      (∀ field ∈ fieldsWithin format, IsName field.head →
        String.ofList field.head ∈ captured ∨ String.ofList field.head ∈ params) ∧
      ∀ n ∈ captured,
        ∃ field ∈ fieldsWithin format, IsName field.head ∧ String.ofList field.head = n := by
  have hrecords := Usage.records_empty.foldlM hu
  rw [List.nil_append, map_fieldHead_found h] at hrecords
  have hnames : ∀ n, n ∈ u.names ↔
      ∃ field ∈ fieldsWithin format, IsName field.head ∧ String.ofList field.head = n := by
    intro n
    rw [hrecords.names]
    simp
  rw [checkUsage_eq_ok_iff]
  simp only [hrecords.indexes, hnames]
  refine and_congr_right fun _ => and_congr_left fun _ => ?_
  constructor
  · intro h field hfield hname
    exact h _ ⟨field, hfield, hname, rfl⟩
  · rintro h n ⟨field, hfield, hname, rfl⟩
    exact h field hfield hname

/-- **The fields are read and their account is what was captured.** -/
theorem usage_ok_iff {format : List Char} {positional : List Capture}
    {captured params : List String} :
    (∃ u, usage (Fields.ofText format) = .ok u ∧
        checkUsage u positional captured params = .ok ()) ↔
      WellFormed format ∧
      (∀ field ∈ fieldsWithin format, field.conversion ∈ [none, some 'r', some 's', some 'a']) ∧
      Numbered ((fieldsWithin format).map Format.Field.head) positional.length ∧
      (∀ n ∈ captured,
        ∃ field ∈ fieldsWithin format, IsName field.head ∧ String.ofList field.head = n) ∧
      ∀ field ∈ fieldsWithin format, IsName field.head →
        String.ofList field.head ∈ captured ∨ String.ofList field.head ∈ params := by
  simp only [usage_eq_ok_iff]
  rw [← Format.malformed_eq_none_iff, numbered_iff]
  constructor
  · rintro ⟨u, ⟨hu, hformed⟩, hcheck⟩
    obtain ⟨hconversions, hlegible, hmixed⟩ := (found_foldlM_ok_iff hformed).mp ⟨u, hu⟩
    obtain ⟨hexact, hpresent, hused⟩ := (checkUsage_found_iff hformed hu).mp hcheck
    exact ⟨hformed, hconversions, ⟨hlegible, hmixed, hexact⟩, hused, hpresent⟩
  · rintro ⟨hformed, hconversions, ⟨hlegible, hmixed, hexact⟩, hused, hpresent⟩
    obtain ⟨u, hu⟩ := (found_foldlM_ok_iff hformed).mpr ⟨hconversions, hlegible, hmixed⟩
    exact ⟨u, ⟨hu, hformed⟩, (checkUsage_found_iff hformed hu).mpr ⟨hexact, hpresent, hused⟩⟩

theorem parse_ok_iff {s : Store} {format : String} {args : List Value} {named : Named}
    {params : List String} :
    (∃ t, parse s format args named params = .ok t) ↔ Fillable s format args named params := by
  have hcount : ∀ positional, args.mapM (capture s params none) = .ok positional →
      positional.length = args.length := by
    intro positional hargs
    rw [← sources_of_mapM hargs, List.length_map]
  constructor
  · rintro ⟨t, h⟩
    obtain ⟨positional, hargs, h⟩ := except_bind_eq_ok.mp h
    obtain ⟨captures, hcaptures, h⟩ := except_bind_eq_ok.mp h
    obtain ⟨u, husage, h⟩ := except_bind_eq_ok.mp h
    obtain ⟨⟨⟩, hcheck, h⟩ := except_bind_eq_ok.mp h
    obtain ⟨hformed, hconversions, hnumbered, hused, hpresent⟩ :=
      usage_ok_iff.mp ⟨u, husage, hcheck⟩
    rw [hcount positional hargs] at hnumbered
    have hsuits := captures_ok_iff.mp ⟨⟨positional, hargs⟩, captures, hcaptures⟩
    exact ⟨hformed, hconversions, hnumbered, hused, hpresent, hsuits⟩
  · rintro ⟨hformed, hconversions, hnumbered, hused, hpresent, hsuits⟩
    obtain ⟨⟨positional, hargs⟩, captures, hcaptures⟩ := captures_ok_iff.mpr hsuits
    rw [← hcount positional hargs] at hnumbered
    obtain ⟨u, husage, hcheck⟩ :=
      usage_ok_iff.mpr ⟨hformed, hconversions, hnumbered, hused, hpresent⟩
    refine ⟨⟨format, positional, captures⟩, except_bind_eq_ok.mpr ⟨positional, hargs, ?_⟩⟩
    refine except_bind_eq_ok.mpr ⟨captures, hcaptures, ?_⟩
    exact except_bind_eq_ok.mpr ⟨u, husage, except_bind_eq_ok.mpr ⟨(), hcheck, rfl⟩⟩

end Template

/-- **A text is accepted exactly if it can be filled**, and then it becomes a template of this text
with the captures in the order in which they were given. -/
theorem ContextSource.parse_text_ok_iff (s : Store) (id : Identity) (format : String)
    (args : List Value) (named : Named) (params : List String) :
    (∀ source, ContextSource.parse s (.str id format) args named params = .ok source →
      ∃ t, source = .template t ∧ t.format = format ∧ t.positional.map Capture.source = args ∧
        t.named.map (fun c => (c.name, c.source)) = named.map fun (n, v) => (some n, v)) ∧
    ((∃ source, ContextSource.parse s (.str id format) args named params = .ok source) ↔
      Template.Fillable s format args named params) := by
  have htemplate : ∀ source,
      ContextSource.parse s (.str id format) args named params = .ok source ↔
        ∃ t, Template.parse s format args named params = .ok t ∧ source = .template t :=
    fun _ => except_map_eq_ok
  constructor
  · intro source hsource
    obtain ⟨t, ht, rfl⟩ := (htemplate source).mp hsource
    have haccepted := Template.accepted_of_parse ht
    exact ⟨t, rfl, haccepted.text, haccepted.sources, haccepted.captures⟩
  · rw [← Template.parse_ok_iff]
    constructor
    · rintro ⟨source, hsource⟩
      obtain ⟨t, ht, -⟩ := (htemplate source).mp hsource
      exact ⟨t, ht⟩
    · rintro ⟨t, ht⟩
      exact ⟨.template t, (htemplate _).mpr ⟨t, ht, rfl⟩⟩

end FaultContext
