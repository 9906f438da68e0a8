/-
# FaultContext.Proofs.Refusing -- what is raised for a template that is refused.

A template that is refused is refused with an exception of the library's own class, with one
exception: a head of digits that write no number raises what reading an integer raises.  Two tests
do not coincide there.  A head counts as a number if all its characters are digits, and a
superscript or a circled digit is one; an integer is read from decimal digits only, and from no more
of them than `Number.longestInteger`.  `writes_iff` tells the two apart, and
`parse_raises_valueError_iff` says which templates are concerned: those whose captures are in order
and in which such a head is met before anything else is wrong.

Showing a fault can fail by itself, where it names a captured value or a number.  Captured values
are assumed to have texts; the numbers that are named always have one, because they have been read
from so many digits or are places in the list of captures.
-/
import Mathlib.Data.Nat.Digits.Defs
import FaultContext.Proofs.Acceptance
import FaultContext.Proofs.Answering

namespace FaultContext

open Eval

/-! ## Heads of digits -/

namespace Format

/-- Digits add to a number no more places than there are digits. -/
theorem decimals?_lt {cs : List Char} {acc n k : Nat} (h : decimals? acc cs = some n)
    (hacc : acc < 10 ^ k) : n < 10 ^ (k + cs.length) := by
  induction cs generalizing acc k with
  | nil =>
    cases h
    simpa using hacc
  | cons c rest ih =>
    obtain ⟨d, hd, hrest⟩ := Option.bind_eq_some_iff.mp h
    have hlt := Text.decimalValue?_lt hd
    have hnext : 10 * acc + d < 10 ^ (k + 1) := by
      rw [pow_succ]
      omega
    rw [List.length_cons, Nat.add_comm rest.length, ← Nat.add_assoc]
    exact ih hrest hnext

end Format

namespace Number

/-- Decimal digits are read to their end, whatever has been read in front of them. -/
theorem scanDigits_of_decimals? {cs : List Char} {isOpen : Bool} {value count n : Nat}
    (h : Format.decimals? value cs = some n) (hopen : cs = [] → isOpen = false) :
    scanDigits 10 isOpen ⟨value, count⟩ cs = .ok (⟨n, count + cs.length⟩, []) := by
  induction cs generalizing isOpen value count with
  | nil =>
    cases h
    rw [scanDigits, hopen rfl]
    rfl
  | cons c rest ih =>
    obtain ⟨d, hd, hrest⟩ := Option.bind_eq_some_iff.mp h
    obtain ⟨hunderscore, hvalue⟩ :=
      Text.digitValue?_of_isDigit (Text.isDigit_of_decimalValue? hd)
    have hlt := Text.decimalValue?_lt hd
    rw [scanDigits, if_neg hunderscore, hvalue, hd]
    simp only [Option.filter, hlt, decide_true, if_true]
    rw [Nat.mul_comm value 10, ih hrest (fun _ => rfl), List.length_cons]
    congr 3
    omega

end Number

namespace Template

open Format (Fields fieldHead decimals?)

/-- **Which heads of digits write a number**: those of decimal digits, in whatever script, that are
not too many. -/
theorem writes_iff {head : List Char} {n : Nat} :
    Writes head n ↔
      head ≠ [] ∧ decimals? 0 head = some n ∧ head.length ≤ Number.longestInteger := by
  have hread : ∀ m, head ≠ [] → decimals? 0 head = some m →
      Number.readUnsigned 10 head = if Number.longestInteger < head.length
        then .error (.tooManyDigits head.length) else .ok m := by
    intro m hhead hm
    rw [Number.readUnsigned_ten,
      Number.scanDigits_of_decimals? hm (fun hnil => absurd hnil hhead), Nat.zero_add]
    have hblank : (Text.trimmed []).isEmpty = true := rfl
    simp only [bind, Except.bind, hblank]
    split <;> rfl
  constructor
  · rintro ⟨hnumeric, hinteger⟩
    have hhead : head ≠ [] := by
      rintro rfl
      cases hnumeric
    have hdecimals : decimals? 0 head = some n :=
      decimals?_of_headNumber hnumeric ((headNumber_eq_ok_iff hnumeric).mpr ⟨hnumeric, hinteger⟩)
    refine ⟨hhead, hdecimals, Nat.le_of_not_lt fun hlong => ?_⟩
    rw [readInteger_of_isNumeric hnumeric, hread n hhead hdecimals, if_pos hlong] at hinteger
    cases hinteger
  · rintro ⟨hhead, hdecimals, hlength⟩
    have hnumeric := isNumeric_of_decimals? hhead hdecimals
    refine ⟨hnumeric, ?_⟩
    rw [readInteger_of_isNumeric hnumeric, hread n hhead hdecimals, if_neg (by omega)]
    rfl

/-- A number with no more digits than that has a text. -/
theorem integerText_of_lt {n : Nat} (h : n < 10 ^ Number.longestInteger) :
    ∃ text, Store.integerText n = .ok text := by
  have hlength : (Number.Decimal.digitsOf n).length ≤ Number.longestInteger :=
    Nat.toDigits_length 10 n Number.longestInteger (by decide) h
  unfold Store.integerText
  dsimp only [Int.natAbs_natCast]
  rw [if_neg (by omega)]
  exact ⟨_, rfl⟩

theorem integerText_of_writes {head : List Char} {n : Nat} (h : Writes head n) :
    ∃ text, Store.integerText n = .ok text := by
  obtain ⟨-, hdecimals, hlength⟩ := writes_iff.mp h
  have hlt := Format.decimals?_lt (k := 0) hdecimals (by simp)
  rw [Nat.zero_add] at hlt
  exact integerText_of_lt (lt_of_lt_of_le hlt (Nat.pow_le_pow_right (by decide) hlength))

/-! ## Where checking stops -/

section

variable {s : Store} {format : String} {args : List Value} {named : Named} {params : List String}
  {fault : TemplateFault}

/-- A capture is refused for a parameter of the captured function, and for nothing else. -/
theorem fault_of_capture {name : Option String} {source : Value}
    (h : capture s params name source = .error fault) :
    ∃ parameter, fault = .captureParameter source parameter := by
  have hmatch : ∀ signature, matchParameters source params signature = .error fault →
      ∃ parameter, fault = .captureParameter source parameter := by
    intro signature
    have hmap : ∀ (x : Except TemplateFault (List String × Bool))
        (k : List String × Bool → List String × Bool), x.map k = .error fault →
          x = .error fault := by
      rintro (_ | _) k ⟨⟩
      rfl
    induction signature with
    | nil => rintro ⟨⟩
    | cons p rest ih =>
      intro h
      rw [matchParameters] at h
      split at h
      · exact ih h
      · exact ih (hmap _ _ h)
      · split at h
        · exact ih (hmap _ _ h)
        · split at h
          · cases h
            exact ⟨_, rfl⟩
          · exact ih h
  unfold capture at h
  split at h
  · cases h
  · split at h
    · cases h
    next signature _ =>
      cases hmatched : matchParameters source params signature with
      | error fault' =>
        rw [hmatched] at h
        cases h
        exact hmatch signature hmatched
      | ok matched =>
        rw [hmatched] at h
        cases h

/-- A head that writes no number raises what reading an integer raises. -/
def IsNumberFault (fault : TemplateFault) : Prop :=
  ∃ problem, fault = .number problem ∧ problem.cls = .valueError

/-- A head is refused for the number that it fails to write. -/
theorem fault_of_addHead {u : Usage} {head : List Char} (h : u.addHead head = .error fault) :
    IsNumberFault fault := by
  unfold Usage.addHead headNumber Store.readInteger at h
  split at h
  · cases h
  · split at h
    · cases hread : Number.readInteger 10 (String.ofList head) with
      | ok n =>
        rw [hread] at h
        cases h
      | error problem =>
        rw [hread] at h
        cases problem <;> cases h <;> exact ⟨_, rfl, rfl⟩
    · cases h

/-- What a field is refused for: its conversion, or else its head, or else mixed numbering. -/
theorem fault_of_add {u : Usage} {field : List Char × Option Char}
    (h : u.add field = .error fault) :
    (∃ c, fault = .unknownConversion c) ∨ fault = .mixedNumbering ∨
      knownConversion field.2 = true ∧ ¬Legible (fieldHead field) ∧ IsNumberFault fault := by
  cases hknown : knownConversion field.2 with
  | false =>
    obtain ⟨name, _ | c⟩ := field
    · cases hknown
    · have hunknown : u.add (name, some c) = .error (.unknownConversion c) :=
        if_neg (by rw [hknown]; exact Bool.false_ne_true)
      rw [hunknown] at h
      cases h
      exact .inl ⟨c, rfl⟩
  | true =>
    rw [Usage.add_of_known hknown] at h
    rcases except_bind_eq_error.mp h with hhead | ⟨next, -, h⟩
    · refine .inr (.inr ⟨rfl, fun hlegible => ?_, fault_of_addHead hhead⟩)
      obtain ⟨next, hnext⟩ := Usage.addHead_ok_iff.mpr hlegible
      rw [hnext] at hhead
      cases hhead
    · split at h
      · cases h
        exact .inr (.inl rfl)
      · cases h

/-- A field whose head cannot be read is refused for its number. -/
theorem add_of_not_legible {u : Usage} {field : List Char × Option Char}
    (hknown : knownConversion field.2 = true) (hhead : ¬Legible (fieldHead field)) :
    ∃ fault, u.add field = .error fault ∧ IsNumberFault fault := by
  rw [Usage.add_of_known hknown]
  cases hadd : u.addHead (fieldHead field) with
  | ok next => exact absurd (Usage.addHead_ok_iff.mp ⟨next, hadd⟩) hhead
  | error fault => exact ⟨fault, rfl, fault_of_addHead hadd⟩

/-- In reading the fields a head of digits is met that writes no number, and nothing has been wrong
before. -/
def Misread (fields : List (List Char × Option Char)) : Prop :=
  ∃ before field after, fields = before ++ field :: after ∧
    (∀ earlier ∈ before, Readable earlier) ∧ ¬Mixed (before.map fieldHead) ∧
    knownConversion field.2 = true ∧ ¬Legible (fieldHead field)

/-- What the reading of the fields is stopped by. -/
theorem fault_of_foldlM {fields : List (List Char × Option Char)}
    (h : fields.foldlM Usage.add Usage.empty = .error fault) :
    (∃ c, fault = .unknownConversion c) ∨ fault = .mixedNumbering ∨
      Misread fields ∧ IsNumberFault fault := by
  obtain ⟨before, field, after, reached, hsplit, hbefore, hfield⟩ := foldlM_eq_error_iff.mp h
  refine (fault_of_add hfield).imp_right (Or.imp_right ?_)
  rintro ⟨hknown, hhead, hproblem⟩
  obtain ⟨hreadable, hmixed⟩ :=
    (Usage.records_empty.foldlM_ok_iff (by simp [Mixed])).mp ⟨reached, hbefore⟩
  exact ⟨⟨before, field, after, hsplit, hreadable, hmixed, hknown, hhead⟩, hproblem⟩

theorem foldlM_of_misread {fields : List (List Char × Option Char)} (h : Misread fields) :
    ∃ fault, fields.foldlM Usage.add Usage.empty = .error fault ∧ IsNumberFault fault := by
  obtain ⟨before, field, after, hsplit, hreadable, hmixed, hknown, hhead⟩ := h
  obtain ⟨reached, hbefore⟩ :=
    (Usage.records_empty.foldlM_ok_iff (by simp [Mixed])).mpr ⟨hreadable, hmixed⟩
  obtain ⟨fault, hfield, hnumber⟩ := add_of_not_legible (u := reached) hknown hhead
  exact ⟨fault, foldlM_eq_error_iff.mpr
    ⟨before, field, after, reached, hsplit, hbefore, hfield⟩, hnumber⟩

/-! ## Showing a fault -/

theorem leastBeyond_eq_some {bound i : Nat} {indexes : List Nat}
    (h : leastBeyond bound indexes = some i) :
    i ∈ indexes ∧ bound ≤ i ∧ ∀ j ∈ indexes, bound ≤ j → i ≤ j := by
  have hleast : ∀ (rest : List Nat) (least : Nat),
      rest.foldl (fun least n => some (least.elim n (min n))) (some least) = some i →
        i ∈ least :: rest ∧ ∀ j ∈ least :: rest, i ≤ j := by
    intro rest
    induction rest with
    | nil =>
      rintro least ⟨⟩
      simp
    | cons n rest ih =>
      intro least h
      obtain ⟨hmem, hle⟩ := ih (min n least) h
      have hfirst := hle (min n least) List.mem_cons_self
      refine ⟨?_, fun j hj => ?_⟩
      · rcases List.mem_cons.mp hmem with rfl | hmem
        · rcases min_choice n least with hmin | hmin <;> simp [hmin]
        · exact List.mem_cons_of_mem _ (List.mem_cons_of_mem _ hmem)
      · rcases List.mem_cons.mp hj with rfl | hj
        · omega
        · rcases List.mem_cons.mp hj with rfl | hj
          · omega
          · exact hle j (List.mem_cons_of_mem _ hj)
  unfold leastBeyond at h
  cases hbeyond : indexes.filter (bound ≤ ·) with
  | nil =>
    rw [hbeyond] at h
    cases h
  | cons n rest =>
    rw [hbeyond] at h
    obtain ⟨hmem, hle⟩ := hleast rest n h
    rw [← hbeyond] at hmem hle
    obtain ⟨hindex, hbound⟩ := List.mem_filter.mp hmem
    refine ⟨hindex, of_decide_eq_true hbound, fun j hj hjbound => ?_⟩
    exact hle j (List.mem_filter.mpr ⟨hj, decide_eq_true hjbound⟩)

/-- A captured value that is not used is the value of a capture. -/
theorem mem_of_mem_unusedAt {used : List Nat} {place : Nat} {captures : List Capture} {v : Value}
    (h : v ∈ unusedAt used place captures) : v ∈ captures.map Capture.source := by
  induction captures generalizing place with
  | nil => cases h
  | cons c rest ih =>
    rw [unusedAt] at h
    split at h
    · exact List.mem_cons_of_mem _ (ih h)
    · rcases List.mem_cons.mp h with rfl | h
      · exact List.mem_cons_self
      · exact List.mem_cons_of_mem _ (ih h)

/-- What the comparison finds wrong. -/
theorem fault_of_checkUsage {u : Usage} {positional : List Capture} {captured : List String}
    (h : checkUsage u positional captured params = .error fault) :
    (∃ i, leastBeyond positional.length u.indexes = some i ∧
        fault = .missingPositional i positional.length) ∨
      fault = .unusedPositional (unusedAt u.indexes 0 positional) ∨
      (∃ name, fault = .missingNamed name) ∨ ∃ names, fault = .unusedNamed names := by
  simp only [checkUsage, bind, Except.bind, pure, Except.pure, throw, throwThe,
    MonadExceptOf.throw] at h
  split at h
  next i hi =>
    cases h
    exact .inl ⟨i, hi, rfl⟩
  · split at h
    · cases h
      exact .inr (.inl rfl)
    · split at h
      · cases h
        exact .inr (.inr (.inl ⟨_, rfl⟩))
      · split at h
        · cases h
          exact .inr (.inr (.inr ⟨_, rfl⟩))
        · cases h

/-- Lists have no more members than a word can count. -/
theorem integerText_of_le {n : Nat} (h : n ≤ Format.greatestWord) :
    ∃ text, Store.integerText n = .ok text := by
  have hword : Format.greatestWord < 10 ^ 19 := by decide
  have hpow : 10 ^ 19 ≤ 10 ^ Number.longestInteger := Nat.pow_le_pow_right (by decide) (by decide)
  exact integerText_of_lt (by omega)

/-- What the comparison finds wrong can be told. -/
theorem message_of_checkUsage {u : Usage} {heads : List (List Char)} {positional : List Capture}
    {captured : List String} (hu : u.Records heads)
    (hshown : ∀ v ∈ positional.map Capture.source, ∃ text, s.repr v = .ok text)
    (hlength : positional.length ≤ Format.greatestWord)
    (h : checkUsage u positional captured params = .error fault) :
    fault.cls = .templateError ∧ ∃ text, fault.message s format = .ok text := by
  rcases fault_of_checkUsage h with ⟨i, hi, rfl⟩ | rfl | ⟨name, rfl⟩ | ⟨names, rfl⟩
  · obtain ⟨hindex, hbound, hleast⟩ := leastBeyond_eq_some hi
    have htext : ∃ text, Store.integerText i = .ok text := by
      rcases (hu.indexes i).mp hindex with hautomatic | ⟨head, -, hwrites⟩
      · -- The first automatic field that has no capture comes right behind the last one that has.
        have hnext := hleast positional.length
          ((hu.indexes _).mpr (.inl (by omega))) (Nat.le_refl _)
        exact integerText_of_le (by omega)
      · exact integerText_of_writes hwrites
    obtain ⟨text, htext⟩ := htext
    refine ⟨rfl, ?_⟩
    rw [TemplateFault.message, htext]
    exact ⟨_, rfl⟩
  · obtain ⟨texts, htexts⟩ := mapM_ok_iff.mpr fun v hv => hshown v (mem_of_mem_unusedAt hv)
    refine ⟨rfl, ?_⟩
    rw [TemplateFault.message, htexts]
    exact ⟨_, rfl⟩
  · exact ⟨rfl, _, rfl⟩
  · exact ⟨rfl, _, rfl⟩

/-! ## Refused templates -/

/-- The captures are in order, and then a head of digits is met that writes no number before
anything else is wrong. -/
structure Misnumbered (s : Store) (format : String) (args : List Value) (named : Named)
    (params : List String) : Prop where
  captures : ∀ source ∈ args ++ named.map Prod.snd, Suits s params source
  misread : Misread (Fields.ofText format.toList).found

theorem cls_of_isNumberFault (h : IsNumberFault fault) :
    fault.cls = .valueError ∧ ∃ text, fault.message s format = .ok text := by
  obtain ⟨problem, rfl, hcls⟩ := h
  exact ⟨hcls, _, rfl⟩

/-- **What a template is refused for** can be told, and it is the template's fault or a number. -/
theorem fault_of_parse
    (hshown : ∀ source ∈ args ++ named.map Prod.snd, ∃ text, s.repr source = .ok text)
    (hlength : args.length ≤ Format.greatestWord)
    (h : parse s format args named params = .error fault) :
    (fault.cls = .templateError ∨
        fault.cls = .valueError ∧ Misnumbered s format args named params) ∧
      ∃ text, fault.message s format = .ok text := by
  have hcapture : ∀ source ∈ args ++ named.map Prod.snd, ∀ name,
      capture s params name source = .error fault →
        fault.cls = .templateError ∧ ∃ text, fault.message s format = .ok text := by
    intro source hsource name hfault
    obtain ⟨parameter, rfl⟩ := fault_of_capture hfault
    obtain ⟨text, htext⟩ := hshown source hsource
    refine ⟨rfl, ?_⟩
    rw [TemplateFault.message, htext]
    exact ⟨_, rfl⟩
  rcases except_bind_eq_error.mp h with hfault | ⟨positional, hargs, h⟩
  · obtain ⟨source, hsource, hfault⟩ := exists_of_mapM_eq_error hfault
    exact (hcapture source (List.mem_append_left _ hsource) _ hfault).imp_left .inl
  rcases except_bind_eq_error.mp h with hfault | ⟨captures, hcaptures, h⟩
  · obtain ⟨entry, hentry, hfault⟩ := exists_of_mapM_eq_error hfault
    exact (hcapture entry.2 (List.mem_append_right _ (List.mem_map_of_mem hentry)) _
      hfault).imp_left .inl
  have hsuits := captures_ok_iff.mp ⟨⟨positional, hargs⟩, captures, hcaptures⟩
  rcases except_bind_eq_error.mp h with hfault | ⟨u, husage, h⟩
  · rcases except_bind_eq_error.mp hfault with hfault | ⟨u, -, hfault⟩
    · rcases fault_of_foldlM hfault with ⟨c, rfl⟩ | rfl | ⟨hmisread, hnumber⟩
      · exact ⟨.inl rfl, _, rfl⟩
      · exact ⟨.inl rfl, _, rfl⟩
      · exact (cls_of_isNumberFault hnumber).imp_left fun hcls => .inr ⟨hcls, hsuits, hmisread⟩
    · split at hfault
      · cases hfault
        exact ⟨.inl rfl, _, rfl⟩
      · cases hfault
  · have hsources := sources_of_mapM hargs
    rcases except_bind_eq_error.mp h with hfault | ⟨_, -, h⟩
    · have hrecords := Usage.records_empty.foldlM (usage_eq_ok_iff.mp husage).1
      refine (message_of_checkUsage hrecords ?_ ?_ hfault).imp_left .inl
      · intro v hv
        rw [hsources] at hv
        exact hshown v (List.mem_append_left _ hv)
      · rwa [← List.length_map (f := Capture.source), hsources]
    · cases h

theorem parse_of_misnumbered (h : Misnumbered s format args named params) :
    ∃ fault, parse s format args named params = .error fault ∧ fault.cls = .valueError := by
  obtain ⟨hsuits, hmisread⟩ := h
  obtain ⟨⟨positional, hargs⟩, captures, hcaptures⟩ := captures_ok_iff.mpr hsuits
  obtain ⟨fault, hfault, hnumber⟩ := foldlM_of_misread hmisread
  have hcls : fault.cls = .valueError := by
    obtain ⟨problem, rfl, hcls⟩ := hnumber
    exact hcls
  refine ⟨fault, ?_, hcls⟩
  refine except_bind_eq_error.mpr (.inr ⟨positional, hargs, ?_⟩)
  refine except_bind_eq_error.mpr (.inr ⟨captures, hcaptures, ?_⟩)
  exact except_bind_eq_error.mpr (.inl (except_bind_eq_error.mpr (.inl hfault)))

end

end Template

/-! ## Raising -/

/-- The exception of any fault is a new one of the fault's class. -/
theorem Store.exceptionOf_spec (s : Store) (handled : Option Ref) (f : Fault) :
    s.get? (s.exceptionOf handled f).1 = none ∧
      (s.exceptionOf handled f).2.label? (s.exceptionOf handled f).1 =
        some (.standard f.cls, []) ∧
      (s.exceptionOf handled f).2.exception? (.object (s.exceptionOf handled f).1) =
        some (s.exceptionOf handled f).1 := by
  have hplain : ∀ (c : Standard) (args : List Value),
      s.get? (s.newException c args []).1 = none ∧
      ((s.newException c args []).2.raising (s.newException c args []).1 handled).label?
          (s.newException c args []).1 = some (.standard c, []) ∧
      ((s.newException c args []).2.raising (s.newException c args []).1 handled).exception?
          (.object (s.newException c args []).1) = some (s.newException c args []).1 := by
    intro c args
    obtain ⟨hlabel, hexception⟩ := s.newException_spec c args
    refine ⟨s.get?_free, ?_⟩
    cases handled with
    | none => exact ⟨hlabel, hexception⟩
    | some handled =>
      exact ⟨(label?_recordContext _ _ _ _).trans hlabel,
        (exception?_recordContext _ _ _ _).trans hexception⟩
  cases f with
  | during first second asCause => exact s.exceptionOf_during handled first second asCause
  | _ => exact hplain _ _

theorem raises_fault {α : Type} (f : Fault) (handled : Option Ref) (w : World) :
    Raises w f.cls ((fault f : Eval α).run handled w) := by
  obtain ⟨hnew, hmade⟩ := w.store.exceptionOf_spec handled f
  exact ⟨_, _, rfl, hnew, hmade⟩

/-- A fault about a template raises an exception of its class, if it can be told. -/
theorem raises_templateFault {α : Type} {id : Identity} {format : String} {f : TemplateFault}
    {w : World} (h : ∃ text, f.message w.store format = .ok text) (handled : Option Ref) :
    Raises w f.cls ((templateFault (.str id format) f : Eval α).run handled w) := by
  obtain ⟨text, htext⟩ := h
  unfold templateFault
  rw [run_bind_of_ok run_store]
  dsimp only
  rw [htext, run_bind_of_ok (run_lift_ok _)]
  cases f <;> exact raises_fault _ handled w

section

variable {w : World} {id : Identity} {format : String} {args : List Value} {named : Named}
  {params : List String}

/-- **What comes of checking a text as a template**, where the captured values have texts: a
template, or an exception of the library's own class.  Only where a head of digits is met that
writes no number, before anything else is wrong, it is the exception of reading an integer that is
raised. -/
theorem raises_of_parse (handled : Option Ref)
    (hshown : ∀ source ∈ args ++ named.map Prod.snd, ∃ text, w.store.repr source = .ok text)
    (hlength : args.length ≤ Format.greatestWord) :
    let ended := (liftTemplate (.str id format)
      (ContextSource.parse w.store (.str id format) args named params)).run handled w
    (¬Template.Misnumbered w.store format args named params →
      (∃ t, ended = (.ok (.template t), w)) ∨ Raises w .templateError ended) ∧
    (Template.Misnumbered w.store format args named params → Raises w .valueError ended) := by
  intro ended
  have hended : ended = (liftTemplate (.str id format)
      ((Template.parse w.store format args named params).map .template)).run handled w := rfl
  cases hparse : Template.parse w.store format args named params with
  | ok t =>
    rw [hparse] at hended
    refine ⟨fun _ => .inl ⟨t, hended⟩, fun hmisnumbered => ?_⟩
    obtain ⟨fault, hfault, -⟩ := Template.parse_of_misnumbered hmisnumbered
    rw [hparse] at hfault
    cases hfault
  | error fault =>
    rw [hparse] at hended
    obtain ⟨hcls, hmessage⟩ := Template.fault_of_parse hshown hlength hparse
    have hraises : Raises w fault.cls ended := by
      rw [hended]
      exact @raises_templateFault _ id _ _ _ hmessage handled
    constructor
    · intro hother
      rcases hcls with hcls | ⟨-, hmisnumbered⟩
      · exact .inr (hcls ▸ hraises)
      · exact absurd hmisnumbered hother
    · intro hmisnumbered
      obtain ⟨fault', hfault', hvalue⟩ := Template.parse_of_misnumbered hmisnumbered
      rw [hparse] at hfault'
      cases hfault'
      exact hvalue ▸ hraises

end

/-- A superscript is a digit, but no number can be read from it. -/
theorem superscript_raises_valueError :
    (∀ source ∈ [Value.str .fresh "a"], ∃ text,
      World.initial.store.repr source = .ok text) ∧
    [Value.str .fresh "a"].length ≤ Format.greatestWord ∧
    Template.Misnumbered World.initial.store "{²}" [.str .fresh "a"] [] [] ∧
    Raises World.initial .valueError ((liftTemplate (.str .fresh "{²}")
      (ContextSource.parse World.initial.store (.str .fresh "{²}") [.str .fresh "a"] []
        [])).run none World.initial) := by
  have hshown : ∀ source ∈ [Value.str .fresh "a"], ∃ text,
      World.initial.store.repr source = .ok text := by
    intro source hsource
    cases List.mem_singleton.mp hsource
    exact ⟨_, rfl⟩
  have hlength : [Value.str .fresh "a"].length ≤ Format.greatestWord := by decide
  have hmisnumbered :
      Template.Misnumbered World.initial.store "{²}" [.str .fresh "a"] [] [] := by
    refine ⟨?_, [], (['²'], none), [], by decide +kernel, ?_, ?_, rfl, ?_⟩
    · intro source hsource hcallable
      cases List.mem_singleton.mp hsource
      cases hcallable
    · intro earlier hearlier
      cases hearlier
    · rintro ⟨hempty, -⟩
      cases hempty
    · -- It counts as a digit, and there is no decimal digit in it.
      intro hlegible
      obtain ⟨n, hn⟩ := hlegible (by decide +kernel)
      have hdecimals := (Template.writes_iff.mp hn).2.1
      have hnone : Format.decimals? 0 (Format.fieldHead (['²'], none)) = none := by
        decide +kernel
      rw [hnone] at hdecimals
      cases hdecimals
  have hraises := (@raises_of_parse World.initial .fresh "{²}" [.str .fresh "a"] [] [] none
    (by simpa using hshown) hlength).2 hmisnumbered
  exact ⟨hshown, hlength, hmisnumbered, hraises⟩

end FaultContext
