/-
# FaultContext.Proofs.FieldHeads -- two ways of reading the head of a field's name.

The head of a field's name is read twice.  Checking a template asks whether the head is made of
digits and reads it as an integer is read anywhere; filling a text reads the head digit by digit
into a word of 64 bits.  The two agree on which heads are numbers, and on the numbers: a head of
digits that the check has read has only decimal digits, in whatever script, and these write the same
number for both.

They part in one place.  Filling gives up as soon as the digits it has read are too many for a word,
before it has met the character that makes the head a name; for the check such a head is a name like
any other one.
-/
import Mathlib.Data.List.TakeWhile
import FaultContext.Format.Path
import FaultContext.Template.Parse

namespace FaultContext

/-! ## Digits among other characters -/

namespace Text

/-- Two lists of ranges have no character in common. -/
theorem inRanges_of_disjoint {first second : List (Nat × Nat)} {c : Char}
    (h : ∀ r ∈ first, ∀ q ∈ second, r.2 < q.1 ∨ q.2 < r.1) (hc : inRanges first c = true) :
    inRanges second c = false := by
  obtain ⟨r, hr, hin⟩ := List.any_eq_true.mp hc
  refine List.any_eq_false.mpr fun q hq hin' => ?_
  simp only [Bool.and_eq_true, decide_eq_true_eq] at hin hin'
  have := h r hr q hq
  omega

/-- The blocks of ten that hold the decimal digits. -/
def decimalRanges : List (Nat × Nat) := decimalZeros.map fun start => (start, start + 9)

theorem inRanges_of_decimalValue? {c : Char} {n : Nat} (h : decimalValue? c = some n) :
    inRanges decimalRanges c = true := by
  obtain ⟨start, hstart, -⟩ := Option.map_eq_some_iff.mp h
  have hin := List.find?_some hstart
  refine List.any_eq_true.mpr ⟨_, List.mem_map_of_mem (List.mem_of_find?_eq_some hstart), ?_⟩
  simp only [Bool.and_eq_true, decide_eq_true_eq] at hin ⊢
  omega

/-- A digit of either class is none of the characters of other ranges. -/
theorem inRanges_of_isDigit {others : List (Nat × Nat)} {c : Char}
    (h : ∀ r ∈ decimalRanges ++ digitSymbols, ∀ q ∈ others, r.2 < q.1 ∨ q.2 < r.1)
    (hc : isDigit c = true) : inRanges others c = false := by
  refine inRanges_of_disjoint h ?_
  rw [inRanges, List.any_append, Bool.or_eq_true]
  rw [isDigit, Bool.or_eq_true] at hc
  refine hc.imp_left fun hdecimal => ?_
  obtain ⟨n, hn⟩ := Option.isSome_iff_exists.mp hdecimal
  exact inRanges_of_decimalValue? hn

theorem isBlank_of_isDigit {c : Char} (h : isDigit c = true) : isBlank c = false :=
  inRanges_of_isDigit (by decide) h

/-- What starts with something else than a blank is not blank. -/
theorem trimmed_cons_ne_nil {c : Char} (h : isBlank c = false) (cs : List Char) :
    trimmed (c :: cs) ≠ [] := by
  rw [trimmed, List.dropWhile_cons_of_neg (by simp [h]), ne_eq, List.reverse_eq_nil_iff,
    List.dropWhile_eq_nil_iff]
  intro hall
  have := hall c (by simp)
  rw [h] at this
  cases this

/-- Letters and an underscore are no digits. -/
theorem digitValue?_of_isDigit {c : Char} (h : isDigit c = true) :
    c ≠ '_' ∧ Number.digitValue? c = decimalValue? c := by
  have hother : inRanges [(0x41, 0x5a), (0x5f, 0x5f), (0x61, 0x7a)] c = false :=
    inRanges_of_isDigit (by decide) h
  simp only [inRanges, List.any_cons, List.any_nil, Bool.or_false, Bool.or_eq_false_iff,
    Bool.and_eq_false_iff, decide_eq_false_iff_not] at hother
  have hle : ∀ a b : Char, a ≤ b ↔ a.toNat ≤ b.toNat := fun _ _ => Iff.rfl
  refine ⟨fun hc => ?_, ?_⟩
  · subst hc
    simp at hother
  · rw [Number.digitValue?, if_neg, if_neg] <;>
      simp only [Bool.and_eq_true, decide_eq_true_eq, hle, Char.reduceToNat] <;> omega

end Text

/-! ## Heads that write a number -/

namespace Format

/-- The number that decimal digits of any script write, behind digits that write `acc`; nothing
where there is any other character. -/
def decimals? (acc : Nat) : List Char → Option Nat
  | [] => some acc
  | c :: rest => (Text.decimalValue? c).bind fun d => decimals? (10 * acc + d) rest

/-- A text starts with decimal digits that write a number too great for a word. -/
def Overflows (acc : Nat) (cs : List Char) : Prop :=
  ∃ front n, front <+: cs ∧ decimals? acc front = some n ∧ greatestWord < n

variable {acc n : Nat} {c : Char} {cs head : List Char}

theorem overflows_cons_iff {d : Nat} (hacc : acc ≤ greatestWord)
    (hd : Text.decimalValue? c = some d) :
    Overflows acc (c :: cs) ↔ Overflows (10 * acc + d) cs := by
  constructor
  · rintro ⟨_ | ⟨c', front⟩, m, hfront, hm, hlt⟩
    · cases hm
      omega
    · obtain ⟨rfl, hrest⟩ := List.cons_prefix_cons.mp hfront
      rw [decimals?, hd] at hm
      exact ⟨front, m, hrest, hm, hlt⟩
  · rintro ⟨front, m, hfront, hm, hlt⟩
    refine ⟨c :: front, m, List.cons_prefix_cons.mpr ⟨rfl, hfront⟩, ?_, hlt⟩
    rw [decimals?, hd]
    exact hm

/-- A number is read unless its digits are too many. -/
theorem readNumber_of_not_overflows (hacc : acc ≤ greatestWord) (h : ¬ Overflows acc cs) :
    readNumber acc cs = .ok (decimals? acc cs) := by
  induction cs generalizing acc with
  | nil => rfl
  | cons c rest ih =>
    rw [readNumber, decimals?]
    cases hd : Text.decimalValue? c with
    | none => rfl
    | some d =>
      rw [overflows_cons_iff hacc hd] at h
      have hle : 10 * acc + d ≤ greatestWord :=
        Nat.le_of_not_lt fun hlt => h ⟨[], _, List.nil_prefix, rfl, hlt⟩
      dsimp only
      rw [if_neg (Nat.not_lt.mpr hle), ih hle h]
      rfl

theorem readNumber_of_overflows (hacc : acc ≤ greatestWord) (h : Overflows acc cs) :
    readNumber acc cs = .error .tooManyDigits := by
  induction cs generalizing acc with
  | nil =>
    obtain ⟨front, m, hfront, hm, hlt⟩ := h
    cases List.prefix_nil.mp hfront
    cases hm
    omega
  | cons c rest ih =>
    rw [readNumber]
    cases hd : Text.decimalValue? c with
    | none =>
      -- Only the digits in front of the head count, and there are none.
      obtain ⟨_ | ⟨c', front⟩, m, hfront, hm, hlt⟩ := h
      · cases hm
        omega
      · obtain ⟨rfl, -⟩ := List.cons_prefix_cons.mp hfront
        rw [decimals?, hd] at hm
        cases hm
    | some d =>
      dsimp only
      split
      · rfl
      next hle => exact ih (Nat.le_of_not_lt hle) ((overflows_cons_iff hacc hd).mp h)

/-- Nothing but too many digits keeps a number from being read. -/
theorem eq_of_readNumber_eq_error {fault : PathFault} (hacc : acc ≤ greatestWord)
    (h : readNumber acc cs = .error fault) : fault = .tooManyDigits := by
  by_cases hover : Overflows acc cs
  · rw [readNumber_of_overflows hacc hover] at h
    cases h
    rfl
  · rw [readNumber_of_not_overflows hacc hover] at h
    cases h

/-- What a head picks, unless its digits are too many for a word. -/
theorem Head.ofText_of_not_overflows (hhead : head ≠ []) (h : ¬ Overflows 0 head) :
    Head.ofText head = .ok (match decimals? 0 head with
      | some n => .index n
      | none => .name head) := by
  rw [Head.ofText, if_neg (by simpa using hhead), readNumber_of_not_overflows (Nat.zero_le _) h]
  rfl

theorem Head.ofText_of_overflows (h : Overflows 0 head) :
    Head.ofText head = .error .tooManyDigits := by
  have hhead : head ≠ [] := by
    rintro rfl
    obtain ⟨front, m, hfront, hm, hlt⟩ := h
    cases List.prefix_nil.mp hfront
    cases hm
    omega
  rw [Head.ofText, if_neg (by simpa using hhead), readNumber_of_overflows (Nat.zero_le _) h]
  rfl

/-- Nothing but too many digits keeps a head from picking something. -/
theorem Head.ofText_eq_error_iff {fault : PathFault} :
    Head.ofText head = .error fault ↔ fault = .tooManyDigits ∧ Overflows 0 head := by
  by_cases hover : Overflows 0 head
  · simp [Head.ofText_of_overflows hover, hover, eq_comm]
  · by_cases hhead : head = []
    · subst hhead
      simp [Head.ofText, hover]
    · simp [Head.ofText_of_not_overflows hhead hover, hover]

end Format

/-! ## The same numbers for both -/

namespace Number

/-- Digits that are read to their end are decimal ones. -/
theorem scanDigits_of_digits {isOpen : Bool} {read out : Digits} {cs rest : List Char}
    (hdigits : ∀ c ∈ cs, Text.isDigit c = true)
    (h : scanDigits 10 isOpen read cs = .ok (out, rest)) :
    (rest = [] ∧ Format.decimals? read.value cs = some out.value) ∨
      ∃ c tail, rest = c :: tail ∧ ∀ d ∈ rest, Text.isDigit d = true := by
  induction cs generalizing isOpen read with
  | nil =>
    rw [scanDigits] at h
    split at h
    · cases h
    · cases h
      exact .inl ⟨rfl, rfl⟩
  | cons c cs ih =>
    obtain ⟨hunderscore, hvalue⟩ := Text.digitValue?_of_isDigit (hdigits c List.mem_cons_self)
    rw [scanDigits, if_neg hunderscore, hvalue] at h
    cases hd : Text.decimalValue? c with
    | none =>
      rw [hd] at h
      dsimp only [Option.filter] at h
      split at h
      · cases h
      · cases h
        exact .inr ⟨c, cs, rfl, hdigits⟩
    | some d =>
      have hlt : d < 10 := Text.decimalValue?_lt hd
      rw [hd] at h
      simp only [Option.filter, hlt, decide_true, if_true] at h
      have hrest := ih (fun d hd => hdigits d (List.mem_cons_of_mem _ hd)) h
      refine hrest.imp_left fun ⟨hnil, hdecimals⟩ => ⟨hnil, ?_⟩
      rw [Format.decimals?, hd, Option.bind_some, ← hdecimals, Nat.mul_comm]

/-- No mark tells base ten, so nothing stands in front of the digits. -/
theorem readUnsigned_ten (cs : List Char) : readUnsigned 10 cs = (do
    let (read, rest) ← scanDigits 10 true ⟨0, 0⟩ cs
    if longestInteger < read.count then throw (.tooManyDigits read.count)
    if !(Text.trimmed rest).isEmpty then throw .malformed
    return read.value) := by
  have hmark : baseOfMark? cs ≠ some 10 := by
    unfold baseOfMark?
    split
    · split <;> nofun
    · nofun
  have hbinary : isBinaryBase 10 = false := rfl
  simp only [readUnsigned, hmark, hbinary, decide_false, Bool.or_false, Bool.not_false,
    Bool.true_and, Nat.reduceEqDiff, Bool.and_false, Bool.false_and, Bool.false_eq_true, if_false,
    decide_eq_true_eq]

/-- An integer in base ten is what the digits write behind which only blanks stand. -/
theorem scanDigits_of_readUnsigned {cs : List Char} {n : Nat} (h : readUnsigned 10 cs = .ok n) :
    ∃ out rest, scanDigits 10 true ⟨0, 0⟩ cs = .ok (out, rest) ∧ Text.trimmed rest = [] ∧
      out.value = n := by
  rw [readUnsigned_ten] at h
  cases hscan : scanDigits 10 true ⟨0, 0⟩ cs with
  | error fault => rw [hscan] at h; cases h
  | ok read =>
    obtain ⟨out, rest⟩ := read
    rw [hscan] at h
    simp only [bind, Except.bind] at h
    split at h
    · cases h
    · split at h
      · cases h
      next htrimmed =>
        cases h
        exact ⟨out, rest, rfl, by simpa using htrimmed, rfl⟩

end Number

namespace Template

/-- Neither blanks nor a sign stand in front of digits. -/
theorem readInteger_of_isNumeric {head : List Char} (hnumeric : Text.isNumeric head = true) :
    Number.readInteger 10 (String.ofList head) =
      (Number.readUnsigned 10 head).map fun n => (n : Int) := by
  obtain ⟨hhead, hdigits⟩ : head ≠ [] ∧ ∀ c ∈ head, Text.isDigit c = true := by
    simpa [Text.isNumeric] using hnumeric
  obtain ⟨c, rest, rfl⟩ := List.exists_cons_of_ne_nil hhead
  have hc := hdigits c List.mem_cons_self
  rw [Number.readInteger, String.toList_ofList,
    List.dropWhile_cons_of_neg (by simp [Text.isBlank_of_isDigit hc])]
  split
  next heq => cases heq; exact absurd hc (by decide)
  next heq => cases heq; exact absurd hc (by decide)
  next => rfl

/-- The number of a head of digits is the one that its digits write. -/
theorem decimals?_of_headNumber {head : List Char} {n : Nat} (hnumeric : Text.isNumeric head = true)
    (h : headNumber head = .ok n) : Format.decimals? 0 head = some n := by
  obtain ⟨-, hdigits⟩ : head ≠ [] ∧ ∀ c ∈ head, Text.isDigit c = true := by
    simpa [Text.isNumeric] using hnumeric
  rw [headNumber, Store.readInteger, readInteger_of_isNumeric hnumeric] at h
  cases hunsigned : Number.readUnsigned 10 head with
  | error fault => rw [hunsigned] at h; cases fault <;> cases h
  | ok m =>
    rw [hunsigned] at h
    cases h
    obtain ⟨out, rest, hscan, hblank, rfl⟩ := Number.scanDigits_of_readUnsigned hunsigned
    rcases Number.scanDigits_of_digits hdigits hscan with ⟨-, hdecimals⟩ | ⟨c, tail, rfl, hrest⟩
    · exact hdecimals
    · -- A digit that is left over is no blank.
      have hc := Text.isBlank_of_isDigit (hrest c List.mem_cons_self)
      exact absurd hblank (Text.trimmed_cons_ne_nil hc tail)

/-- Decimal digits are digits. -/
theorem isNumeric_of_decimals? {head : List Char} {n : Nat} (hhead : head ≠ [])
    (h : Format.decimals? 0 head = some n) : Text.isNumeric head = true := by
  have hdigits : ∀ (cs : List Char) (acc : Nat), Format.decimals? acc cs = some n →
      ∀ c ∈ cs, Text.isDigit c = true := by
    intro cs
    induction cs with
    | nil => exact fun _ _ c hc => absurd hc List.not_mem_nil
    | cons c rest ih =>
      intro acc hdecimals
      obtain ⟨d, hd, hrest⟩ := Option.bind_eq_some_iff.mp hdecimals
      exact List.forall_mem_cons.mpr ⟨Text.isDigit_of_decimalValue? hd, ih _ hrest⟩
  simpa [Text.isNumeric, hhead] using hdigits head 0 h

end Template
end FaultContext
