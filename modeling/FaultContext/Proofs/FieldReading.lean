/-
# FaultContext.Proofs.FieldReading -- the reading of fields comes to an end.

The fields of a text are read piece by piece.  A field is noted, and then its specification is read
as a text of its own before the next piece is looked at; a text that is no format text ends it all.
`Reading` is such a reading between two steps.  `Reading.step` is no recursion, so nothing in its
definition promises that the steps come to an end.  They do, on every text, and with the fields and
the fault that `Fields.ofText` tells.

It all comes from one fact about splitting (`pieces_sublist`): what the pieces of a text are made of
stands in the text, one piece behind the other.  So a specification is shorter than the text around
it, and each field has an opening brace of its own, which neither the fields beside it nor those in
its specification have.  A step therefore leaves less to be read (`left_step`), and the fields that
are noted are never more than the braces that have been passed (`openings_step`), while what the
reading is going to end with stays the same (`outcome_step`).
-/
import FaultContext.Program.Run
import FaultContext.Proofs.FormatTexts
import FaultContext.Proofs.Refusing
import Mathlib.Algebra.Order.BigOperators.Group.List

namespace FaultContext.Format

/-! ## What pieces take -/

/-- A piece has something of its text. -/
theorem extent_ne_nil {cs : List Char} {piece : Piece} (h : piece ∈ (pieces cs).pieces) :
    piece.extent ≠ [] := by
  refine forall_mem_pieces (P := fun piece => piece.extent ≠ []) ?_ ?_ cs piece h
  · intro literal hliteral
    simpa [Piece.extent] using hliteral
  · intro literal text field tail _
    simp [Piece.extent]

/-- The steps that the reading of a piece takes at most: one for the piece, one for each character
of its specification, and one for the way back. -/
def Piece.steps (piece : Piece) : Nat :=
  match piece.field with
  | none => 1
  | some field => field.spec.length + 2

/-- The opening braces that a piece has for fields: its own one and those in its specification. -/
def Piece.openings (piece : Piece) : Nat :=
  match piece.field with
  | none => 0
  | some field => field.spec.count '{' + 1

theorem steps_le_length {piece : Piece} (h : piece.extent ≠ []) :
    piece.steps ≤ piece.extent.length := by
  have hpos := List.length_pos_iff.mpr h
  rw [Piece.steps]
  cases hfield : piece.field with
  | none => exact hpos
  | some field =>
    simp only [Piece.extent, hfield, List.length_append, List.length_cons, List.length_nil]
    omega

theorem openings_le_count (piece : Piece) : piece.openings ≤ piece.extent.count '{' := by
  rw [Piece.openings]
  cases hfield : piece.field with
  | none => exact Nat.zero_le _
  | some field =>
    simp [Piece.extent, hfield]

/-- The pieces of a text take no more steps than the text has characters. -/
theorem sum_steps_le (cs : List Char) : ((pieces cs).pieces.map Piece.steps).sum ≤ cs.length :=
  calc ((pieces cs).pieces.map Piece.steps).sum
    _ ≤ ((pieces cs).pieces.map fun piece => piece.extent.length).sum :=
      List.sum_le_sum fun _ hp => steps_le_length (extent_ne_nil hp)
    _ = ((pieces cs).pieces.flatMap Piece.extent).length := List.length_flatMap.symm
    _ ≤ cs.length := (pieces_sublist cs).length_le

/-- The pieces of a text have no more opening braces for fields than the text has. -/
theorem sum_openings_le (cs : List Char) :
    ((pieces cs).pieces.map Piece.openings).sum ≤ cs.count '{' :=
  calc ((pieces cs).pieces.map Piece.openings).sum
    _ ≤ ((pieces cs).pieces.map fun piece => piece.extent.count '{').sum :=
      List.sum_le_sum fun piece _ => openings_le_count piece
    _ = ((pieces cs).pieces.flatMap Piece.extent).count '{' := List.count_flatMap.symm
    _ ≤ cs.count '{' := (pieces_sublist cs).count_le '{'

/-! ## Steps -/

/-- A reading of fields between two steps: the fields noted so far and what is left of each text
that the reading has gone into, the innermost first.  Or it has ended. -/
inductive Reading where
  | going (found : List (List Char × Option Char)) (levels : List (List Piece))
  | ended (fields : Fields)

namespace Reading

/-- Goes into a text, which ends the reading if the text is no format text. -/
def enter (found : List (List Char × Option Char)) (levels : List (List Piece))
    (text : List Char) : Reading :=
  match (pieces text).fault with
  | some fault => .ended ⟨found, some ⟨text, fault⟩⟩
  | none => .going found ((pieces text).pieces :: levels)

/-- The beginning of the reading of a text. -/
def start (text : List Char) : Reading := enter [] [] text

/-- One step: the next piece of the innermost text, or back from a text that has been read. -/
def step : Reading → Reading
  | .going found [] => .ended ⟨found, none⟩
  | .going found ([] :: levels) => .going found levels
  | .going found ((piece :: rest) :: levels) =>
    match piece.field with
    | none => .going found (rest :: levels)
    | some field =>
      let noted := found ++ [(field.name, field.conversion)]
      if field.spec.isEmpty then .going noted (rest :: levels)
      else enter noted (rest :: levels) field.spec
  | .ended fields => .ended fields

/-! ## What a reading ends with -/

/-- What a reading ends with: the fields noted so far and then those of the pieces that are left. -/
def outcome : Reading → Fields
  | .going found levels => .append ⟨found, none⟩ (.ofItems (itemsOf levels.flatten))
  | .ended fields => fields

/-- Going into a text puts its fields in front of those of the pieces that are left. -/
theorem outcome_enter (found : List (List Char × Option Char)) (levels : List (List Piece))
    (text : List Char) : (enter found levels text).outcome =
      .append ⟨found, none⟩ (.append (.ofText text) (.ofItems (itemsOf levels.flatten))) := by
  rw [enter]
  cases hfault : (pieces text).fault with
  | some fault =>
    have htext : Fields.ofText text = ⟨[], some ⟨text, fault⟩⟩ := by rw [Fields.ofText, hfault]
    simp [outcome, htext, Fields.append]
  | none =>
    have hformats : Formats text (itemsOf (pieces text).pieces) := formats_iff.mpr ⟨hfault, rfl⟩
    rw [outcome, List.flatten_cons, itemsOf, List.flatMap_append, Fields.ofItems_append,
      hformats.fields]
    rfl

theorem outcome_start (text : List Char) : (start text).outcome = .ofText text := by
  rw [start, outcome_enter]
  exact Fields.append_empty _

/-- **A step does not change what a reading ends with.** -/
theorem outcome_step (r : Reading) : r.step.outcome = r.outcome := by
  rcases r with ⟨found, _ | ⟨_ | ⟨piece, rest⟩, levels⟩⟩ | fields
  · exact (Fields.append_empty ⟨found, none⟩).symm
  · rfl
  · have hbehind : itemsOf ((piece :: rest) :: levels).flatten =
        itemsOfPiece piece ++ itemsOf (rest :: levels).flatten := rfl
    rw [outcome, hbehind, Fields.ofItems_append, Fields.ofItems_itemsOfPiece, Fields.ofPiece, step]
    cases piece.field with
    | none => rfl
    | some field =>
      -- The field is noted, and its specification comes next.
      rw [Fields.append_assoc, ← Fields.append_assoc ⟨found, none⟩]
      dsimp only
      split
      next hspec =>
        rw [List.isEmpty_iff.mp hspec, Fields.ofText_nil]
        rfl
      next => exact outcome_enter _ _ _
  · rfl

/-! ## How long a reading goes on -/

/-- What the pieces that are left weigh. -/
def weigh (weight : Piece → Nat) (levels : List (List Piece)) : Nat :=
  (levels.flatten.map weight).sum

theorem weigh_cons (weight : Piece → Nat) (ps : List Piece) (levels : List (List Piece)) :
    weigh weight (ps :: levels) = (ps.map weight).sum + weigh weight levels := by
  rw [weigh, List.flatten_cons, List.map_append, List.sum_append, weigh]

theorem weigh_cons_cons (weight : Piece → Nat) (piece : Piece) (rest : List Piece)
    (levels : List (List Piece)) :
    weigh weight ((piece :: rest) :: levels) = weight piece + weigh weight (rest :: levels) :=
  List.sum_cons

/-- The steps that a reading still takes at most. -/
def left : Reading → Nat
  | .going _ levels => weigh Piece.steps levels + levels.length + 1
  | .ended _ => 0

/-- The characters of a text and the way back are what going into the text adds. -/
theorem left_enter (found : List (List Char × Option Char)) (levels : List (List Piece))
    (text : List Char) : (enter found levels text).left ≤
      weigh Piece.steps levels + levels.length + text.length + 2 := by
  have hsum := sum_steps_le text
  rw [enter]
  cases (pieces text).fault with
  | some fault => exact Nat.zero_le _
  | none =>
    rw [left, weigh_cons, List.length_cons]
    omega

/-- **A step leaves less**, unless the reading has ended. -/
theorem left_step (r : Reading) : r.step.left ≤ r.left - 1 := by
  rcases r with ⟨found, _ | ⟨_ | ⟨piece, rest⟩, levels⟩⟩ | fields
  · exact Nat.zero_le _
  · rw [step, left, left, weigh_cons, List.length_cons]
    omega
  · rw [left, weigh_cons_cons, Piece.steps, step]
    cases piece.field with
    | none =>
      dsimp only [left]
      simp only [List.length_cons]
      omega
    | some field =>
      dsimp only
      split
      next =>
        simp only [left, List.length_cons]
        omega
      next =>
        have henter := left_enter (found ++ [(field.name, field.conversion)]) (rest :: levels)
          field.spec
        simp only [List.length_cons] at henter ⊢
        omega
  · exact Nat.zero_le _

/-- After as many steps as are left, a reading has ended. -/
theorem iterate_step_of_left_le {n : Nat} {r : Reading} (h : r.left ≤ n) :
    step^[n] r = .ended r.outcome := by
  induction n generalizing r with
  | zero =>
    cases r with
    | going found levels => simp [left] at h
    | ended fields => rfl
  | succ n ih =>
    have hless := left_step r
    rw [Function.iterate_succ_apply, ih (by omega), outcome_step]

/-! ## How many fields are noted -/

/-- The fields noted so far. -/
def found : Reading → List (List Char × Option Char)
  | .going found _ => found
  | .ended fields => fields.found

/-- The fields noted so far, and the opening braces that are left for others. -/
def openings : Reading → Nat
  | .going found levels => found.length + weigh Piece.openings levels
  | .ended fields => fields.found.length

theorem length_found_le (r : Reading) : r.found.length ≤ r.openings := by
  cases r with
  | going found levels => exact Nat.le_add_right _ _
  | ended fields => exact Nat.le_refl _

/-- Going into a text adds no more than its opening braces. -/
theorem openings_enter (found : List (List Char × Option Char)) (levels : List (List Piece))
    (text : List Char) : (enter found levels text).openings ≤
      found.length + weigh Piece.openings levels + text.count '{' := by
  have hsum := sum_openings_le text
  rw [enter]
  cases (pieces text).fault with
  | some fault =>
    simp only [openings]
    omega
  | none =>
    rw [openings, weigh_cons]
    omega

/-- **A step takes an opening brace for each field that it notes.** -/
theorem openings_step (r : Reading) : r.step.openings ≤ r.openings := by
  rcases r with ⟨found, _ | ⟨_ | ⟨piece, rest⟩, levels⟩⟩ | fields
  · exact Nat.le_refl _
  · exact Nat.le_refl _
  · rw [openings, weigh_cons_cons, Piece.openings, step]
    cases piece.field with
    | none => simp [openings]
    | some field =>
      dsimp only
      split
      next =>
        simp only [openings, List.length_append, List.length_singleton]
        omega
      next =>
        have henter := openings_enter (found ++ [(field.name, field.conversion)])
          (rest :: levels) field.spec
        simp only [List.length_append, List.length_singleton] at henter
        omega
  · exact Nat.le_refl _

theorem openings_iterate_step (n : Nat) (r : Reading) : (step^[n] r).openings ≤ r.openings := by
  induction n generalizing r with
  | zero => exact Nat.le_refl _
  | succ n ih =>
    rw [Function.iterate_succ_apply]
    exact (ih r.step).trans (openings_step r)

/-- **At no time are more fields noted than the text has opening braces.** -/
theorem length_found_iterate_step_le (n : Nat) (text : List Char) :
    (step^[n] (start text)).found.length ≤ text.count '{' := by
  have hstart := openings_enter [] [] text
  calc (step^[n] (start text)).found.length
    _ ≤ (step^[n] (start text)).openings := length_found_le _
    _ ≤ (start text).openings := openings_iterate_step n _
    _ ≤ text.count '{' := by simpa [start, weigh] using hstart

/-- **The reading of a text ends** with the fields of the text, within as many steps as the text has
characters and two more. -/
theorem iterate_step_start (text : List Char) :
    step^[text.length + 2] (start text) = .ended (.ofText text) := by
  have hstart := left_enter [] [] text
  rw [iterate_step_of_left_le, outcome_start]
  simpa [start, weigh] using hstart

end Reading

/-! ## All fields of a text -/

/-- What comes of asking for the fields of a text: the fields, or an exception of the library's own
class where there is a fault. -/
theorem run_answerFields (text : String) (handled : Option Ref) (w : World) :
    ((Fields.ofText text.toList).malformed = none ∧ (answerFields text).run handled w =
      (.ok (.fields ((Fields.ofText text.toList).found.map fun (n, c) => (String.ofList n, c))), w)) ∨
    ((Fields.ofText text.toList).malformed ≠ none ∧
      Raises w .templateError ((answerFields text).run handled w)) := by
  rw [answerFields]
  cases hmalformed : (Fields.ofText text.toList).malformed with
  | none => exact .inl ⟨rfl, rfl⟩
  | some m => exact .inr ⟨nofun, raises_templateFault ⟨_, rfl⟩ handled⟩

/-- **Reading the fields of a text comes to an end, on every text.**  Each specification that the
text is split into, up to a fault if it has one, is shorter than the text; going into them and back
is over after as many steps as the text has characters and two more.  It ends with the fields or
with an exception of the library's own class, and until then no more fields have been noted than the
text has opening braces. -/
theorem reading_of_fields_ends (text : String) :
    (∀ piece ∈ (pieces text.toList).pieces, ∀ field, piece.field = some field →
      field.spec.length < text.toList.length) ∧
    Reading.step^[text.toList.length + 2] (.start text.toList) = .ended (.ofText text.toList) ∧
    (∀ handled w,
      ((Fields.ofText text.toList).malformed = none ∧ (answerFields text).run handled w =
        (.ok (.fields ((Fields.ofText text.toList).found.map fun (n, c) =>
          (String.ofList n, c))), w)) ∨
      ((Fields.ofText text.toList).malformed ≠ none ∧
        Raises w .templateError ((answerFields text).run handled w))) ∧
    (Fields.ofText text.toList).found.length ≤ text.toList.count '{' := by
  have hends := Reading.iterate_step_start text.toList
  refine ⟨fun piece hp field hfield => spec_length_lt hp hfield, hends, run_answerFields text, ?_⟩
  have hfound := Reading.length_found_iterate_step_le (text.toList.length + 2) text.toList
  rwa [hends] at hfound

/-- A fault in a specification ends the reading behind the fields in front of it. -/
theorem flaw_in_specification_ends_reading :
    let text := "\x7ba:\x7bb\x7d\x7d\x7bc:\x7b!\x7d\x7d"
    let field : Field := ⟨['c'], none, ['{', '!', '}']⟩
    let fields : Fields :=
      ⟨[(['a'], none), (['b'], none), (['c'], none)], some ⟨['{', '!', '}'], .unclosedSpec⟩⟩
    ⟨[], some field⟩ ∈ (pieces text.toList).pieces ∧ field.spec.length < text.toList.length ∧
    Reading.step^[16] (.start text.toList) = .ended fields ∧
    Raises World.initial .templateError ((answerFields text).run none World.initial) ∧
    fields.found.length ≤ text.toList.count '{' := by
  intro text field fields
  have hpieces : pieces text.toList =
      ⟨[⟨[], some ⟨['a'], none, ['{', 'b', '}']⟩⟩, ⟨[], some field⟩], none⟩ := by
    with_unfolding_all decide
  have hfields : Fields.ofText text.toList = fields := by
    with_unfolding_all decide
  have hmem : ⟨[], some field⟩ ∈ (pieces text.toList).pieces := by
    rw [hpieces]
    exact List.mem_cons_of_mem _ List.mem_cons_self
  have hlength : text.toList.length = 14 := by decide
  obtain ⟨hspec, hends, hanswer, hcount⟩ := reading_of_fields_ends text
  rw [hlength, hfields] at hends
  rw [hfields] at hcount
  refine ⟨hmem, hspec _ hmem _ rfl, hends, ?_, hcount⟩
  rcases hanswer none World.initial with ⟨hnone, -⟩ | ⟨-, hraises⟩
  · rw [hfields] at hnone
    cases hnone
  · exact hraises

end FaultContext.Format
