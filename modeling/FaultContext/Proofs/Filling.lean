/-
# FaultContext.Proofs.Filling -- a text filled with values that are supplied.

Filling a text does two things by turns: it finds out what the heads of fields pick, and it goes on
from there with steps, conversions and specifications.  Only the first looks at the arguments and
keeps account of how fields have been numbered.  `fillBy` is filling with the first part left open;
filling from arguments is one way of closing it.

Another way is to take the values one by one from a list (`supplied`).  For a format text the two
are the same (`mirrors_fillBy`), if the list holds what the heads of all fields pick, in the order
of reading (`trail`): fields are met in the order in which `Fields.ofText` reads them, a field
before those of its own specification, whether a specification is filled or is only read.
-/
import FaultContext.Format.Markup
import FaultContext.Format.Render

namespace FaultContext.Format

/-! ## Filling with values from elsewhere -/

section

variable {σ : Type} (s : Store) (choose : List Char → StateT σ (Except Fault) Value)

/-- The text of a specification, which is filled if it may have fields. -/
def fillSpec (nested : List Char → StateT σ (Except Fault) (List Char)) (spec : List Char) :
    StateT σ (Except Fault) (List Char) :=
  if spec.contains '{' then nested spec else pure spec

/-- Fills a field with the value chosen for its head; `nested` fills its specification. -/
def fillField (nested : List Char → StateT σ (Except Fault) (List Char)) (field : Field) :
    StateT σ (Except Fault) (List Char) := do
  let v ← choose (splitHead field.name).1
  let v ← follow s v (Steps.ofText (splitHead field.name).2)
  let v ← convert s v field.conversion
  layout s v (← fillSpec nested field.spec)

/-- Fills a piece of a text. -/
def fillPiece (nested : List Char → StateT σ (Except Fault) (List Char)) (piece : Piece) :
    StateT σ (Except Fault) (List Char) :=
  match piece.field with
  | none => return piece.literal
  | some field => return piece.literal ++ (← fillField s choose nested field)

/-- Fills a text whose specifications may have fields `depth` levels deep. -/
def fillBy : Nat → List Char → StateT σ (Except Fault) (List Char)
  | 0, _ => throw .nestedTooDeep
  | depth + 1, text => do
    let parts ← (pieces text).pieces.mapM (fillPiece s choose (fillBy depth))
    match (pieces text).fault with
    | some fault => throw (.markup fault)
    | none => return parts.flatten

end

/-- The value that the text of a head picks. -/
def pickHead (args : Arguments) (head : List Char) : Filling Value :=
  match Head.ofText head with
  | .error fault => throw (.path fault)
  | .ok head => pick args head

/-- Filling from arguments lets the heads pick the values. -/
theorem fill_eq (s : Store) (args : Arguments) (depth : Nat) (text : List Char) :
    fill s args depth text = fillBy s (pickHead args) depth text := by
  induction depth generalizing text with
  | zero => rfl
  | succ depth ih =>
    have hpiece : fillPiece s (pickHead args) (fillBy s (pickHead args) depth) = fun piece => do
        match piece.field with
        | none => return piece.literal
        | some field =>
          let v ← resolve s args field.name
          let v ← convert s v field.conversion
          let spec ← if field.spec.contains '{' then fill s args depth field.spec
            else pure field.spec
          return piece.literal ++ (← layout s v spec) := by
      funext piece
      rw [fillPiece]
      cases piece.field with
      | none => rfl
      | some field =>
        simp only [fillField, fillSpec, resolve, pickHead, ← ih]
        cases Head.ofText (splitHead field.name).1 with
        | error fault => rfl
        | ok head =>
          simp only [bind_assoc]
          refine bind_congr fun _ => bind_congr fun _ => bind_congr fun _ => ?_
          split <;> rfl
    rw [fillBy, hpiece]
    rfl

/-! ## The fields of a format text -/

/-- The fields of a piece, those of its specification included. -/
def Fields.ofPiece (piece : Piece) : Fields :=
  match piece.field with
  | none => .empty
  | some field => .append ⟨[(field.name, field.conversion)], none⟩ (.ofText field.spec)

theorem pieces_nil : pieces [] = ⟨[], none⟩ := by
  unfold pieces
  rfl

theorem Fields.ofText_nil : Fields.ofText [] = .empty := by
  have hpieces : (pieces []).pieces.attach = [] := by rw [List.attach_eq_nil_iff, pieces_nil]
  rw [ofText, hpieces, List.map_nil, pieces_nil]
  rfl

theorem Fields.ofText_eq {cs : List Char} (h : (pieces cs).fault = none) :
    Fields.ofText cs = ((pieces cs).pieces.map ofPiece).foldr append empty := by
  have hmap : (pieces cs).pieces.map ofPiece =
      (pieces cs).pieces.attach.map fun piece => ofPiece piece.1 := by
    rw [List.attach_map_val]
  rw [ofText, h, hmap]
  dsimp only
  congr 1
  refine List.map_congr_left fun ⟨piece, hp⟩ _ => ?_
  dsimp only [ofPiece]
  split
  next hfield => rw [hfield]
  next field hfield =>
    rw [hfield]
    dsimp only
    split
    next hspec => rw [List.isEmpty_iff.mp hspec, ofText_nil]
    next => rfl

/-- Fields that are all read are those of one reading and then those of the other. -/
theorem Fields.malformed_append {first second : Fields} :
    (append first second).malformed = none ↔ first.malformed = none ∧ second.malformed = none := by
  rw [append]
  split
  next h => simp [h]
  next h => simp [h]

theorem Fields.found_append {first second : Fields} (h : (append first second).malformed = none) :
    (append first second).found = first.found ++ second.found := by
  rw [append] at h ⊢
  split at h
  next hfirst => rw [hfirst] at h; cases h
  next => rfl

/-- The fields of a piece in the order of reading. -/
def fieldsOfPiece (piece : Piece) : List (List Char × Option Char) :=
  match piece.field with
  | none => []
  | some field => (field.name, field.conversion) :: (Fields.ofText field.spec).found

/-- A format text has no fault, and neither have the specifications in it. -/
theorem wellFormed_of_malformed {cs : List Char} (h : (Fields.ofText cs).malformed = none) :
    (pieces cs).fault = none ∧
      (∀ piece ∈ (pieces cs).pieces, ∀ field, piece.field = some field →
        (Fields.ofText field.spec).malformed = none) ∧
      (Fields.ofText cs).found = (pieces cs).pieces.flatMap fieldsOfPiece := by
  have hfault : (pieces cs).fault = none := by
    cases hfault : (pieces cs).fault with
    | none => rfl
    | some fault =>
      rw [Fields.ofText, hfault] at h
      cases h
  refine ⟨hfault, ?_⟩
  rw [Fields.ofText_eq hfault] at h ⊢
  generalize (pieces cs).pieces = ps at h ⊢
  induction ps with
  | nil => exact ⟨fun _ hp => absurd hp List.not_mem_nil, rfl⟩
  | cons piece rest ih =>
    rw [List.map_cons, List.foldr_cons] at h ⊢
    obtain ⟨hpiece, hrest⟩ := Fields.malformed_append.mp h
    obtain ⟨hspecs, hfound⟩ := ih hrest
    rw [Fields.found_append h, hfound, List.flatMap_cons]
    cases hfield : piece.field with
    | none =>
      have hnone : Fields.ofPiece piece = .empty := by rw [Fields.ofPiece, hfield]
      refine ⟨List.forall_mem_cons.mpr ⟨fun _ h => ?_, hspecs⟩, ?_⟩
      · rw [hfield] at h
        cases h
      · rw [hnone, fieldsOfPiece, hfield]
        rfl
    | some field =>
      have hsome : Fields.ofPiece piece =
          .append ⟨[(field.name, field.conversion)], none⟩ (.ofText field.spec) := by
        rw [Fields.ofPiece, hfield]
      rw [hsome] at hpiece ⊢
      refine ⟨List.forall_mem_cons.mpr ⟨fun _ h => ?_, hspecs⟩, ?_⟩
      · rw [hfield] at h
        cases h
        exact (Fields.malformed_append.mp hpiece).2
      · rw [Fields.found_append hpiece, fieldsOfPiece, hfield]
        rfl

/-- The head of a field that has been read. -/
def fieldHead (field : List Char × Option Char) : List Char := (splitHead field.1).1

/-- The heads of the fields of a text in the order of reading. -/
def headsOf (cs : List Char) : List (List Char) := (Fields.ofText cs).found.map fieldHead

/-- The heads of the fields of a piece in the order of reading. -/
def headsOfPiece (piece : Piece) : List (List Char) := (fieldsOfPiece piece).map fieldHead

theorem headsOf_eq {cs : List Char} (h : (Fields.ofText cs).malformed = none) :
    headsOf cs = (pieces cs).pieces.flatMap headsOfPiece := by
  rw [headsOf, (wellFormed_of_malformed h).2.2, List.map_flatMap]
  rfl

/-- A text without an opening brace has no fields. -/
theorem headsOf_of_no_brace {cs : List Char} (h : (Fields.ofText cs).malformed = none)
    (hbrace : '{' ∉ cs) : headsOf cs = [] := by
  have hfields : ∀ piece ∈ (pieces cs).pieces, piece.field = none := by
    intro piece hp
    cases hfield : piece.field with
    | none => rfl
    | some field =>
      have hopen : '{' ∈ piece.extent := by simp [Piece.extent, hfield]
      exact absurd ((extent_sublist hp).subset hopen) hbrace
  rw [headsOf_eq h, List.flatMap_eq_nil_iff]
  intro piece hp
  rw [headsOfPiece, fieldsOfPiece, hfields piece hp]
  rfl

/-! ## Filling with values from a list -/

/-- What a supply of values holds for the fields that are still to come. -/
abbrev Supply := List (Except Fault Value)

/-- Takes the next value that is supplied, whatever the head. -/
def supplied (_ : List Char) : StateT Supply (Except Fault) Value
  | [] => .error (.replacementIndex 0)
  | v :: rest => v.map (·, rest)

/-- How numbering goes on after a head. -/
def advance (n : Numbering) (head : List Char) : Numbering :=
  match Head.ofText head, n with
  | .ok .automatic, .undecided => .automatic 1
  | .ok .automatic, .automatic next => .automatic (next + 1)
  | .ok (.index _), .undecided => .manual
  | _, n => n

/-- What heads pick one after the other. -/
def trail (args : Arguments) : Numbering → List (List Char) → Supply
  | _, [] => []
  | n, head :: rest => ((pickHead args head).run n).map Prod.fst :: trail args (advance n head) rest

/-- A head that picks a value leaves the numbering as it goes on after the head. -/
theorem advance_of_pickHead {args : Arguments} {head : List Char} {n n' : Numbering} {v : Value}
    (h : (pickHead args head).run n = .ok (v, n')) : n' = advance n head := by
  have hat : ∀ {index : Nat} {next : Numbering},
      (do set next; args.at index : Filling Value).run n = .ok (v, n') → n' = next := by
    intro index next hrun
    cases hat : args.at index with
    | error fault => rw [hat] at hrun; cases hrun
    | ok picked => rw [hat] at hrun; cases hrun; rfl
  unfold pickHead at h
  unfold advance
  cases hof : Head.ofText head with
  | error fault => rw [hof] at h; cases h
  | ok picked =>
    rw [hof] at h
    cases picked with
    | automatic =>
      cases n with
      | undecided => exact hat h
      | automatic next => exact hat h
      | manual => cases h
    | index i =>
      cases n with
      | undecided => exact hat h
      | automatic next => cases h
      | manual => exact hat h
    | name text =>
      dsimp only [pick] at h
      cases hget : args.named.get? (String.ofList text) with
      | none => rw [hget] at h; cases h
      | some v =>
        rw [hget] at h
        cases h
        cases n <;> rfl

section

variable {args : Arguments} {α β : Type}

/-- Two computations end the same, where one lets heads pick values and the other one is supplied
with what these heads pick. -/
def Mirrors (args : Arguments) (m : Filling α) (m' : StateT Supply (Except Fault) α)
    (heads : List (List Char)) : Prop :=
  ∀ n later, m'.run (trail args n (heads ++ later)) =
    (m.run n).map fun (a, n') => (a, trail args n' later)

theorem Mirrors.pure (a : α) : Mirrors args (pure a) (pure a) [] := fun _ _ => rfl

theorem Mirrors.lift (r : Except Fault α) : Mirrors args (liftM r) (liftM r) [] := by
  intro n later
  cases r <;> rfl

theorem Mirrors.bind {m : Filling α} {m' : StateT Supply (Except Fault) α} {f : α → Filling β}
    {f' : α → StateT Supply (Except Fault) β} {heads heads' : List (List Char)}
    (hm : Mirrors args m m' heads) (hf : ∀ a, Mirrors args (f a) (f' a) heads') :
    Mirrors args (m >>= f) (m' >>= f') (heads ++ heads') := by
  intro n later
  rw [StateT.run_bind, StateT.run_bind, List.append_assoc, hm]
  cases m.run n with
  | error fault => rfl
  | ok reached => exact hf reached.1 reached.2 later

theorem Mirrors.bind_last {m : Filling α} {m' : StateT Supply (Except Fault) α} {f : α → Filling β}
    {f' : α → StateT Supply (Except Fault) β} {heads : List (List Char)}
    (hm : Mirrors args m m' heads) (hf : ∀ a, Mirrors args (f a) (f' a) []) :
    Mirrors args (m >>= f) (m' >>= f') heads := by
  have hboth := hm.bind hf
  rwa [List.append_nil] at hboth

theorem Mirrors.lift_bind {r : Except Fault α} {f : α → Filling β}
    {f' : α → StateT Supply (Except Fault) β} {heads : List (List Char)}
    (hf : ∀ a, Mirrors args (f a) (f' a) heads) :
    Mirrors args (liftM r >>= f) (liftM r >>= f') heads :=
  (Mirrors.lift r).bind hf

/-- A head picks what is supplied for it. -/
theorem mirrors_pickHead (head : List Char) :
    Mirrors args (pickHead args head) (supplied head) [head] := by
  intro n later
  rw [List.cons_append, trail]
  cases hpick : (pickHead args head).run n with
  | error fault => rfl
  | ok picked =>
    obtain ⟨v, n'⟩ := picked
    rw [advance_of_pickHead hpick]
    rfl

theorem Mirrors.mapM {ps : List Piece} {f : Piece → Filling β}
    {f' : Piece → StateT Supply (Except Fault) β} {heads : Piece → List (List Char)}
    (h : ∀ p ∈ ps, Mirrors args (f p) (f' p) (heads p)) :
    Mirrors args (ps.mapM f) (ps.mapM f') (ps.flatMap heads) := by
  induction ps with
  | nil => exact .pure _
  | cons p rest ih =>
    obtain ⟨hp, hrest⟩ := List.forall_mem_cons.mp h
    rw [List.mapM_cons, List.mapM_cons, List.flatMap_cons]
    refine hp.bind fun _ => ?_
    exact (ih hrest).bind_last fun _ => .pure _

/-- **Filling a format text is filling it with what the heads of its fields pick, in the order of
reading.** -/
theorem mirrors_fillBy (s : Store) {depth : Nat} {text : List Char}
    (h : (Fields.ofText text).malformed = none) :
    Mirrors args (fillBy s (pickHead args) depth text) (fillBy s supplied depth text)
      (headsOf text) := by
  induction depth generalizing text with
  | zero => exact fun _ _ => rfl
  | succ depth ih =>
    obtain ⟨hfault, hspecs, -⟩ := wellFormed_of_malformed h
    rw [fillBy, fillBy, hfault, headsOf_eq h]
    refine .bind_last (.mapM fun piece hp => ?_) fun parts => .pure _
    rw [fillPiece, fillPiece, headsOfPiece, fieldsOfPiece]
    cases hfield : piece.field with
    | none => exact .pure _
    | some field =>
      have hspec : (Fields.ofText field.spec).malformed = none := hspecs piece hp field hfield
      have hnested : Mirrors args (fillSpec (fillBy s (pickHead args) depth) field.spec)
          (fillSpec (fillBy s supplied depth) field.spec) (headsOf field.spec) := by
        rw [fillSpec, fillSpec]
        split
        · exact ih hspec
        next hbrace =>
          rw [headsOf_of_no_brace hspec (by simpa using hbrace)]
          exact .pure _
      refine .bind_last ?_ fun _ => .pure _
      exact (mirrors_pickHead _).bind fun v => .lift_bind fun v => .lift_bind fun v =>
        hnested.bind_last fun spec => .lift _

end

end FaultContext.Format
