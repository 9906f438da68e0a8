/-
# FaultContext.Proofs.FormatTexts -- the grammar of format texts, one item at a time.

`pieces` splits a text into stretches of literal text with the fields behind them, so where a piece
ends depends on what comes next.  `Formats` is the grammar without stretches: a format text is one
character, one doubled brace or one field after the other.  A text is split without a fault exactly
if it is in the grammar, and the pieces hold its items (`formats_iff`).

Format texts one behind the other are a format text again, whatever braces meet (`Formats.append`).
So the fields of both are the fields of the one and then of the other (`Fields.ofText_append`), and
filling both is filling the one and then the other (`fillBy_append`).
-/
import FaultContext.Proofs.Filling
import FaultContext.Proofs.Traversal

namespace FaultContext.Format

/-! ## Scanning a field -/

section

variable {cs name spec rest : List Char} {ending : Char}

/-- The name of a field ends where it ends, whatever stands behind the text. -/
theorem scanName_append {bracketed : Bool}
    (h : scanName bracketed cs = .ok (name, ending, rest)) (more : List Char) :
    scanName bracketed (cs ++ more) = .ok (name, ending, rest ++ more) := by
  induction cs generalizing bracketed name with
  | nil => cases h
  | cons c cs ih =>
    rw [List.cons_append]
    rcases scanName_cons_eq_ok_iff.mp h with
      ⟨hout, hends, rfl, rfl, rfl⟩ | ⟨hgoes, shorter, rfl, hshorter⟩
    · exact scanName_cons_eq_ok_iff.mpr (.inl ⟨hout, hends, rfl, rfl, rfl⟩)
    · exact scanName_cons_eq_ok_iff.mpr (.inr ⟨hgoes, shorter, rfl, ih hshorter⟩)

/-- A specification ends where it ends, whatever stands behind the text. -/
theorem scanSpec_append {depth : Nat} (h : scanSpec depth cs = .ok (spec, rest))
    (more : List Char) : scanSpec depth (cs ++ more) = .ok (spec, rest ++ more) := by
  induction cs generalizing depth spec with
  | nil => cases h
  | cons c cs ih =>
    rw [List.cons_append]
    rcases scanSpec_cons_eq_ok_iff.mp h with
      ⟨hdepth, hclose, rfl, rfl⟩ | ⟨hgoes, shorter, rfl, hshorter⟩
    · exact scanSpec_cons_eq_ok_iff.mpr (.inl ⟨hdepth, hclose, rfl, rfl⟩)
    · exact scanSpec_cons_eq_ok_iff.mpr (.inr ⟨hgoes, shorter, rfl, ih hshorter⟩)

/-- A field ends where it ends, whatever stands behind the text. -/
theorem scanField_append {field : Field} (h : scanField cs = .ok (field, rest))
    (more : List Char) : scanField (cs ++ more) = .ok (field, rest ++ more) := by
  obtain ⟨ending, tail, hname, hways⟩ := scanField_eq_ok_iff.mp h
  refine scanField_eq_ok_iff.mpr ⟨ending, tail ++ more, scanName_append hname more, ?_⟩
  rcases hways with ⟨hclose, hgiven, hspec, rfl⟩ | ⟨hcolon, hgiven, hspec⟩ |
    ⟨hclose, hcolon, c, hgiven, hways⟩
  · exact .inl ⟨hclose, hgiven, hspec, rfl⟩
  · exact .inr (.inl ⟨hcolon, hgiven, scanSpec_append hspec more⟩)
  · refine .inr (.inr ⟨hclose, hcolon, c, hgiven, ?_⟩)
    rcases hways with ⟨hspec, rfl⟩ | ⟨text, rfl, hspec⟩
    · exact .inl ⟨hspec, rfl⟩
    · exact .inr ⟨text ++ more, rfl, scanSpec_append hspec more⟩

end

/-! ## The grammar -/

/-- What a format text is made of: characters as they are shown, and fields. -/
inductive Item where
  | char (c : Char)
  | field (field : Field)

/-- The grammar of format texts, with the items that a text stands for. -/
inductive Formats : List Char → List Item → Prop
  | nil : Formats [] []
  | char {c : Char} {cs : List Char} {items : List Item} : c ≠ '{' → c ≠ '}' →
    Formats cs items → Formats (c :: cs) (.char c :: items)
  | doubled {c : Char} {cs : List Char} {items : List Item} : c = '{' ∨ c = '}' →
    Formats cs items → Formats (c :: c :: cs) (.char c :: items)
  | field {c : Char} {cs tail : List Char} {field : Field} {items : List Item} : c ≠ '{' →
    scanField (c :: cs) = .ok (field, tail) → Formats tail items →
    Formats ('{' :: c :: cs) (.field field :: items)

/-- **Format texts one behind the other are a format text**, also where braces meet. -/
theorem Formats.append {t u : List Char} {first second : List Item} (ht : Formats t first)
    (hu : Formats u second) : Formats (t ++ u) (first ++ second) := by
  induction ht with
  | nil => exact hu
  | char hopen hclose _ ih => exact .char hopen hclose ih
  | doubled hbrace _ ih => exact .doubled hbrace ih
  | field hopen hfield _ ih => exact .field hopen (scanField_append hfield u) ih

/-- Characters other than braces stand for themselves. -/
theorem Formats.literal {cs : List Char} (h : ∀ c ∈ cs, c ≠ '{' ∧ c ≠ '}') :
    Formats cs (cs.map .char) := by
  induction cs with
  | nil => exact .nil
  | cons c cs ih =>
    obtain ⟨⟨hopen, hclose⟩, hrest⟩ := List.forall_mem_cons.mp h
    exact .char hopen hclose (ih hrest)

/-! ## Pieces and items -/

/-- The items of a piece. -/
def itemsOfPiece (piece : Piece) : List Item :=
  piece.literal.map .char ++ (piece.field.map .field).toList

/-- The items of pieces one behind the other. -/
def itemsOf (ps : List Piece) : List Item := ps.flatMap itemsOfPiece

theorem splitLiteral_cons {c : Char} (hopen : c ≠ '{') (hclose : c ≠ '}') (cs : List Char) :
    splitLiteral (c :: cs) = (c :: (splitLiteral cs).1, (splitLiteral cs).2) := by
  simp [splitLiteral, hopen, hclose]

theorem splitLiteral_brace {c : Char} (h : c = '{' ∨ c = '}') (cs : List Char) :
    splitLiteral (c :: cs) = ([], c :: cs) := by
  rcases h with rfl | rfl <;> rfl

theorem literal_of_splitLiteral (cs : List Char) :
    ∀ c ∈ (splitLiteral cs).1, c ≠ '{' ∧ c ≠ '}' := by
  intro c hc
  have hall := List.all_takeWhile (p := fun c => c != '{' && c != '}') (l := cs)
  simpa using List.all_eq_true.mp hall c hc

/-- A text is split without a fault, and these are the items of its pieces. -/
structure Splits (cs : List Char) (items : List Item) : Prop where
  fault : (pieces cs).fault = none
  items : itemsOf (pieces cs).pieces = items

theorem itemsOf_cons (piece : Piece) (ps : Pieces) :
    itemsOf (ps.cons piece).pieces = itemsOfPiece piece ++ itemsOf ps.pieces :=
  List.flatMap_cons

namespace Splits

variable {cs rest tail : List Char} {c : Char} {field : Field} {items : List Item}

/-- A text without braces is its literal text. -/
theorem of_end (h : (splitLiteral cs).2 = []) : Splits cs ((splitLiteral cs).1.map .char) := by
  by_cases hcs : cs = []
  · rw [hcs]
    exact ⟨by rw [pieces_nil], by rw [pieces_nil]; rfl⟩
  · have hpieces : pieces cs = ⟨[⟨(splitLiteral cs).1, none⟩], none⟩ := by
      rw [pieces, if_neg (by simpa using hcs)]
      split
      next => rfl
      all_goals next heq => cases h.symm.trans heq
    exact ⟨by rw [hpieces], by rw [hpieces]; simp [itemsOf, itemsOfPiece]⟩

/-- A doubled brace ends a piece, and is a character of it. -/
theorem of_doubled (h : (splitLiteral cs).2 = c :: c :: rest) (hrest : Splits rest items) :
    Splits cs ((splitLiteral cs).1.map .char ++ .char c :: items) := by
  have hcs : cs ≠ [] := by
    rintro rfl
    cases h
  have hpieces : pieces cs = (pieces rest).cons ⟨(splitLiteral cs).1 ++ [c], none⟩ := by
    rw [pieces, if_neg (by simpa using hcs)]
    split
    next heq => cases h.symm.trans heq
    next heq => cases h.symm.trans heq
    next heq =>
      cases h.symm.trans heq
      rw [if_pos rfl]
  obtain ⟨hfault, rfl⟩ := hrest
  refine ⟨by rw [hpieces]; exact hfault, ?_⟩
  rw [hpieces, itemsOf_cons]
  simp [itemsOfPiece]

/-- A field ends a piece. -/
theorem of_field (h : (splitLiteral cs).2 = '{' :: c :: rest) (hopen : c ≠ '{')
    (hfield : scanField (c :: rest) = .ok (field, tail)) (htail : Splits tail items) :
    Splits cs ((splitLiteral cs).1.map .char ++ .field field :: items) := by
  have hcs : cs ≠ [] := by
    rintro rfl
    cases h
  have hpieces : pieces cs = (pieces tail).cons ⟨(splitLiteral cs).1, some field⟩ := by
    rw [pieces, if_neg (by simpa using hcs)]
    split
    next heq => cases h.symm.trans heq
    next heq => cases h.symm.trans heq
    next heq =>
      cases h.symm.trans heq
      rw [if_neg (Ne.symm hopen), if_neg (by decide)]
      split
      next hfault => cases hfield.symm.trans hfault
      next hfound =>
        cases hfield.symm.trans hfound
        rfl
  obtain ⟨hfault, rfl⟩ := htail
  refine ⟨by rw [hpieces]; exact hfault, ?_⟩
  rw [hpieces, itemsOf_cons]
  simp [itemsOfPiece]

/-- There is no other way to split a text without a fault. -/
theorem cases (h : Splits cs items) :
    ((splitLiteral cs).2 = [] ∧ items = (splitLiteral cs).1.map .char) ∨
      (∃ c rest later, (splitLiteral cs).2 = c :: c :: rest ∧ Splits rest later ∧
        items = (splitLiteral cs).1.map .char ++ .char c :: later) ∨
      ∃ c rest field tail later, (splitLiteral cs).2 = '{' :: c :: rest ∧ c ≠ '{' ∧
        scanField (c :: rest) = .ok (field, tail) ∧ Splits tail later ∧
        items = (splitLiteral cs).1.map .char ++ .field field :: later := by
  obtain ⟨hfault, rfl⟩ := h
  revert hfault
  fun_cases pieces cs with
  | case1 hempty =>
    obtain rfl := List.isEmpty_iff.mp hempty
    exact fun _ => .inl ⟨rfl, rfl⟩
  | case2 _ hend => exact fun _ => .inl ⟨hend, by simp [itemsOf, itemsOfPiece]⟩
  | case3 => exact nofun
  | case4 _ c rest hdoubled =>
    refine fun hfault => .inr (.inl ⟨c, rest, _, hdoubled, ⟨hfault, rfl⟩, ?_⟩)
    rw [itemsOf_cons]
    simp [itemsOfPiece]
  | case5 => exact nofun
  | case6 => exact nofun
  | case7 _ brace c rest hsplit _ hdifferent hclosed field tail hfield =>
    obtain rfl : brace = '{' := (brace_of_splitLiteral hsplit).resolve_right hclosed
    refine fun hfault => .inr (.inr
      ⟨c, rest, field, tail, _, hsplit, Ne.symm hdifferent, hfield, ⟨hfault, rfl⟩, ?_⟩)
    rw [itemsOf_cons]
    simp [itemsOfPiece]

/-- A character that is no brace joins the first stretch of literal text. -/
theorem char (hopen : c ≠ '{') (hclose : c ≠ '}') (h : Splits cs items) :
    Splits (c :: cs) (.char c :: items) := by
  have hsplit := splitLiteral_cons hopen hclose cs
  have hbehind : (splitLiteral (c :: cs)).2 = (splitLiteral cs).2 := by rw [hsplit]
  have hliteral : (splitLiteral (c :: cs)).1.map Item.char =
      .char c :: (splitLiteral cs).1.map .char := by rw [hsplit]; rfl
  rcases h.cases with ⟨hend, rfl⟩ | ⟨d, rest, later, hdoubled, hrest, rfl⟩ |
    ⟨d, rest, field, tail, later, hfield, hd, hscan, htail, rfl⟩
  · rw [← hliteral]
    exact of_end (hbehind.trans hend)
  · rw [← List.cons_append, ← hliteral]
    exact of_doubled (hbehind.trans hdoubled) hrest
  · rw [← List.cons_append, ← hliteral]
    exact of_field (hbehind.trans hfield) hd hscan htail

/-- The items of a text are in the grammar. -/
theorem formats (h : Splits cs items) : Formats cs items := by
  induction hn : cs.length using Nat.strongRecOn generalizing cs items with
  | ind n ih =>
    have hliteral := Formats.literal (literal_of_splitLiteral cs)
    have htext := append_of_splitLiteral cs
    have hlength := splitLiteral_length cs
    rcases h.cases with ⟨hend, rfl⟩ | ⟨c, rest, later, hdoubled, hrest, rfl⟩ |
      ⟨c, rest, field, tail, later, hfield, hc, hscan, htail, rfl⟩
    · rw [hend, List.append_nil] at htext
      simpa only [htext] using hliteral
    · rw [hdoubled, List.length_cons, List.length_cons] at hlength
      have hformats := hliteral.append (.doubled (brace_of_splitLiteral hdoubled)
        (ih rest.length (by omega) hrest rfl))
      rwa [← hdoubled, htext] at hformats
    · have hshorter := scanField_shorter hscan
      rw [hfield, List.length_cons] at hlength
      have hformats := hliteral.append (.field hc hscan (ih tail.length (by omega) htail rfl))
      rwa [← hfield, htext] at hformats

end Splits

/-- **The grammar describes exactly how texts are split.** -/
theorem formats_iff {cs : List Char} {items : List Item} : Formats cs items ↔ Splits cs items := by
  constructor
  · intro h
    induction h with
    | nil => exact Splits.of_end rfl
    | char hopen hclose _ ih => exact ih.char hopen hclose
    | doubled hbrace _ ih =>
      have hsplit := splitLiteral_brace hbrace
      have hdoubled := Splits.of_doubled (by rw [hsplit]) ih
      rwa [hsplit] at hdoubled
    | field hopen hfield _ ih =>
      have hsplit := splitLiteral_brace (.inl rfl : '{' = '{' ∨ '{' = '}')
      have hwhole := Splits.of_field (by rw [hsplit]) hopen hfield ih
      rwa [hsplit] at hwhole
  · exact Splits.formats

/-! ## Fields -/

/-- The fields of an item, those of a specification included. -/
def Fields.ofItem : Item → Fields
  | .char _ => .empty
  | .field field => .append ⟨[(field.name, field.conversion)], none⟩ (.ofText field.spec)

/-- The fields of items, in the order of reading. -/
def Fields.ofItems (items : List Item) : Fields := (items.map ofItem).foldr append empty

@[simp] theorem Fields.empty_append (fields : Fields) : append empty fields = fields := rfl

@[simp] theorem Fields.append_empty (fields : Fields) : append fields empty = fields := by
  obtain ⟨found, _ | _⟩ := fields
  · simp [append, empty]
  · rfl

theorem Fields.append_assoc (first second third : Fields) :
    append (append first second) third = append first (append second third) := by
  obtain ⟨found, _ | _⟩ := first
  · obtain ⟨found', _ | _⟩ := second
    · simp [append]
    · rfl
  · rfl

theorem Fields.ofItems_append (first second : List Item) :
    ofItems (first ++ second) = append (ofItems first) (ofItems second) := by
  induction first with
  | nil => rfl
  | cons item rest ih =>
    rw [ofItems, List.cons_append, List.map_cons, List.foldr_cons, ← ofItems, ih, ← append_assoc]
    rfl

theorem Fields.ofItems_chars (cs : List Char) : ofItems (cs.map .char) = empty := by
  induction cs with
  | nil => rfl
  | cons c cs ih => exact ih

theorem Fields.ofItems_itemsOfPiece (piece : Piece) :
    ofItems (itemsOfPiece piece) = ofPiece piece := by
  rw [itemsOfPiece, ofItems_append, ofItems_chars, empty_append, ofPiece]
  cases piece.field with
  | none => rfl
  | some field => exact append_empty _

/-- The fields of a format text are those of its items. -/
theorem Formats.fields {cs : List Char} {items : List Item} (h : Formats cs items) :
    Fields.ofText cs = Fields.ofItems items := by
  obtain ⟨hfault, rfl⟩ := formats_iff.mp h
  rw [Fields.ofText_eq hfault]
  generalize (pieces cs).pieces = ps
  induction ps with
  | nil => rfl
  | cons piece rest ih =>
    rw [List.map_cons, List.foldr_cons, ih, itemsOf, itemsOf, List.flatMap_cons,
      Fields.ofItems_append, Fields.ofItems_itemsOfPiece]

/-- A text whose fields are all read is a format text. -/
theorem exists_formats {cs : List Char} (h : (Fields.ofText cs).malformed = none) :
    ∃ items, Formats cs items :=
  ⟨_, formats_iff.mpr ⟨(wellFormed_of_malformed h).1, rfl⟩⟩

/-! ## Filling -/

section

variable {σ α : Type}

/-- The texts that are made of the members of a list, one behind the other. -/
def gather (f : α → StateT σ (Except Fault) (List Char)) (as : List α) :
    StateT σ (Except Fault) (List Char) := do
  let parts ← as.mapM f
  return parts.flatten

variable (f : α → StateT σ (Except Fault) (List Char))

theorem gather_cons (a : α) (as : List α) :
    gather f (a :: as) = do
      let first ← f a
      let rest ← gather f as
      return first ++ rest := by
  simp only [gather, List.mapM_cons, bind_assoc, pure_bind, List.flatten_cons]

theorem gather_append (as bs : List α) :
    gather f (as ++ bs) = do
      let first ← gather f as
      let second ← gather f bs
      return first ++ second := by
  induction as with
  | nil => simp [gather]
  | cons a as ih =>
    rw [List.cons_append, gather_cons, gather_cons, ih]
    simp only [bind_assoc, pure_bind, List.append_assoc]

theorem gather_flatMap {β : Type} (g : β → List α) (bs : List β) :
    gather f (bs.flatMap g) = gather (fun b => gather f (g b)) bs := by
  induction bs with
  | nil => rfl
  | cons b bs ih => rw [List.flatMap_cons, gather_append, ih, gather_cons]

end

section

variable {σ : Type} (s : Store) (choose : List Char → StateT σ (Except Fault) Value)

/-- Fills an item of a text. -/
def fillItem (nested : List Char → StateT σ (Except Fault) (List Char)) :
    Item → StateT σ (Except Fault) (List Char)
  | .char c => return [c]
  | .field field => fillField s choose nested field

theorem gather_chars (nested : List Char → StateT σ (Except Fault) (List Char)) (cs : List Char) :
    gather (fillItem s choose nested) (cs.map .char) = pure cs := by
  induction cs with
  | nil => rfl
  | cons c cs ih =>
    rw [List.map_cons, gather_cons, ih, fillItem]
    simp

theorem gather_itemsOfPiece (nested : List Char → StateT σ (Except Fault) (List Char))
    (piece : Piece) :
    gather (fillItem s choose nested) (itemsOfPiece piece) = fillPiece s choose nested piece := by
  rw [itemsOfPiece, gather_append, gather_chars, pure_bind, fillPiece]
  cases piece.field with
  | none => simp [gather]
  | some field => simp [gather, fillItem]

/-- A format text is filled item by item. -/
theorem Formats.fillBy {cs : List Char} {items : List Item} (h : Formats cs items) (depth : Nat) :
    Format.fillBy s choose (depth + 1) cs =
      gather (fillItem s choose (Format.fillBy s choose depth)) items := by
  obtain ⟨hfault, rfl⟩ := formats_iff.mp h
  rw [Format.fillBy, hfault, itemsOf, gather_flatMap]
  simp only [gather_itemsOfPiece]
  rfl

/-- **Filling format texts one behind the other is filling the one and then the other.** -/
theorem fillBy_append {t u : List Char} {first second : List Item} (ht : Formats t first)
    (hu : Formats u second) (depth : Nat) :
    Format.fillBy s choose (depth + 1) (t ++ u) = do
      let front ← Format.fillBy s choose (depth + 1) t
      let back ← Format.fillBy s choose (depth + 1) u
      return front ++ back := by
  rw [(ht.append hu).fillBy, ht.fillBy, hu.fillBy, gather_append]

end

end FaultContext.Format
