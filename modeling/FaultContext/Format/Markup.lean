/-
# FaultContext.Format.Markup -- the grammar of format texts.

A format text is literal text with replacement fields between braces; a doubled brace is a brace.
`pieces` splits a text from left to right and stops at the first fault, so that what stands before
the fault is still known: a reader that works field by field meets the fields first and the fault
after them.  A field is a name, an optional conversion and a specification, and the specification is
again a format text.

What the pieces of a text are made of stands in the text, one piece behind the other
(`pieces_sublist`), so a specification is strictly shorter than the text it stands in.

Deliberately not here: what a field's name means (`FaultContext.Format.Path`) and what a
specification means (`FaultContext.Format.Spec`).
-/

namespace FaultContext.Format

/-- Why a text is not a format text. -/
inductive MarkupFault where
  | loneClose
  | loneOpen
  | openInName
  | unclosedField
  | missingConversion
  | textAfterConversion
  | unclosedSpec
  deriving DecidableEq, Repr

/-- The wording of a fault. -/
def MarkupFault.message : MarkupFault → String
  | .loneClose => "Single '\x7d' encountered in format string"
  | .loneOpen => "Single '\x7b' encountered in format string"
  | .openInName => "unexpected '\x7b' in field name"
  | .unclosedField => "expected '\x7d' before end of string"
  | .missingConversion => "end of string while looking for conversion specifier"
  | .textAfterConversion => "expected ':' after conversion specifier"
  | .unclosedSpec => "unmatched '\x7b' in format spec"

/-- A replacement field. -/
structure Field where
  name : List Char
  conversion : Option Char
  spec : List Char
  deriving DecidableEq, Repr

/-- Literal text, and the field that follows it unless the text ends or a doubled brace stands
there. -/
structure Piece where
  literal : List Char
  field : Option Field
  deriving DecidableEq, Repr

/-! ## Scanning one field -/

/-- The name of a field, the character that ends it and what follows.  Between `[` and `]` every
character belongs to the name. -/
def scanName (bracketed : Bool) : List Char → Except MarkupFault (List Char × Char × List Char)
  | [] => .error .unclosedField
  | c :: rest =>
    let longer (bracketed : Bool) :=
      (scanName bracketed rest).map fun (name, ending, tail) => (c :: name, ending, tail)
    if bracketed then longer (c != ']')
    else if c = '{' then .error .openInName
    else if c = '}' || c = ':' || c = '!' then .ok ([], c, rest)
    else longer (c == '[')

/-- A specification up to the brace that closes its field, and what follows; `depth` counts the
braces opened inside it. -/
def scanSpec (depth : Nat) : List Char → Except MarkupFault (List Char × List Char)
  | [] => .error .unclosedSpec
  | c :: rest =>
    let longer (depth : Nat) := (scanSpec depth rest).map fun (spec, tail) => (c :: spec, tail)
    if c = '{' then longer (depth + 1)
    else if c = '}' then
      match depth with
      | 0 => .ok ([], rest)
      | outer + 1 => longer outer
    else longer depth

/-- A conversion character; the null character stands for none. -/
def conversionOf (c : Char) : Option Char :=
  if c.toNat = 0 then none else some c

/-- A whole field, from behind its opening brace, and what follows it. -/
def scanField (cs : List Char) : Except MarkupFault (Field × List Char) := do
  let (name, ending, rest) ← scanName false cs
  let withSpec (conversion : Option Char) (text : List Char) := do
    let (spec, tail) ← scanSpec 0 text
    return (⟨name, conversion, spec⟩, tail)
  if ending = '}' then return (⟨name, none, []⟩, rest)
  else if ending = ':' then withSpec none rest
  else
    match rest with
    | [] => .error .missingConversion
    | [_] => .error .unclosedSpec
    | c :: '}' :: tail => return (⟨name, conversionOf c, []⟩, tail)
    | c :: ':' :: text => withSpec (conversionOf c) text
    | _ => .error .textAfterConversion

/-! ## What scanning finds -/

section

variable {c ending : Char} {cs name spec rest : List Char}

/-- A scan that has found something behind a character, with the character in front. -/
theorem map_cons_eq_ok_iff {α : Type} {scan : Except MarkupFault (List Char × α)} {found : α} :
    scan.map (fun scanned => (c :: scanned.1, scanned.2)) = .ok (name, found) ↔
      ∃ shorter, name = c :: shorter ∧ scan = .ok (shorter, found) := by
  cases scan with
  | error fault => simp [Except.map]
  | ok scanned =>
    constructor
    · rintro ⟨⟩
      exact ⟨scanned.1, rfl, rfl⟩
    · rintro ⟨_, rfl, ⟨⟩⟩
      rfl

/-- The scan for the end of a name stops at a character, or the character belongs to the name. -/
theorem scanName_cons_eq_ok_iff {bracketed : Bool} :
    scanName bracketed (c :: cs) = .ok (name, ending, rest) ↔
      (bracketed = false ∧ c ∈ ['}', ':', '!'] ∧ name = [] ∧ ending = c ∧ rest = cs) ∨
      (bracketed = false → c ∉ ['{', '}', ':', '!']) ∧ ∃ shorter, name = c :: shorter ∧
        scanName (if bracketed then c != ']' else c == '[') cs = .ok (shorter, ending, rest) := by
  rw [scanName]
  dsimp only
  split
  next hin => rw [map_cons_eq_ok_iff, hin]; simp
  next hout =>
    rw [Bool.not_eq_true] at hout
    split
    next hopen => simp [hout, hopen]
    next hopen =>
      split
      next hends =>
        have hmem : c ∈ ['}', ':', '!'] := by simpa [or_assoc] using hends
        constructor
        · rintro ⟨⟩
          exact .inl ⟨hout, hmem, rfl, rfl, rfl⟩
        · rintro (⟨-, -, rfl, rfl, rfl⟩ | ⟨hgoes, -⟩)
          · rfl
          · exact absurd (List.mem_cons_of_mem _ hmem) (hgoes hout)
      next hgoes =>
        have hmem : c ∉ ['}', ':', '!'] := by simpa [and_assoc] using hgoes
        rw [map_cons_eq_ok_iff, hout]
        simp [hopen, hmem]

/-- The scan for the end of a specification stops at a closing brace, or the character belongs to
the specification. -/
theorem scanSpec_cons_eq_ok_iff {depth : Nat} :
    scanSpec depth (c :: cs) = .ok (spec, rest) ↔
      (depth = 0 ∧ c = '}' ∧ spec = [] ∧ rest = cs) ∨
      (depth = 0 → c ≠ '}') ∧ ∃ shorter, spec = c :: shorter ∧
        scanSpec (if c = '{' then depth + 1 else if c = '}' then depth - 1 else depth) cs =
          .ok (shorter, rest) := by
  rw [scanSpec.eq_def]
  dsimp only
  split
  next hopen => rw [map_cons_eq_ok_iff]; simp [hopen]
  next hopen =>
    split
    next hclose =>
      cases depth with
      | zero => simp [hclose, eq_comm]
      | succ outer => rw [map_cons_eq_ok_iff]; simp [hclose]
    next hclose => rw [map_cons_eq_ok_iff]; simp [hclose]

/-- What ends a name stands in the text, in front of what follows it. -/
theorem suffix_of_scanName {bracketed : Bool}
    (h : scanName bracketed cs = .ok (name, ending, rest)) : ending :: rest <:+ cs := by
  induction cs generalizing bracketed name with
  | nil => cases h
  | cons c cs ih =>
    rcases scanName_cons_eq_ok_iff.mp h with ⟨-, -, -, rfl, rfl⟩ | ⟨-, shorter, -, hshorter⟩
    · exact List.suffix_rfl
    · exact (ih hshorter).trans (List.suffix_cons c cs)

/-- A specification stands in front of the brace that closes its field. -/
theorem eq_of_scanSpec {depth : Nat} (h : scanSpec depth cs = .ok (spec, rest)) :
    cs = spec ++ '}' :: rest := by
  induction cs generalizing depth spec with
  | nil => cases h
  | cons c cs ih =>
    rcases scanSpec_cons_eq_ok_iff.mp h with ⟨-, rfl, rfl, rfl⟩ | ⟨-, shorter, rfl, hshorter⟩
    · rfl
    · rw [List.cons_append, ← ih hshorter]

/-- A field has a name, and a brace closes it: behind the name, behind a conversion, or behind a
specification. -/
theorem scanField_eq_ok_iff {field : Field} :
    scanField cs = .ok (field, rest) ↔
      ∃ ending tail, scanName false cs = .ok (field.name, ending, tail) ∧
        ((ending = '}' ∧ field.conversion = none ∧ field.spec = [] ∧ rest = tail) ∨
          (ending = ':' ∧ field.conversion = none ∧ scanSpec 0 tail = .ok (field.spec, rest)) ∨
          (ending ≠ '}' ∧ ending ≠ ':' ∧ ∃ c, field.conversion = conversionOf c ∧
            ((field.spec = [] ∧ tail = c :: '}' :: rest) ∨
              ∃ text, tail = c :: ':' :: text ∧ scanSpec 0 text = .ok (field.spec, rest)))) := by
  obtain ⟨name, conversion, spec⟩ := field
  have withSpec {found : List Char} {given : Option Char} {text : List Char} :
      (scanSpec 0 text >>= fun scanned => Except.ok (Field.mk found given scanned.1, scanned.2)) =
        .ok (⟨name, conversion, spec⟩, rest) ↔
      found = name ∧ conversion = given ∧ scanSpec 0 text = .ok (spec, rest) := by
    rcases scanSpec 0 text with fault | ⟨shorter, tail⟩
    · simp [bind, Except.bind]
    · simp [bind, Except.bind, eq_comm, and_assoc]
  constructor
  · intro h
    rw [scanField] at h
    rcases hname : scanName false cs with fault | ⟨found, ending, tail⟩
    · rw [hname] at h
      cases h
    · rw [hname] at h
      change (if ending = '}' then _ else _) = _ at h
      split at h
      next hclose =>
        cases h
        exact ⟨ending, _, rfl, .inl ⟨hclose, rfl, rfl, rfl⟩⟩
      next hclose =>
        split at h
        next hcolon =>
          obtain ⟨rfl, hgiven, hspec⟩ := withSpec.mp h
          exact ⟨ending, tail, rfl, .inr (.inl ⟨hcolon, hgiven, hspec⟩)⟩
        next hcolon =>
          split at h
          next => cases h
          next => cases h
          next c _ =>
            cases h
            exact ⟨ending, _, rfl, .inr (.inr ⟨hclose, hcolon, c, rfl, .inl ⟨rfl, rfl⟩⟩)⟩
          next c text =>
            obtain ⟨rfl, hgiven, hspec⟩ := withSpec.mp h
            exact ⟨ending, _, rfl,
              .inr (.inr ⟨hclose, hcolon, c, hgiven, .inr ⟨text, rfl, hspec⟩⟩)⟩
          next => cases h
  · rintro ⟨ending, tail, hname, hways⟩
    rw [scanField, hname]
    change (if ending = '}' then _ else _) = _
    rcases hways with ⟨rfl, rfl, rfl, rfl⟩ | ⟨rfl, hgiven, hspec⟩ |
      ⟨hclose, hcolon, c, hgiven, ⟨rfl, rfl⟩ | ⟨text, rfl, hspec⟩⟩
    · rfl
    · exact withSpec.mpr ⟨rfl, hgiven, hspec⟩
    · obtain rfl : conversion = conversionOf c := hgiven
      rw [if_neg hclose, if_neg hcolon]
      rfl
    · rw [if_neg hclose, if_neg hcolon]
      exact withSpec.mpr ⟨rfl, hgiven, hspec⟩

/-- The specification of a field stands in the text, in front of a closing brace and of what follows
the field. -/
theorem sublist_of_scanField {field : Field} (h : scanField cs = .ok (field, rest)) :
    (field.spec ++ '}' :: rest).Sublist cs := by
  obtain ⟨ending, tail, hname, hways⟩ := scanField_eq_ok_iff.mp h
  have htail : (ending :: tail).Sublist cs := (suffix_of_scanName hname).sublist
  have hbehind := (List.sublist_cons_self ending tail).trans htail
  rcases hways with ⟨rfl, -, hspec, rfl⟩ | ⟨-, -, hspec⟩ |
    ⟨-, -, c, -, ⟨hspec, rfl⟩ | ⟨text, rfl, hspec⟩⟩
  · rwa [hspec]
  · rwa [← eq_of_scanSpec hspec]
  · rw [hspec]
    exact (List.sublist_cons_self c _).trans hbehind
  · rw [← eq_of_scanSpec hspec]
    exact ((List.sublist_cons_self ':' text).trans (List.sublist_cons_self c _)).trans hbehind

/-- A field's specification and what follows the field are together shorter than the text. -/
theorem scanField_shorter {field : Field} (h : scanField cs = .ok (field, rest)) :
    field.spec.length + rest.length < cs.length := by
  have hlength := (sublist_of_scanField h).length_le
  rw [List.length_append, List.length_cons] at hlength
  omega

end

/-! ## The pieces of a text -/

/-- A text as far as it could be split, and the fault that stopped the splitting. -/
structure Pieces where
  pieces : List Piece
  fault : Option MarkupFault
  deriving DecidableEq, Repr

/-- One more piece in front. -/
def Pieces.cons (piece : Piece) (rest : Pieces) : Pieces :=
  { rest with pieces := piece :: rest.pieces }

/-- No piece, only a fault. -/
def Pieces.failed (fault : MarkupFault) : Pieces := ⟨[], some fault⟩

/-- The literal text in front of the first brace, and the rest. -/
def splitLiteral (cs : List Char) : List Char × List Char :=
  (cs.takeWhile fun c => c != '{' && c != '}', cs.dropWhile fun c => c != '{' && c != '}')

theorem splitLiteral_length (cs : List Char) : (splitLiteral cs).2.length ≤ cs.length := by
  simpa [splitLiteral] using (List.dropWhile_suffix _).length_le

theorem append_of_splitLiteral (cs : List Char) :
    (splitLiteral cs).1 ++ (splitLiteral cs).2 = cs :=
  List.takeWhile_append_dropWhile

theorem brace_of_splitLiteral {cs rest : List Char} {c : Char}
    (h : (splitLiteral cs).2 = c :: rest) : c = '{' ∨ c = '}' := by
  have hne : cs.dropWhile (fun c => c != '{' && c != '}') ≠ [] := by
    rintro hnil
    rw [splitLiteral, hnil] at h
    cases h
  have hhead := List.head_dropWhile_not _ hne
  simp only [splitLiteral] at h
  simp only [h, List.head_cons, Bool.and_eq_false_iff, bne_eq_false_iff_eq] at hhead
  exact hhead

/-- Splits a text into its pieces.  After a literal comes the end, a doubled brace, or a field. -/
def pieces (cs : List Char) : Pieces :=
  if cs.isEmpty then ⟨[], none⟩
  else
    match h : (splitLiteral cs).2 with
    | [] => ⟨[⟨(splitLiteral cs).1, none⟩], none⟩
    | [c] => .failed (if c = '}' then .loneClose else .loneOpen)
    | c :: d :: rest =>
      have hlen : rest.length + 2 ≤ cs.length := by
        have bound := splitLiteral_length cs
        rw [h] at bound
        exact bound
      if c = d then (pieces rest).cons ⟨(splitLiteral cs).1 ++ [c], none⟩
      else if c = '}' then .failed .loneClose
      else
        match hf : scanField (d :: rest) with
        | .error fault => .failed fault
        | .ok (field, tail) =>
          have : tail.length < cs.length := by
            have := scanField_shorter hf
            simp only [List.length_cons] at this
            omega
          (pieces tail).cons ⟨(splitLiteral cs).1, some field⟩
termination_by cs.length

/-- What holds of literal text and of all fields that are scanned holds of the pieces of a text. -/
theorem forall_mem_pieces {P : Piece → Prop}
    (hliteral : ∀ literal, literal ≠ [] → P ⟨literal, none⟩)
    (hfield : ∀ literal text field tail, scanField text = .ok (field, tail) →
      P ⟨literal, some field⟩) (cs : List Char) : ∀ piece ∈ (pieces cs).pieces, P piece := by
  fun_induction pieces cs with
  | case1 => exact nofun
  | case2 cs hempty hend =>
    have htext := append_of_splitLiteral cs
    rw [hend, List.append_nil] at htext
    intro piece hp
    rw [List.mem_singleton.mp hp, htext]
    exact hliteral cs (by simpa using hempty)
  | case3 => exact nofun
  | case4 cs _ c rest _ _ ih =>
    exact List.forall_mem_cons.mpr ⟨hliteral _ (by simp), ih⟩
  | case5 => exact nofun
  | case6 => exact nofun
  | case7 cs _ _ c rest _ _ _ _ field tail hscan _ ih =>
    exact List.forall_mem_cons.mpr ⟨hfield _ _ field tail hscan, ih⟩

/-- The literal text of a piece, and the specification of its field between braces. -/
def Piece.extent (piece : Piece) : List Char :=
  piece.literal ++ match piece.field with
    | none => []
    | some field => '{' :: field.spec ++ ['}']

/-- **The pieces of a text stand in it one behind the other**, also if the text has a fault. -/
theorem pieces_sublist (cs : List Char) :
    ((pieces cs).pieces.flatMap Piece.extent).Sublist cs := by
  fun_induction pieces cs with
  | case1 => exact List.nil_sublist _
  | case2 cs _ hend =>
    have htext := append_of_splitLiteral cs
    rw [hend, List.append_nil] at htext
    simp [Piece.extent, htext]
  | case3 => exact List.nil_sublist _
  | case4 cs _ c rest hdoubled _ ih =>
    have htext := append_of_splitLiteral cs
    rw [hdoubled] at htext
    calc ((pieces rest).cons ⟨(splitLiteral cs).1 ++ [c], none⟩).pieces.flatMap Piece.extent
      _ = (splitLiteral cs).1 ++ c :: (pieces rest).pieces.flatMap Piece.extent := by
        simp [Pieces.cons, Piece.extent]
      List.Sublist _ ((splitLiteral cs).1 ++ c :: c :: rest) :=
        ((ih.trans (List.sublist_cons_self c rest)).cons_cons c).append_left _
      _ = cs := htext
  | case5 => exact List.nil_sublist _
  | case6 => exact List.nil_sublist _
  | case7 cs _ brace c rest hsplit _ _ hclosed field tail hfield _ ih =>
    obtain rfl : brace = '{' := (brace_of_splitLiteral hsplit).resolve_right hclosed
    have htext := append_of_splitLiteral cs
    rw [hsplit] at htext
    have hbehind : (field.spec ++ '}' :: (pieces tail).pieces.flatMap Piece.extent).Sublist
        (c :: rest) :=
      ((ih.cons_cons '}').append_left field.spec).trans (sublist_of_scanField hfield)
    calc ((pieces tail).cons ⟨(splitLiteral cs).1, some field⟩).pieces.flatMap Piece.extent
      _ = (splitLiteral cs).1 ++
          '{' :: (field.spec ++ '}' :: (pieces tail).pieces.flatMap Piece.extent) := by
        simp [Pieces.cons, Piece.extent]
      List.Sublist _ ((splitLiteral cs).1 ++ '{' :: c :: rest) :=
        (hbehind.cons_cons '{').append_left _
      _ = cs := htext

/-- A piece stands in its text. -/
theorem extent_sublist {cs : List Char} {piece : Piece} (h : piece ∈ (pieces cs).pieces) :
    piece.extent.Sublist cs := by
  have hpieces := pieces_sublist cs
  rw [List.flatMap_def] at hpieces
  exact (List.sublist_flatten_of_mem (List.mem_map_of_mem h)).trans hpieces

/-- Every specification in a text is shorter than the text. -/
theorem spec_length_lt {cs : List Char} {piece : Piece} {field : Field}
    (hp : piece ∈ (pieces cs).pieces) (hf : piece.field = some field) :
    field.spec.length < cs.length := by
  have hlength := (extent_sublist hp).length_le
  simp only [Piece.extent, hf, List.length_append, List.length_cons] at hlength
  omega

/-! ## All fields, nested ones included -/

/-- A text that is no format text, and why. -/
structure Malformed where
  text : List Char
  fault : MarkupFault
  deriving DecidableEq, Repr

/-- Field names with their conversions in the order of reading, and what stopped the reading. -/
structure Fields where
  found : List (List Char × Option Char)
  malformed : Option Malformed
  deriving DecidableEq, Repr

/-- No field and no fault. -/
def Fields.empty : Fields := ⟨[], none⟩

/-- First one reading, then, unless it was stopped, the other. -/
def Fields.append (first second : Fields) : Fields :=
  match first.malformed with
  | some _ => first
  | none => { second with found := first.found ++ second.found }

/-- Reads all fields of a text: each field stands before the fields of its own specification.  A
text is read only if it is a format text as a whole. -/
def Fields.ofText (cs : List Char) : Fields :=
  match (pieces cs).fault with
  | some fault => ⟨[], some ⟨cs, fault⟩⟩
  | none =>
    ((pieces cs).pieces.attach.map fun ⟨piece, hp⟩ =>
      match hf : piece.field with
      | none => Fields.empty
      | some field =>
        have := spec_length_lt hp hf
        let nested := if field.spec.isEmpty then Fields.empty else Fields.ofText field.spec
        Fields.append ⟨[(field.name, field.conversion)], none⟩ nested).foldr
      Fields.append Fields.empty
termination_by cs.length

end FaultContext.Format
