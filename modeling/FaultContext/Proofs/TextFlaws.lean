/-
# FaultContext.Proofs.TextFlaws -- what makes a format text impossible to fill.

A format text may be well formed and still be one that nothing can fill: its specifications have
fields too deep inside one another, or the name of a field cannot be followed to its end.  `flaws`
lists everything of that kind.  It goes by the text alone.

A text with a flaw is never filled, whatever the arguments and the objects are.  In a text without
one, what stops the filling is a step, a conversion or a specification that does not fit the value
that it is applied to, or else it is what a head has picked.

A name cannot lack the bracket that closes an item: the scan that finds the end of a name does not
stop within brackets.
-/
import FaultContext.Proofs.FieldHeads
import FaultContext.Proofs.Filling

namespace FaultContext.Format

/-! ## Flaws -/

/-- Why nothing fills a format text. -/
inductive Flaw where
  | tooDeep
  | name (fault : PathFault)
  deriving DecidableEq, Repr

/-- The fault that a flaw is met as. -/
def Flaw.fault : Flaw → Fault
  | .tooDeep => .nestedTooDeep
  | .name fault => .path fault

/-- What keeps a name from being followed to its end. -/
def nameFlaws (name : List Char) : List PathFault :=
  let head := match Head.ofText (splitHead name).1 with
    | .ok _ => []
    | .error fault => [fault]
  head ++ (Steps.ofText (splitHead name).2).fault.toList

/-- The flaws of a piece; `nested` finds those of a specification. -/
def flawsOfPiece (nested : List Char → List Flaw) (piece : Piece) : List Flaw :=
  match piece.field with
  | none => []
  | some field => (nameFlaws field.name).map .name ++
      if field.spec.contains '{' then nested field.spec else []

/-- The flaws of a text whose specifications may have fields `depth` levels deep. -/
def flaws : Nat → List Char → List Flaw
  | 0, _ => [.tooDeep]
  | depth + 1, text => (pieces text).pieces.flatMap (flawsOfPiece (flaws depth))

/-! ## No text with a flaw is filled -/

section

variable {σ α β : Type}

/-- A computation that has no result. -/
def Never (m : StateT σ (Except Fault) α) : Prop := ∀ n a n', m.run n ≠ .ok (a, n')

theorem Never.bind {m : StateT σ (Except Fault) α} (h : Never m)
    (f : α → StateT σ (Except Fault) β) : Never (m >>= f) := by
  intro n b n' hrun
  rw [StateT.run_bind] at hrun
  cases hm : m.run n with
  | error fault => rw [hm] at hrun; cases hrun
  | ok reached => exact h n reached.1 reached.2 hm

theorem never_bind (m : StateT σ (Except Fault) α) {f : α → StateT σ (Except Fault) β}
    (h : ∀ a, Never (f a)) : Never (m >>= f) := by
  intro n b n' hrun
  rw [StateT.run_bind] at hrun
  cases hm : m.run n with
  | error fault => rw [hm] at hrun; cases hrun
  | ok reached => rw [hm] at hrun; exact h reached.1 reached.2 b n' hrun

theorem never_throw (fault : Fault) : Never (throw fault : StateT σ (Except Fault) α) := nofun

/-- What is done to each piece has no result if one of the pieces has none. -/
theorem never_mapM {ps : List Piece} {piece : Piece} (hp : piece ∈ ps)
    {f : Piece → StateT σ (Except Fault) α} (h : Never (f piece)) : Never (ps.mapM f) := by
  induction ps with
  | nil => exact absurd hp List.not_mem_nil
  | cons first rest ih =>
    rw [List.mapM_cons]
    rcases List.mem_cons.mp hp with rfl | hrest
    · exact h.bind _
    · exact never_bind _ fun _ => (ih hrest).bind _

/-- The steps of a name are not all taken if there is a fault behind them. -/
theorem follow_ne_ok {s : Store} {steps : Steps} (h : steps.fault ≠ none) (v v' : Value) :
    follow s v steps ≠ .ok v' := by
  intro hfollow
  obtain ⟨fault, hfault⟩ := Option.ne_none_iff_exists'.mp h
  rw [follow, hfault] at hfollow
  cases hsteps : steps.steps.foldlM (take s) v with
  | error problem => rw [hsteps] at hfollow; cases hfollow
  | ok reached => rw [hsteps] at hfollow; cases hfollow

end

/-- **A text with a flaw is never filled.** -/
theorem never_fillBy (s : Store) (args : Arguments) {depth : Nat} {text : List Char}
    (h : flaws depth text ≠ []) : Never (fillBy s (pickHead args) depth text) := by
  induction depth generalizing text with
  | zero => exact never_throw _
  | succ depth ih =>
    obtain ⟨flaw, hflaw⟩ := List.exists_mem_of_ne_nil _ h
    obtain ⟨piece, hpiece, hflaw⟩ := List.mem_flatMap.mp hflaw
    refine (never_mapM hpiece ?_).bind _
    rw [flawsOfPiece] at hflaw
    rw [fillPiece]
    cases hfield : piece.field with
    | none => rw [hfield] at hflaw; cases hflaw
    | some field =>
      rw [hfield] at hflaw
      refine Never.bind ?_ _
      rcases List.mem_append.mp hflaw with hname | hnested
      · obtain ⟨fault, hfault, rfl⟩ := List.mem_map.mp hname
        rcases List.mem_append.mp hfault with hhead | hsteps
        · -- The digits of the head are too many.
          refine Never.bind ?_ _
          rw [pickHead]
          cases hof : Head.ofText (splitHead field.name).1 with
          | ok picked => rw [hof] at hhead; cases hhead
          | error problem => exact never_throw _
        · refine never_bind _ fun v => Never.bind ?_ _
          intro n v' n' hrun
          have hsteps : (Steps.ofText (splitHead field.name).2).fault ≠ none := by
            rw [Option.mem_toList] at hsteps
            rw [hsteps]
            exact Option.some_ne_none fault
          cases hfollow : follow s v (Steps.ofText (splitHead field.name).2) with
          | error problem => rw [hfollow] at hrun; cases hrun
          | ok reached => exact follow_ne_ok hsteps v reached hfollow
      · refine never_bind _ fun _ => never_bind _ fun _ => never_bind _ fun _ => Never.bind ?_ _
        split at hnested
        next hbrace =>
          rw [fillSpec, if_pos hbrace]
          exact ih (List.ne_nil_of_mem hnested)
        next => cases hnested

/-! ## What stops the filling of a text -/

/-- A step, a conversion or a specification does not fit a value. -/
inductive Unfit (s : Store) (fault : Fault) : Prop
  | step (v : Value) (step : Step) : take s v step = .error fault → Unfit s fault
  | conversion (v : Value) (c : Option Char) : Template.knownConversion c = true →
    convert s v c = .error fault → Unfit s fault
  | layout (v : Value) (spec : List Char) : layout s v spec = .error fault → Unfit s fault

section

variable {s : Store} {known : List Flaw} {α β : Type}

/-- A computation uses up as many of the values that are supplied as it has fields, unless it stops
at something that does not fit, at a known flaw, or at what is supplied in place of a value. -/
def Stems (s : Store) (known : List Flaw) (m : StateT Supply (Except Fault) α) (fields : Nat) :
    Prop :=
  ∀ picked later, picked.length = fields →
    match m.run (picked ++ later) with
    | .ok (_, rest) => rest = later
    | .error fault => Unfit s fault ∨ (∃ flaw ∈ known, flaw.fault = fault) ∨ .error fault ∈ picked

theorem Stems.pure (a : α) : Stems s known (pure a) 0 := by
  intro picked later hlength
  cases List.length_eq_zero_iff.mp hlength
  rfl

theorem Stems.lift {r : Except Fault α}
    (h : ∀ fault, r = .error fault → Unfit s fault ∨ ∃ flaw ∈ known, flaw.fault = fault) :
    Stems s known (liftM r) 0 := by
  intro picked later hlength
  cases List.length_eq_zero_iff.mp hlength
  cases r with
  | ok a => rfl
  | error fault => exact (h fault rfl).imp_right .inl

theorem Stems.bind {m : StateT Supply (Except Fault) α} {f : α → StateT Supply (Except Fault) β}
    {fields fields' : Nat} (hm : Stems s known m fields) (hf : ∀ a, Stems s known (f a) fields') :
    Stems s known (m >>= f) (fields + fields') := by
  intro picked later hlength
  have htake : (picked.take fields).length = fields := by rw [List.length_take]; omega
  have hdrop : (picked.drop fields).length = fields' := by rw [List.length_drop]; omega
  have hfirst := hm (picked.take fields) (picked.drop fields ++ later) htake
  rw [← List.append_assoc, List.take_append_drop] at hfirst
  rw [StateT.run_bind]
  cases hrun : m.run (picked ++ later) with
  | error fault =>
    rw [hrun] at hfirst
    exact hfirst.imp_right (.imp_right List.mem_of_mem_take)
  | ok reached =>
    obtain ⟨a, rest⟩ := reached
    rw [hrun] at hfirst
    subst hfirst
    have hsecond := hf a (picked.drop fields) later hdrop
    dsimp only [Bind.bind, Except.bind] at hsecond ⊢
    split at hsecond
    next heq => rw [heq]; exact hsecond
    next heq => rw [heq]; exact hsecond.imp_right (.imp_right List.mem_of_mem_drop)

theorem Stems.bind_last {m : StateT Supply (Except Fault) α}
    {f : α → StateT Supply (Except Fault) β} {fields : Nat} (hm : Stems s known m fields)
    (hf : ∀ a, Stems s known (f a) 0) : Stems s known (m >>= f) fields :=
  hm.bind hf

theorem Stems.lift_bind {r : Except Fault α} {f : α → StateT Supply (Except Fault) β} {fields : Nat}
    (hr : ∀ fault, r = .error fault → Unfit s fault ∨ ∃ flaw ∈ known, flaw.fault = fault)
    (hf : ∀ a, Stems s known (f a) fields) : Stems s known (liftM r >>= f) fields := by
  have hboth := (Stems.lift hr).bind hf
  rwa [Nat.zero_add] at hboth

theorem stems_supplied (head : List Char) : Stems s known (supplied head) 1 := by
  intro picked later hlength
  obtain ⟨v, rfl⟩ := List.length_eq_one_iff.mp hlength
  cases v with
  | ok v => rfl
  | error fault => exact .inr (.inr List.mem_cons_self)

/-- The steps of a name fail at one that does not fit, or at the fault behind them. -/
theorem fault_of_follow {v : Value} {steps : Steps} {fault : Fault}
    (h : follow s v steps = .error fault) :
    Unfit s fault ∨ ∃ problem, steps.fault = some problem ∧ fault = .path problem := by
  rw [follow] at h
  cases hsteps : steps.steps.foldlM (take s) v with
  | error problem =>
    rw [hsteps] at h
    cases h
    refine .inl ?_
    generalize steps.steps = taken at hsteps
    induction taken generalizing v with
    | nil => cases hsteps
    | cons step rest ih =>
      rw [List.foldlM_cons] at hsteps
      cases htake : take s v step with
      | error problem => rw [htake] at hsteps; cases hsteps; exact .step v step htake
      | ok reached => rw [htake] at hsteps; exact ih hsteps
  | ok reached =>
    rw [hsteps] at h
    dsimp only [Bind.bind, Except.bind] at h
    split at h
    next problem hfault => cases h; exact .inr ⟨problem, hfault, rfl⟩
    next => cases h

theorem Stems.mapM {ps : List Piece} {f : Piece → StateT Supply (Except Fault) β}
    {heads : Piece → List (List Char)} (h : ∀ p ∈ ps, Stems s known (f p) (heads p).length) :
    Stems s known (ps.mapM f) (ps.flatMap heads).length := by
  induction ps with
  | nil => exact .pure _
  | cons p rest ih =>
    obtain ⟨hp, hrest⟩ := List.forall_mem_cons.mp h
    rw [List.mapM_cons, List.flatMap_cons, List.length_append]
    exact hp.bind fun _ => (ih hrest).bind_last fun _ => .pure _

end

/-- **What stops the filling of a format text with supplied values** is something that does not fit,
a flaw of the text, or what was supplied in place of a value. -/
theorem stems_fillBy (s : Store) {depth : Nat} {text : List Char}
    (h : (Fields.ofText text).malformed = none)
    (hconversions : ∀ field ∈ (Fields.ofText text).found, Template.knownConversion field.2 = true)
    {known : List Flaw}
    (hknown : ∀ flaw ∈ flaws depth text, flaw ∈ known) :
    Stems s known (fillBy s supplied depth text) (headsOf text).length := by
  induction depth generalizing text with
  | zero =>
    exact fun _ _ _ => .inr (.inl ⟨.tooDeep, hknown _ List.mem_cons_self, rfl⟩)
  | succ depth ih =>
    obtain ⟨hfault, hspecs, hfound⟩ := wellFormed_of_malformed h
    rw [fillBy, hfault, headsOf_eq h]
    refine .bind_last (.mapM fun piece hp => ?_) fun parts => .pure _
    have hpiece : ∀ flaw ∈ flawsOfPiece (flaws depth) piece, flaw ∈ known := fun flaw hflaw =>
      hknown flaw (List.mem_flatMap.mpr ⟨piece, hp, hflaw⟩)
    have hfields : ∀ field ∈ fieldsOfPiece piece, Template.knownConversion field.2 = true :=
      fun field hfield =>
        hconversions field (hfound ▸ List.mem_flatMap.mpr ⟨piece, hp, hfield⟩)
    rw [flawsOfPiece] at hpiece
    rw [fieldsOfPiece] at hfields
    rw [fillPiece, headsOfPiece, fieldsOfPiece]
    cases hfield : piece.field with
    | none => exact .pure _
    | some field =>
      rw [hfield] at hpiece hfields
      obtain ⟨hname, hnested⟩ := List.forall_mem_append.mp hpiece
      obtain ⟨hconversion, hrest⟩ := List.forall_mem_cons.mp hfields
      have hspec : (Fields.ofText field.spec).malformed = none := hspecs piece hp field hfield
      have hfilled : Stems s known (fillSpec (fillBy s supplied depth) field.spec)
          (headsOf field.spec).length := by
        rw [fillSpec]
        split
        next hbrace => exact ih hspec hrest fun flaw hflaw => hnested flaw (by rwa [if_pos hbrace])
        next hbrace =>
          rw [headsOf_of_no_brace hspec (by simpa using hbrace)]
          exact .pure _
      refine .bind_last ?_ fun _ => .pure _
      rw [List.map_cons, List.length_cons, Nat.add_comm]
      refine (stems_supplied _).bind fun v => .lift_bind (fun fault hfollow => ?_) fun v =>
        .lift_bind (fun fault hconvert => .inl (.conversion _ _ hconversion hconvert)) fun v =>
          hfilled.bind_last fun spec => .lift fun fault hlayout => .inl (.layout _ _ hlayout)
      rcases fault_of_follow hfollow with hunfit | ⟨problem, hsteps, rfl⟩
      · exact .inl hunfit
      · refine .inr ⟨.name problem, hname _ (List.mem_map_of_mem ?_), rfl⟩
        exact List.mem_append_right _ (Option.mem_toList.mpr hsteps)

/-- A head with too many digits is a flaw, unless it is so deep that its depth is one. -/
theorem flaws_ne_nil_of_overflows {depth : Nat} {text head : List Char}
    (h : (Fields.ofText text).malformed = none) (hhead : head ∈ headsOf text)
    (hover : Overflows 0 head) : flaws depth text ≠ [] := by
  induction depth generalizing text with
  | zero => exact List.cons_ne_nil _ _
  | succ depth ih =>
    obtain ⟨-, hspecs, -⟩ := wellFormed_of_malformed h
    rw [headsOf_eq h] at hhead
    obtain ⟨piece, hpiece, hhead⟩ := List.mem_flatMap.mp hhead
    suffices hflaws : flawsOfPiece (flaws depth) piece ≠ [] by
      obtain ⟨flaw, hflaw⟩ := List.exists_mem_of_ne_nil _ hflaws
      exact List.ne_nil_of_mem (List.mem_flatMap.mpr ⟨piece, hpiece, hflaw⟩)
    rw [headsOfPiece, fieldsOfPiece] at hhead
    rw [flawsOfPiece]
    cases hfield : piece.field with
    | none => rw [hfield] at hhead; cases hhead
    | some field =>
      rw [hfield] at hhead
      dsimp only
      rcases List.mem_cons.mp hhead with rfl | hhead
      · have hof : Head.ofText (splitHead field.name).1 = .error .tooManyDigits :=
          Head.ofText_of_overflows hover
        rw [nameFlaws, hof]
        simp
      · have hspec := hspecs piece hpiece field hfield
        have hbrace : field.spec.contains '{' = true := by
          refine Decidable.not_not.mp fun hbrace => ?_
          have hnone := headsOf_of_no_brace hspec (by simpa using hbrace)
          exact absurd (hnone ▸ hhead : head ∈ []) List.not_mem_nil
        rw [if_pos hbrace]
        exact fun hnil => ih hspec hhead (List.append_eq_nil_iff.mp hnil).2

/-! ## Brackets are closed -/

/-- Every item that a name goes into is closed by a bracket. -/
def closesItems (bracketed : Bool) : List Char → Bool
  | [] => !bracketed
  | c :: rest => closesItems (if bracketed then c != ']' else c == '[') rest

/-- The scan for the end of a name does not stop within an item. -/
theorem closesItems_of_scanName {bracketed : Bool} {cs name rest : List Char} {ending : Char}
    (h : scanName bracketed cs = .ok (name, ending, rest)) : closesItems bracketed name = true := by
  induction cs generalizing bracketed name with
  | nil => cases h
  | cons c cs ih =>
    rcases scanName_cons_eq_ok_iff.mp h with ⟨rfl, -, rfl, -, -⟩ | ⟨-, shorter, rfl, hshorter⟩
    · rfl
    · rw [closesItems]
      exact ih hshorter

/-- The fields of a text have names whose items are closed. -/
theorem closesItems_of_field {cs : List Char} {piece : Piece} {field : Field}
    (hp : piece ∈ (pieces cs).pieces) (hf : piece.field = some field) :
    closesItems false field.name = true := by
  refine forall_mem_pieces (P := fun piece => ∀ field, piece.field = some field →
    closesItems false field.name = true) ?_ ?_ cs piece hp field hf
  · exact fun _ _ => nofun
  · rintro _ _ _ _ hscan _ ⟨⟩
    obtain ⟨ending, behind, hname, -⟩ := scanField_eq_ok_iff.mp hscan
    exact closesItems_of_scanName hname

/-- What stands behind the head of a name closes its items as well. -/
theorem closesItems_dropWhile {cs : List Char} (h : closesItems false cs = true) :
    closesItems false (cs.dropWhile (!beginsStep ·)) = true := by
  induction cs with
  | nil => exact h
  | cons c rest ih =>
    rw [List.dropWhile_cons]
    split
    next hc =>
      refine ih ?_
      have hbracket : (c == '[') = false := by
        rw [beginsStep, Bool.not_or, Bool.and_eq_true, Bool.not_eq_true'] at hc
        simpa using hc.2
      rwa [closesItems, if_neg Bool.false_ne_true, hbracket] at h
    next => exact h

/-- Behind the bracket that opens an item comes one that closes it. -/
theorem closesItems_item {cs : List Char} (h : closesItems true cs = true) :
    ∃ tail, cs.dropWhile (· != ']') = ']' :: tail ∧ closesItems false tail = true := by
  induction cs with
  | nil => cases h
  | cons c rest ih =>
    rw [closesItems, if_pos rfl] at h
    by_cases hc : c = ']'
    · subst hc
      exact ⟨rest, rfl, h⟩
    · have hne : (c != ']') = true := by simpa using hc
      have hdrop : (c :: rest).dropWhile (· != ']') = rest.dropWhile (· != ']') :=
        List.dropWhile_cons_of_pos hne
      rw [hdrop]
      exact ih (hne ▸ h)

/-- Where all items are closed, no bracket is missing. -/
theorem steps_fault_ne_missingBracket {cs : List Char} (h : closesItems false cs = true) :
    (Steps.ofText cs).fault ≠ some .missingBracket := by
  fun_induction Steps.ofText cs with
  | case1 => exact nofun
  | case2 => exact nofun
  | case3 rest name _ _ ih => exact ih (closesItems_dropWhile h)
  | case4 rest hnone =>
    obtain ⟨tail, htail, -⟩ := closesItems_item h
    rw [hnone] at htail
    cases htail
  | case5 rest c tail hdrop fault hitem =>
    -- An item is at fault if it is empty or has too many digits.
    rw [Step.ofItem] at hitem
    split at hitem
    · cases hitem
      exact nofun
    · cases hnumber : readNumber 0 (rest.takeWhile (· != ']')) with
      | ok number => rw [hnumber] at hitem; cases number <;> cases hitem
      | error problem =>
        rw [hnumber] at hitem
        cases hitem
        rw [eq_of_readNumber_eq_error (Nat.zero_le _) hnumber]
        exact nofun
  | case6 rest c tail hdrop step hitem _ ih =>
    obtain ⟨tail', htail, hclosed⟩ := closesItems_item h
    rw [hdrop] at htail
    cases htail
    exact ih hclosed
  | case7 => exact nofun

/-- **The names in a text never lack a bracket.** -/
theorem missingBracket_not_mem_flaws (depth : Nat) (text : List Char) :
    .name .missingBracket ∉ flaws depth text := by
  induction depth generalizing text with
  | zero => exact nofun
  | succ depth ih =>
    intro hmem
    obtain ⟨piece, hpiece, hmem⟩ := List.mem_flatMap.mp hmem
    rw [flawsOfPiece] at hmem
    cases hfield : piece.field with
    | none => rw [hfield] at hmem; cases hmem
    | some field =>
      rw [hfield] at hmem
      rcases List.mem_append.mp hmem with hname | hnested
      · obtain ⟨fault, hfault, heq⟩ := List.mem_map.mp hname
        cases heq
        have hclosed := closesItems_dropWhile (closesItems_of_field hpiece hfield)
        rcases List.mem_append.mp hfault with hhead | hsteps
        · split at hhead
          · cases hhead
          next problem hof =>
            cases (List.mem_singleton.mp hhead).trans (Head.ofText_eq_error_iff.mp hof).1
        · exact steps_fault_ne_missingBracket hclosed (Option.mem_toList.mp hsteps)
      · split at hnested
        · exact ih field.spec hnested
        · cases hnested

end FaultContext.Format
