/-
# FaultContext.Proofs.Escaping -- texts with doubled braces show themselves.

Doubling every brace of a text gives a format text without fields, and filling it gives the text
back.  Put in front of another format text or behind it, it adds the text to what that one is filled
to: a brace at the end of the one and a brace at the beginning of the other are never taken for a
pair, since braces come in pairs within the escaped text and the grammar goes from left to right.

What is said of templates follows: the fields are the same, so captures and parameters are checked
the same, and rendering evaluates the same captures and fills the same fields.
-/
import FaultContext.Proofs.Accepting
import FaultContext.Proofs.FormatTexts
import FaultContext.Template.Parse
import FaultContext.Template.Render

namespace FaultContext

/-! ## Escaping -/

namespace Format

/-- Doubles a brace. -/
def escapeChar (c : Char) : List Char := if c = '{' ∨ c = '}' then [c, c] else [c]

/-- A text with every brace doubled. -/
def escape (text : String) : String := String.ofList (text.toList.flatMap escapeChar)

/-- An escaped text stands for the characters of the text. -/
theorem formats_escape (text : String) :
    Formats (escape text).toList (text.toList.map .char) := by
  rw [escape, String.toList_ofList]
  induction text.toList with
  | nil => exact .nil
  | cons c cs ih =>
    rw [List.flatMap_cons, List.map_cons, escapeChar]
    split
    next hbrace => exact .doubled hbrace ih
    next hother =>
      rw [not_or] at hother
      exact .char hother.1 hother.2 ih

/-- An escaped text has no fields. -/
theorem fields_escape (text : String) : Fields.ofText (escape text).toList = .empty := by
  rw [(formats_escape text).fields, Fields.ofItems_chars]

section

variable {t : String} (text : String)

/-- An escaped text in front of a format text adds no fields. -/
theorem fields_escape_append (ht : (Fields.ofText t.toList).malformed = none) :
    Fields.ofText (escape text ++ t).toList = Fields.ofText t.toList := by
  obtain ⟨items, hitems⟩ := exists_formats ht
  rw [String.toList_append, ((formats_escape text).append hitems).fields, Fields.ofItems_append,
    Fields.ofItems_chars, Fields.empty_append, hitems.fields]

/-- An escaped text behind a format text adds no fields. -/
theorem fields_append_escape (ht : (Fields.ofText t.toList).malformed = none) :
    Fields.ofText (t ++ escape text).toList = Fields.ofText t.toList := by
  obtain ⟨items, hitems⟩ := exists_formats ht
  rw [String.toList_append, (hitems.append (formats_escape text)).fields, Fields.ofItems_append,
    Fields.ofItems_chars, Fields.append_empty, hitems.fields]

/-! ## Filling -/

variable (s : Store) (args : Arguments)

theorem fillBy_escape {σ : Type} (choose : List Char → StateT σ (Except Fault) Value)
    (depth : Nat) : fillBy s choose (depth + 1) (escape text).toList = pure text.toList := by
  rw [(formats_escape text).fillBy, gather_chars]

/-- An escaped text is filled to the text. -/
theorem render_escape : render s args (escape text) = .ok text := by
  rw [render, fill_eq, greatestDepth, fillBy_escape]
  exact congrArg Except.ok String.ofList_toList

/-- An escaped text in front is filled to the text in front. -/
theorem render_escape_append (ht : (Fields.ofText t.toList).malformed = none) :
    render s args (escape text ++ t) = (render s args t).map (text ++ ·) := by
  obtain ⟨items, hitems⟩ := exists_formats ht
  rw [render, render, fill_eq, fill_eq, String.toList_append, greatestDepth,
    fillBy_append s _ (formats_escape text) hitems, fillBy_escape, pure_bind, StateT.run_bind]
  cases (fillBy s (pickHead args) 2 t.toList).run .undecided with
  | error fault => rfl
  | ok filled =>
    refine congrArg Except.ok ((String.ofList_append ..).trans ?_)
    rw [String.ofList_toList]

/-- An escaped text behind is filled to the text behind. -/
theorem render_append_escape (ht : (Fields.ofText t.toList).malformed = none) :
    render s args (t ++ escape text) = (render s args t).map (· ++ text) := by
  obtain ⟨items, hitems⟩ := exists_formats ht
  rw [render, render, fill_eq, fill_eq, String.toList_append, greatestDepth,
    fillBy_append s _ hitems (formats_escape text), fillBy_escape, StateT.run_bind]
  cases (fillBy s (pickHead args) 2 t.toList).run .undecided with
  | error fault => rfl
  | ok filled =>
    refine congrArg Except.ok ((String.ofList_append ..).trans ?_)
    rw [String.ofList_toList]

end

end Format

open Eval
open Format (Fields escape)

/-! ## Templates -/

namespace Template

variable {s : Store} {format format' : String} {args : List Value} {named : Named}
  {params : List String} {t : Template}

/-- A text with the same fields is accepted with the same captures. -/
theorem parse_congr (h : parse s format args named params = .ok t)
    (hfields : Fields.ofText format'.toList = Fields.ofText format.toList) :
    parse s format' args named params = .ok { t with format := format' } := by
  obtain ⟨positional, hpositional, h⟩ := except_bind_eq_ok.mp h
  obtain ⟨captures, hcaptures, h⟩ := except_bind_eq_ok.mp h
  obtain ⟨u, husage, h⟩ := except_bind_eq_ok.mp h
  obtain ⟨_, hcheck, ⟨⟩⟩ := except_bind_eq_ok.mp h
  rw [parse, hpositional, hcaptures, hfields]
  dsimp only [bind, Except.bind] at husage hcheck ⊢
  rw [husage]
  dsimp only
  rw [hcheck]
  rfl

/-- A text that is filled to more is rendered to more, with the same captures in the same world. -/
theorem run_render_of_filled {engine : Engine} {scope : Scope} {handled : Option Ref}
    {w w' : World} {v : Value} {more : String → String}
    (hfilled : ∀ s args, Format.render s args format' = (Format.render s args t.format).map more)
    (h : (t.render engine scope).run handled w = (.ok v, w')) :
    ∃ rendered, v = .str .fresh rendered ∧
      ((⟨format', t.positional, t.named⟩ : Template).render engine scope).run handled w =
        (.ok (.str .fresh (more rendered)), w') := by
  obtain ⟨positional, w₁, hpositional, h⟩ := run_bind_eq_ok.mp h
  obtain ⟨values, w₂, hnamed, h⟩ := run_bind_eq_ok.mp h
  obtain ⟨_, _, ⟨⟩, h⟩ := run_bind_eq_ok.mp h
  obtain ⟨rendered, w₃, hlift, ⟨⟩⟩ := run_bind_eq_ok.mp h
  refine ⟨rendered, rfl, ?_⟩
  rw [render, run_bind_of_ok hpositional, run_bind_of_ok hnamed, run_bind_of_ok run_store, hfilled]
  cases hrender : Format.render w₂.store ⟨positional, namesFor scope t.named values⟩ t.format with
  | error fault =>
    rw [hrender] at hlift
    exact absurd hlift (run_fault_ne_ok fault)
  | ok filled =>
    rw [hrender] at hlift
    cases hlift
    rfl

end Template

/-- **Rendering undoes escaping.**  A text with doubled braces has no fields; as a template it is
accepted without captures, whatever the parameters are, and it is rendered to the text in every
scope, without a change of the world.  In front of any accepted template, or behind it, it makes a
template that is accepted with the same captures and parameters; in every scope in which the first
template is rendered, the text comes in front of what that one is rendered to, or behind it. -/
theorem ContextSource.escaped_text_rendered (s : Store) (i : Identity) (text : String) :
    Fields.ofText (escape text).toList = .empty ∧
    (∀ params, parse s (.str i (escape text)) [] [] params =
      .ok (.template ⟨escape text, [], []⟩)) ∧
    (∀ engine scope handled w,
      ((ContextSource.template ⟨escape text, [], []⟩).render engine scope).run handled w =
        (.ok (.str .fresh text), w)) ∧
    ∀ format args named params t,
      parse s (.str i format) args named params = .ok (.template t) →
      parse s (.str i (escape text ++ format)) args named params =
        .ok (.template ⟨escape text ++ format, t.positional, t.named⟩) ∧
      parse s (.str i (format ++ escape text)) args named params =
        .ok (.template ⟨format ++ escape text, t.positional, t.named⟩) ∧
      ∀ engine scope handled w v w',
        ((ContextSource.template t).render engine scope).run handled w = (.ok v, w') →
        ∃ rendered, v = .str .fresh rendered ∧
          ((ContextSource.template ⟨escape text ++ format, t.positional, t.named⟩).render
            engine scope).run handled w = (.ok (.str .fresh (text ++ rendered)), w') ∧
          ((ContextSource.template ⟨format ++ escape text, t.positional, t.named⟩).render
            engine scope).run handled w = (.ok (.str .fresh (rendered ++ text)), w') := by
  refine ⟨Format.fields_escape text, fun params => ?_, fun engine scope handled w => ?_, ?_⟩
  · have hsorted : Template.sortedNames [] = [] := by
      rw [Template.sortedNames, List.mergeSort_nil]
      rfl
    have hcheck : Template.checkUsage .empty [] [] params = .ok () := by
      rw [Template.checkUsage]
      simp [Template.leastBeyond, Template.unusedAt, Template.Usage.empty, hsorted]
      rfl
    rw [parse, Template.parse, Format.fields_escape]
    exact congrArg (fun checked => Except.map template (checked >>= fun _ => _)) hcheck
  · have hlift : (Eval.lift (Format.render w.store ⟨[], scope.arguments⟩ (escape text))).run
        handled w = (.ok text, w) := by
      rw [Format.render_escape]
      rfl
    exact run_bind_of_ok hlift
  · intro format args named params t hparse
    obtain ⟨_, hparse, ⟨⟩⟩ := except_map_eq_ok.mp hparse
    have ht := Template.accepted_of_parse hparse
    have hfront := Template.parse_congr hparse (Format.fields_escape_append text ht.wellFormed)
    have hback := Template.parse_congr hparse (Format.fields_append_escape text ht.wellFormed)
    refine ⟨by rw [parse, hfront]; rfl, by rw [parse, hback]; rfl, ?_⟩
    intro engine scope handled w v w' hrender
    obtain ⟨rendered, rfl, hbefore⟩ := Template.run_render_of_filled (fun s args => by
      rw [ht.text]
      exact Format.render_escape_append text s args ht.wellFormed) hrender
    obtain ⟨_, ⟨⟩, hbehind⟩ := Template.run_render_of_filled (fun s args => by
      rw [ht.text]
      exact Format.render_append_escape text s args ht.wellFormed) hrender
    exact ⟨rendered, rfl, hbefore, hbehind⟩

/-- A brace of the text meets the brace of a field: the field is filled, and the brace is shown. -/
theorem ContextSource.brace_beside_field :
    let scope : Scope := ⟨[], [], []⟩
    let engine : Engine := ⟨fun _ _ _ => Eval.exhausted, fun _ => Eval.exhausted⟩
    let captures := [⟨none, .str .fresh "a", none, false⟩]
    parse .empty (.str .fresh "\x7b\x7d") [.str .fresh "a"] [] [] =
      .ok (.template ⟨"\x7b\x7d", captures, []⟩) ∧
    escape "\x7b" ++ "\x7b\x7d" = "\x7b\x7b\x7b\x7d" ∧
    ((ContextSource.template ⟨"\x7b\x7b\x7b\x7d", captures, []⟩).render engine scope).run none
      World.initial = (.ok (.str .fresh "\x7ba"), World.initial) := by
  intro scope engine captures
  have hparse : parse .empty (.str .fresh "\x7b\x7d") [.str .fresh "a"] [] [] =
      .ok (.template ⟨"\x7b\x7d", captures, []⟩) := by
    with_unfolding_all rfl
  have hfilled : Format.render World.initial.store ⟨[.str .fresh "a"], []⟩ "\x7b\x7d" =
      .ok "a" := by
    with_unfolding_all rfl
  have hpositional : (Template.evaluateAll engine scope captures).run none World.initial =
    (.ok [.str .fresh "a"], World.initial) := rfl
  have hnamed : (Template.evaluateAll engine scope []).run none World.initial =
    (.ok [], World.initial) := rfl
  have hlift : (Eval.lift (Format.render World.initial.store
      ⟨[.str .fresh "a"], Template.namesFor scope [] []⟩ "\x7b\x7d")).run none World.initial =
        (.ok "a", World.initial) := congrArg (fun r => (Eval.lift r).run none World.initial) hfilled
  have hrender : ((ContextSource.template ⟨"\x7b\x7d", captures, []⟩).render engine scope).run
      none World.initial = (.ok (.str .fresh "a"), World.initial) := by
    rw [ContextSource.render, Template.render, run_bind_of_ok hpositional, run_bind_of_ok hnamed,
      run_bind_of_ok run_store, run_bind_of_ok hlift]
    rfl
  have hescape : escape "\x7b" ++ "\x7b\x7d" = "\x7b\x7b\x7b\x7d" := by decide
  obtain ⟨-, -, -, hbeside⟩ := escaped_text_rendered .empty .fresh "\x7b"
  obtain ⟨-, -, hrenders⟩ := hbeside _ _ _ _ _ hparse
  obtain ⟨rendered, ⟨⟩, hbefore, -⟩ := hrenders engine scope none World.initial _ _ hrender
  rw [hescape] at hbefore
  exact ⟨hparse, hescape, hbefore⟩

end FaultContext
