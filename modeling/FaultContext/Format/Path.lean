/-
# FaultContext.Format.Path -- the name of a replacement field.

A name is a head, which picks the value, followed by steps into it: `.name` reads an attribute and
`[key]` an item.  The steps are read one by one while they are taken, so a fault in a later step is
met only after the earlier steps have been taken; `Path.steps` therefore returns the steps before
the fault together with it.

A number may be written with the decimal digits of any script and has to fit in a signed word of 64
bits.  Anything that holds another character is a name.
-/
import FaultContext.Text.Numeral

namespace FaultContext.Format

/-- Why the name of a field cannot be followed. -/
inductive PathFault where
  | emptyStep
  | textAfterItem
  | missingBracket
  | tooManyDigits
  deriving DecidableEq, Repr

/-- The wording of a fault. -/
def PathFault.message : PathFault → String
  | .emptyStep => "Empty attribute in format string"
  | .textAfterItem => "Only '.' or '[' may follow ']' in format field specifier"
  | .missingBracket => "Missing ']' in format string"
  | .tooManyDigits => "Too many decimal digits in format string"

/-- The greatest number that fits in a signed word of 64 bits. -/
def greatestWord : Nat := Nat.pow 2 63 - 1

/-- A number in a name; `none` when some character is not a decimal digit.  The size is checked from
left to right, so a number that is too great is noticed before a later character is. -/
def readNumber (acc : Nat) : List Char → Except PathFault (Option Nat)
  | [] => .ok (some acc)
  | c :: rest =>
    match Text.decimalValue? c with
    | none => .ok none
    | some d =>
      if greatestWord < 10 * acc + d then .error .tooManyDigits else readNumber (10 * acc + d) rest

/-- What the head of a name picks. -/
inductive Head where
  | automatic
  | index (n : Nat)
  | name (text : List Char)
  deriving DecidableEq, Repr

/-- One step into a value. -/
inductive Step where
  | attribute (name : List Char)
  | item (index : Nat)
  | key (name : List Char)
  deriving DecidableEq, Repr

/-- Whether a character begins a step. -/
def beginsStep (c : Char) : Bool := c == '.' || c == '['

/-- The head of a name and the text of its steps. -/
def splitHead (name : List Char) : List Char × List Char :=
  (name.takeWhile (!beginsStep ·), name.dropWhile (!beginsStep ·))

/-- What a head picks. -/
def Head.ofText (head : List Char) : Except PathFault Head :=
  if head.isEmpty then .ok .automatic
  else
    (readNumber 0 head).map fun
      | some n => .index n
      | none => .name head

/-- The steps before the first fault, and the fault. -/
structure Steps where
  steps : List Step
  fault : Option PathFault
  deriving DecidableEq, Repr

/-- One more step in front. -/
def Steps.cons (step : Step) (rest : Steps) : Steps := { rest with steps := step :: rest.steps }

/-- The text of a step in brackets. -/
def Step.ofItem (text : List Char) : Except PathFault Step :=
  if text.isEmpty then .error .emptyStep
  else
    (readNumber 0 text).map fun
      | some n => .item n
      | none => .key text

/-- Reads the steps of a name. -/
def Steps.ofText (cs : List Char) : Steps :=
  match cs with
  | [] => ⟨[], none⟩
  | '.' :: rest =>
    let name := rest.takeWhile (!beginsStep ·)
    if name.isEmpty then ⟨[], some .emptyStep⟩
    else
      have : (rest.dropWhile (!beginsStep ·)).length < rest.length + 1 :=
        Nat.lt_succ_of_le (List.dropWhile_suffix _).length_le
      (Steps.ofText (rest.dropWhile (!beginsStep ·))).cons (.attribute name)
  | '[' :: rest =>
    match h : rest.dropWhile (· != ']') with
    | [] => ⟨[], some .missingBracket⟩
    | _ :: tail =>
      match Step.ofItem (rest.takeWhile (· != ']')) with
      | .error fault => ⟨[], some fault⟩
      | .ok step =>
        have : tail.length < rest.length + 1 := by
          have := (List.dropWhile_suffix (l := rest) (· != ']')).length_le
          simp only [h, List.length_cons] at this
          omega
        (Steps.ofText tail).cons step
  | _ => ⟨[], some .textAfterItem⟩
termination_by cs.length

end FaultContext.Format
