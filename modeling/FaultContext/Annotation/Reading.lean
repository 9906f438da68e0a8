/-
# FaultContext.Annotation.Reading -- reading tokens by rules.

A rule is tried at a place of the tokens; it fails there or gives a phrase and the place behind it.
Alternatives are tried in order, and the first one that fits is taken.  Some rules remember what
they gave at a place, and a rule that starts with itself grows what it remembers as long as it can.

A text that no rule fits is read a second time with rules for what is commonly written wrong: they
never give a phrase, but may tell what the problem is.
-/
import FaultContext.Annotation.Literal

namespace FaultContext.Annotation

/-- The rules that refer to one another. -/
inductive Rule where
  | expressions | expression | expressionUndiagnosed | disjunction | conjunction | inversion
  | comparison | bitOr | bitXor | bitAnd | shift | sum | term | factor | power | awaitPrimary
  | primary | atom | starExpressions | starExpression | namedExpression | starNamedExpression
  | assignment | starredExpression | yieldExpression | slices | slice | group | tuple | list | set
  | dict | listComprehension | setComprehension | dictComprehension | generator | function
  | quotedTexts | arguments | starTargets | starTarget | targetWithStarAtom | starAtom
  | targetPrimary
  deriving DecidableEq, Repr

/-- Rules that remember what they gave at a place. -/
def Rule.remembers : Rule → Bool
  | .expression | .starExpression | .disjunction | .conjunction | .inversion | .factor
  | .awaitPrimary | .quotedTexts | .arguments | .starTarget | .targetWithStarAtom => true
  | _ => false

/-- Rules that start with themselves. -/
def Rule.grows : Rule → Bool
  | .bitOr | .bitXor | .bitAnd | .shift | .sum | .term | .primary | .targetPrimary => true
  | _ => false

/-- What a rule gave at a place. -/
abbrev Remembered := Option (Phrase × Nat)

/-- How far tokens have been read. -/
structure Progress where
  place : Nat
  /-- How many tokens have been looked at. -/
  seen : Nat
  diagnosing : Bool
  /-- What rules gave, place by place. -/
  memory : Array (List (Rule × Remembered))

/-- Why reading stops: a problem, which may be one of the words themselves, and how many tokens had
been looked at. -/
structure Stop where
  problem : Problem
  inWords : Bool
  seen : Nat

/-- A reading of tokens: it fails, gives something, or stops. -/
abbrev Read (α : Type) := Words → Progress → Except Stop (Option α × Progress)

namespace Read

variable {α β : Type}

/-- Gives a value. -/
def give (a : α) : Read α := fun _ p => .ok (some a, p)

/-- Goes on with what was given. -/
def next (m : Read α) (f : α → Read β) : Read β := fun w p =>
  match m w p with
  | .error stop => .error stop
  | .ok (none, p) => .ok (none, p)
  | .ok (some a, p) => f a w p

instance : Monad Read where
  pure := give
  bind := next

/-- Fails. -/
def fail : Read α := fun _ p => .ok (none, p)

/-- Stops with a problem. -/
def stop (message : String) (line : Nat) : Read α := fun _ p =>
  .error ⟨.plain message line, false, p.seen⟩

/-- Stops with what is wrong with a quoted text. -/
def orStop (r : Except Problem α) : Read α := fun _ p =>
  match r with
  | .ok a => .ok (some a, p)
  | .error problem => .error ⟨problem, false, p.seen⟩

/-- How far tokens have been read. -/
def progress : Read Progress := fun _ p => .ok (some p, p)

/-- Tries something; where it fails nothing is read. -/
def attempt (m : Read α) : Read (Option α) := fun w p =>
  match m w p with
  | .error stop => .error stop
  | .ok (some a, q) => .ok (some (some a), q)
  | .ok (none, q) => .ok (some none, { q with place := p.place })

/-- The first of several alternatives that fits. -/
def oneOf : List (Read α) → Read α
  | [] => fail
  | m :: rest => do
    match ← attempt m with
    | some a => give a
    | none => oneOf rest

/-- Looks ahead: nothing is read. -/
def ahead (m : Read α) : Read Unit := fun w p =>
  match m w p with
  | .error stop => .error stop
  | .ok (some _, q) => .ok (some (), { q with place := p.place })
  | .ok (none, q) => .ok (none, q)

/-- Looks ahead for something that must not follow. -/
def notAhead (m : Read α) : Read Unit := fun w p =>
  match m w p with
  | .error stop => .error stop
  | .ok (some _, q) => .ok (none, q)
  | .ok (none, q) => .ok (some (), { q with place := p.place })

/-- The token at this place, which is looked at. -/
def token : Read Token := fun w p =>
  match w.tokens[p.place]?, w.ending with
  | some t, _ => .ok (some t, { p with seen := max p.seen (p.place + 1) })
  | none, .broken problem _ => .error ⟨problem, true, p.seen⟩
  | none, .complete => .ok (none, p)

/-- The line of the token at this place. -/
def line : Read Nat := do return (← token).line

/-- Reads the token at this place if it passes a test. -/
def tokenIf (test : Token → Bool) : Read Token := do
  let t ← token
  if test t then fun _ p => .ok (some t, { p with place := p.place + 1 }) else fail

/-- Reads a symbol. -/
def symbol (text : String) : Read Token := tokenIf fun t => t.kind == .symbol && t.text == text

/-- Reads a keyword. -/
def keyword (text : String) : Read Token := tokenIf fun t => t.kind == .keyword && t.text == text

/-- Reads a name. -/
def name : Read Token := tokenIf (·.kind == .name)

/-- Reads something as often as it fits, at most a number of times. -/
def manyWithin (m : Read α) : Nat → Read (List α)
  | 0 => give []
  | steps + 1 => do
    match ← attempt m with
    | some a => return a :: (← manyWithin m steps)
    | none => give []

/-- Reads something as often as it fits. -/
def many (m : Read α) : Read (List α) := fun w p => manyWithin m (w.tokens.size + 1) w p

/-- Reads something as often as it fits, at least once. -/
def some1 (m : Read α) : Read (List α) := do
  let a ← m
  return a :: (← many m)

/-- Reads things with commas between them, at least one. -/
def gather (m : Read α) : Read (List α) := do
  let a ← m
  return a :: (← many do
    discard (symbol ",")
    m)

/-- What is read only to tell of problems. -/
def diagnose (m : Read Unit) : Read α := do
  if (← progress).diagnosing then
    discard (attempt m)
    fail
  else fail

/-- Reads without telling of problems. -/
def undiagnosed (m : Read α) : Read α := fun w p =>
  match m w { p with diagnosing := false } with
  | .error stop => .error stop
  | .ok (a, q) => .ok (a, { q with diagnosing := p.diagnosing })

/-- The token before this place. -/
def lastToken : Read Token := fun w p =>
  match w.tokens[p.place - 1]? with
  | some t => .ok (some t, p)
  | none => .ok (none, p)

/-- The line of the last token that was looked at. -/
def lastLine : Read Nat := fun w p =>
  .ok (some ((w.tokens[p.seen - 1]?.map Token.line).getD 1), p)

/-! ## Remembering -/

/-- What a rule gave at a place, if it was tried there. -/
def recalled (r : Rule) : Read (Option Remembered) := fun _ p =>
  .ok (some ((p.memory[p.place]?.getD []).lookup r), p)

/-- Remembers what a rule gave at a place. -/
def remember (r : Rule) (place : Nat) (given : Remembered) : Read Unit := fun _ p =>
  .ok (some (), { p with memory := p.memory.modify place ((r, given) :: ·) })

/-- Goes to a place. -/
def goTo (place : Nat) : Read Unit := fun _ p => .ok (some (), { p with place })

/-- Gives what was remembered. -/
def giveRemembered : Remembered → Read Phrase
  | some (phrase, behind) => do
    goTo behind
    give phrase
  | none => fail

/-- Tries a rule unless it was tried here before. -/
def remembering (r : Rule) (m : Read Phrase) : Read Phrase := do
  match ← recalled r with
  | some given => giveRemembered given
  | none =>
    let start := (← progress).place
    let given ← attempt m
    let behind := (← progress).place
    let given := given.map (·, behind)
    remember r start given
    giveRemembered given

/-- Tries a rule again and again as long as it reads more than the time before. -/
def growFrom (r : Rule) (m : Read Phrase) (start : Nat) (best : Remembered) : Nat → Read Phrase
  | 0 => giveRemembered best
  | steps + 1 => do
    remember r start best
    goTo start
    match ← attempt m with
    | none => giveRemembered best
    | some phrase =>
      let behind := (← progress).place
      if behind ≤ (best.map Prod.snd).getD start then giveRemembered best
      else growFrom r m start (some (phrase, behind)) steps

/-- Tries a rule that starts with itself unless it was tried here before. -/
def growing (r : Rule) (m : Read Phrase) : Read Phrase := do
  match ← recalled r with
  | some given => giveRemembered given
  | none => fun w p => growFrom r m p.place none (w.tokens.size + 1) w p

end Read
end FaultContext.Annotation
