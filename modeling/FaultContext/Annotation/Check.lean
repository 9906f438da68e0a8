/-
# FaultContext.Annotation.Check -- what an expression may not do where it stands.

A phrase that fits the rules can still be refused: a function may not have two parameters of one
name, a comprehension keeps its variables to itself, and values can be handed out or awaited inside
functions only.  Names are checked in a first walk over the whole phrase, and everything else in a
second one.
-/
import FaultContext.Annotation.Grammar

namespace FaultContext.Annotation.Check

/-- The verdict on a phrase. -/
abbrev Verdict := Except Problem Unit

/-- Refuses a phrase. -/
def refuse (message : String) (line : Nat) : Verdict := .error (.plain message line)

/-! ## Names -/

/-- What surrounds a phrase, seen from its names. -/
structure Surroundings where
  /-- What the comprehension that the phrase belongs to builds; nothing outside comprehensions. -/
  inside : Option String
  /-- The variables of the comprehensions around the phrase. -/
  taken : List String
  /-- Whether the phrase stands where a comprehension takes its items from. -/
  isSource : Bool

/-- Nothing surrounds a phrase. -/
def Surroundings.none : Surroundings := ⟨Option.none, [], false⟩

/-- The first name in a list that stands before it already, given the names before the list. -/
def repeatedAfter? (before : List String) : List String → Option String
  | [] => Option.none
  | id :: rest => if before.contains id then some id else repeatedAfter? (id :: before) rest

/-- The first name in a list that stands behind itself again. -/
def repeatedLater? : List String → Option String
  | [] => Option.none
  | id :: rest => if rest.contains id then some id else repeatedLater? rest

/-- The names of parameters in the order in which they are entered: collectors come last. -/
def parameterNames (params : List Parameter) : List String :=
  let ofKind (test : ParamKind → Bool) : List String := params.filterMap fun
    | .mk id kind _ => if test kind then some id else Option.none
  ofKind (· == .positionalOnly) ++ ofKind (· == .standard) ++ ofKind (· == .keywordOnly) ++
    ofKind (· == .varPositional) ++ ofKind (· == .varKeyword)

mutual

/-- The names that a target binds. -/
def targetNames : Phrase → List String
  | .mk _ shape => targetNamesOf shape

/-- The names that a shape binds as a target. -/
def targetNamesOf : Shape → List String
  | .name id => [id]
  | .starred a => targetNames a
  | .tuple items | .list items => targetNamesAll items
  | _ => []

/-- The names that several targets bind. -/
def targetNamesAll : List Phrase → List String
  | [] => []
  | p :: rest => targetNames p ++ targetNamesAll rest

end

/-- What a comprehension builds, as problems call it. -/
def collectionName : Collection → String
  | .list => "list comprehension"
  | .set => "set comprehension"
  | .generator => "generator expression"

/-- Refuses values that are handed out inside a comprehension. -/
def checkYield (around : Surroundings) (line : Nat) : Verdict :=
  match around.inside with
  | some what => refuse ("'yield' inside " ++ what) line
  | Option.none => .ok ()

/-- Refuses an assignment where a comprehension is in the way. -/
def checkAssign (around : Surroundings) (id : String) (line : Nat) : Verdict :=
  if around.isSource then
    refuse "assignment expression cannot be used in a comprehension iterable expression" line
  else if around.inside.isSome && around.taken.contains id then
    refuse ("assignment expression cannot rebind comprehension iteration variable '" ++ id ++ "'")
      line
  else .ok ()

mutual

/-- Checks the names of a phrase. -/
def names (around : Surroundings) : Phrase → Verdict
  | .mk line shape => namesOf around line shape

/-- Checks the names of a shape. -/
def namesOf (around : Surroundings) (line : Nat) : Shape → Verdict
  | .name _ | .constant _ => .ok ()
  | .joined pieces => namesPieces around pieces
  | .logical _ items | .tuple items | .list items | .set items => namesAll around items
  | .unary _ a | .attribute a _ | .starred a | .awaits a => names around a
  | .binary _ a b | .subscript a b => do
    names around a
    names around b
  | .compare a rest => do
    names around a
    namesPairs around rest
  | .conditional test a b => do
    names around test
    names around a
    names around b
  | .function params body => do
    namesDefaults around params
    match repeatedAfter? [] (parameterNames params) with
    | some id => refuse ("duplicate argument '" ++ id ++ "' in function definition") line
    | Option.none => .ok ()
    names ⟨Option.none, [], around.isSource⟩ body
  | .call f args => do
    names around f
    namesArguments around args
  | .slice a b c => do
    namesOption around a
    namesOption around b
    namesOption around c
  | .dict entries => do
    namesKeys around entries
    namesValues around entries
  | .comprehension kind element clauses => do
    let inner ← namesFirst around (collectionName kind) clauses
    names inner element
  | .dictComprehension key value clauses => do
    let inner ← namesFirst around "dict comprehension" clauses
    names inner value
    names inner key
  | .assign id value => do
    checkAssign around id line
    names around value
  | .yields a => do
    namesOption around a
    checkYield around line
  | .yieldsFrom a => do
    names around a
    checkYield around line

/-- Checks the names of several phrases. -/
def namesAll (around : Surroundings) : List Phrase → Verdict
  | [] => .ok ()
  | p :: rest => do
    names around p
    namesAll around rest

/-- Checks the names of a phrase that may be left out. -/
def namesOption (around : Surroundings) : Option Phrase → Verdict
  | Option.none => .ok ()
  | some p => names around p

/-- Checks the names of the right sides of comparisons. -/
def namesPairs (around : Surroundings) : List (Comparison × Phrase) → Verdict
  | [] => .ok ()
  | (_, p) :: rest => do
    names around p
    namesPairs around rest

/-- Checks the names of the pieces of a text. -/
def namesPieces (around : Surroundings) : List Piece → Verdict
  | [] => .ok ()
  | .text _ :: rest => namesPieces around rest
  | .value a _ Option.none :: rest => do
    names around a
    namesPieces around rest
  | .value a _ (some spec) :: rest => do
    names around a
    namesPieces around spec
    namesPieces around rest

/-- Checks the names of defaults. -/
def namesDefaults (around : Surroundings) : List Parameter → Verdict
  | [] => .ok ()
  | .mk _ _ default :: rest => do
    namesOption around default
    namesDefaults around rest

/-- Checks the names of arguments. -/
def namesArguments (around : Surroundings) : List Argument → Verdict
  | [] => .ok ()
  | .positional a :: rest | .spread a :: rest | .named _ a :: rest | .spreadNamed a :: rest => do
    names around a
    namesArguments around rest

/-- Checks the names of keys. -/
def namesKeys (around : Surroundings) : List (Option Phrase × Phrase) → Verdict
  | [] => .ok ()
  | (key, _) :: rest => do
    namesOption around key
    namesKeys around rest

/-- Checks the names of values. -/
def namesValues (around : Surroundings) : List (Option Phrase × Phrase) → Verdict
  | [] => .ok ()
  | (_, value) :: rest => do
    names around value
    namesValues around rest

/-- Checks the names of the loops of a comprehension, and tells what surrounds its element.  The
first loop takes its items from outside. -/
def namesFirst (around : Surroundings) (what : String) : List Clause → Except Problem Surroundings
  | [] => .ok around
  | .mk target source conditions _ :: rest => do
    names { around with isSource := true } source
    let inner : Surroundings :=
      ⟨some what, targetNames target ++
        (if around.inside.isSome then around.taken else []), around.isSource⟩
    names inner target
    namesAll inner conditions
    namesLoops inner rest

/-- Checks the names of further loops. -/
def namesLoops (around : Surroundings) : List Clause → Except Problem Surroundings
  | [] => .ok around
  | .mk target source conditions _ :: rest => do
    let inner := { around with taken := targetNames target ++ around.taken }
    names inner target
    names { inner with isSource := true } source
    namesAll inner conditions
    namesLoops inner rest

end

/-! ## Waiting and handing out -/

mutual

/-- Whether a phrase waits for something, functions inside it apart. -/
def waits : Phrase → Bool
  | .mk _ shape => waitsOf shape

/-- Whether a shape waits for something. -/
def waitsOf : Shape → Bool
  | .name _ | .constant _ => false
  | .awaits _ => true
  | .joined pieces => waitsPieces pieces
  | .logical _ items | .tuple items | .list items | .set items => waitsAll items
  | .unary _ a | .attribute a _ | .starred a | .assign _ a | .yieldsFrom a => waits a
  | .binary _ a b | .subscript a b => waits a || waits b
  | .compare a rest => waits a || waitsPairs rest
  | .conditional test a b => waits test || waits a || waits b
  | .function params _ => waitsDefaults params
  | .call f args => waits f || waitsArguments args
  | .slice a b c => waitsOption a || waitsOption b || waitsOption c
  | .dict entries => waitsEntries entries
  | .comprehension .generator _ clauses => waitsSource clauses
  | .comprehension _ element clauses =>
    waits element || waitsSource clauses || waitsClauses clauses
  | .dictComprehension key value clauses =>
    waits key || waits value || waitsSource clauses || waitsClauses clauses
  | .yields a => waitsOption a

/-- Whether one of several phrases waits. -/
def waitsAll : List Phrase → Bool
  | [] => false
  | p :: rest => waits p || waitsAll rest

/-- Whether a phrase that may be left out waits. -/
def waitsOption : Option Phrase → Bool
  | Option.none => false
  | some p => waits p

/-- Whether one of the right sides of comparisons waits. -/
def waitsPairs : List (Comparison × Phrase) → Bool
  | [] => false
  | (_, p) :: rest => waits p || waitsPairs rest

/-- Whether a piece of a text waits. -/
def waitsPieces : List Piece → Bool
  | [] => false
  | .text _ :: rest => waitsPieces rest
  | .value a _ Option.none :: rest => waits a || waitsPieces rest
  | .value a _ (some spec) :: rest => waits a || waitsPieces spec || waitsPieces rest

/-- Whether a default waits. -/
def waitsDefaults : List Parameter → Bool
  | [] => false
  | .mk _ _ default :: rest => waitsOption default || waitsDefaults rest

/-- Whether an argument waits. -/
def waitsArguments : List Argument → Bool
  | [] => false
  | .positional a :: rest | .spread a :: rest | .named _ a :: rest | .spreadNamed a :: rest =>
    waits a || waitsArguments rest

/-- Whether an entry of a table waits. -/
def waitsEntries : List (Option Phrase × Phrase) → Bool
  | [] => false
  | (key, value) :: rest => waitsOption key || waits value || waitsEntries rest

/-- Whether the source of the first loop waits: it belongs to what surrounds the comprehension. -/
def waitsSource : List Clause → Bool
  | [] => false
  | .mk _ source _ _ :: _ => waits source

/-- Whether the loops of a comprehension wait, the source of the first one apart. -/
def waitsClauses : List Clause → Bool
  | [] => false
  | .mk target _ conditions asynchronous :: rest =>
    asynchronous || waits target || waitsAll conditions || waitsLoops rest

/-- Whether further loops wait. -/
def waitsLoops : List Clause → Bool
  | [] => false
  | .mk target source conditions asynchronous :: rest =>
    asynchronous || waits target || waits source || waitsAll conditions || waitsLoops rest

end

/-- What a phrase is evaluated in. -/
inductive Place where
  | text
  | function
  | comprehension
  deriving DecidableEq, Repr

/-- Whether a target is one that is spread. -/
def isStarred (p : Phrase) : Bool :=
  match p.shape with
  | .starred _ => true
  | _ => false

mutual

/-- Checks a target of a loop: at most one of several can be spread. -/
def target : Phrase → Verdict
  | .mk line shape => targetOf line shape

/-- Checks a shape as a target. -/
def targetOf (line : Nat) : Shape → Verdict
  | .starred _ => refuse "starred assignment target must be in a list or tuple" line
  | .tuple items | .list items => do
    if 1 < (items.filter isStarred).length then
      refuse "multiple starred expressions in assignment" line
    targets items
  | _ => .ok ()

/-- Checks several targets. -/
def targets : List Phrase → Verdict
  | [] => .ok ()
  | .mk _ (.starred a) :: rest => do
    target a
    targets rest
  | p :: rest => do
    target p
    targets rest

end

/-- Refuses a name that cannot be given a value. -/
def assignable (line : Nat) (ids : List String) : Verdict :=
  if ids.contains "__debug__" then refuse "cannot assign to __debug__" line else .ok ()

/-- The keywords of arguments. -/
def keywordsOf (args : List Argument) : List String :=
  args.filterMap fun
    | .named id _ => some id
    | _ => Option.none

/-- The first keyword that is given twice. -/
def repeatedKeyword? (args : List Argument) : Option String := repeatedLater? (keywordsOf args)

mutual

/-- Checks what a phrase does at a place. -/
def code (place : Place) : Phrase → Verdict
  | .mk line shape => codeOf place line shape

/-- Checks what a shape does at a place. -/
def codeOf (place : Place) (line : Nat) : Shape → Verdict
  | .name _ | .constant _ => .ok ()
  | .joined pieces => codePieces place pieces
  | .logical _ items | .tuple items | .list items | .set items => codeAll place items
  | .unary _ a | .attribute a _ | .starred a => code place a
  | .assign id a => do
    code place a
    assignable line [id]
  | .binary _ a b | .subscript a b => do
    code place a
    code place b
  | .compare a rest => do
    code place a
    codePairs place rest
  | .conditional test a b => do
    code place test
    code place a
    code place b
  | .function params body => do
    assignable line (parameterNames params)
    codeDefaults place params
    code .function body
  | .call f args => do
    code place f
    assignable line (keywordsOf args)
    match repeatedKeyword? args with
    | some id => refuse ("keyword argument repeated: " ++ id) line
    | Option.none => .ok ()
    codeArguments place args
  | .slice a b c => do
    codeOption place a
    codeOption place b
    codeOption place c
  | .dict entries => codeEntries place entries
  | .comprehension kind element clauses => do
    codeWaiting place line (kind != .generator && (waits element || waitsClauses clauses))
    codeFirst clauses
    code .comprehension element
    codeSource place clauses
  | .dictComprehension key value clauses => do
    codeWaiting place line (waits key || waits value || waitsClauses clauses)
    codeFirst clauses
    code .comprehension key
    code .comprehension value
    codeSource place clauses
  | .yields a => do
    if place = .text then refuse "'yield' outside function" line
    codeOption place a
  | .yieldsFrom a => do
    if place = .text then refuse "'yield' outside function" line
    code place a
  | .awaits a => do
    match place with
    | .text => refuse "'await' outside function" line
    | .function => refuse "'await' outside async function" line
    | .comprehension => .ok ()
    code place a

/-- Refuses a comprehension that waits where nothing can wait. -/
def codeWaiting (place : Place) (line : Nat) (waiting : Bool) : Verdict :=
  if waiting && place != .comprehension then
    refuse "asynchronous comprehension outside of an asynchronous function" line
  else .ok ()

/-- Checks several phrases. -/
def codeAll (place : Place) : List Phrase → Verdict
  | [] => .ok ()
  | p :: rest => do
    code place p
    codeAll place rest

/-- Checks a phrase that may be left out. -/
def codeOption (place : Place) : Option Phrase → Verdict
  | Option.none => .ok ()
  | some p => code place p

/-- Checks the right sides of comparisons. -/
def codePairs (place : Place) : List (Comparison × Phrase) → Verdict
  | [] => .ok ()
  | (_, p) :: rest => do
    code place p
    codePairs place rest

/-- Checks the pieces of a text. -/
def codePieces (place : Place) : List Piece → Verdict
  | [] => .ok ()
  | .text _ :: rest => codePieces place rest
  | .value a _ Option.none :: rest => do
    code place a
    codePieces place rest
  | .value a _ (some spec) :: rest => do
    code place a
    codePieces place spec
    codePieces place rest

/-- Checks defaults. -/
def codeDefaults (place : Place) : List Parameter → Verdict
  | [] => .ok ()
  | .mk _ _ default :: rest => do
    codeOption place default
    codeDefaults place rest

/-- Checks arguments. -/
def codeArguments (place : Place) : List Argument → Verdict
  | [] => .ok ()
  | .positional a :: rest | .spread a :: rest | .named _ a :: rest | .spreadNamed a :: rest => do
    code place a
    codeArguments place rest

/-- Checks the entries of a table. -/
def codeEntries (place : Place) : List (Option Phrase × Phrase) → Verdict
  | [] => .ok ()
  | (key, value) :: rest => do
    codeOption place key
    code place value
    codeEntries place rest

/-- Checks the first loop of a comprehension, its source apart, and the others. -/
def codeFirst : List Clause → Verdict
  | [] => .ok ()
  | .mk t _ conditions _ :: rest => do
    target t
    assignable t.line (targetNames t)
    code .comprehension t
    codeAll .comprehension conditions
    codeLoops rest

/-- Checks further loops. -/
def codeLoops : List Clause → Verdict
  | [] => .ok ()
  | .mk t source conditions _ :: rest => do
    code .comprehension source
    target t
    assignable t.line (targetNames t)
    code .comprehension t
    codeAll .comprehension conditions
    codeLoops rest

/-- Checks where the first loop takes its items from. -/
def codeSource (place : Place) : List Clause → Verdict
  | [] => .ok ()
  | .mk _ source _ _ :: _ => code place source

end

/-- Checks a phrase that is a whole text. -/
def whole (p : Phrase) : Verdict := do
  names .none p
  code .text p

end FaultContext.Annotation.Check

namespace FaultContext.Annotation

/-- The expression that a text is, or what is wrong with it. -/
def Phrase.ofText (text : String) : Except Problem Phrase := do
  let p ← Grammar.readText text.toList
  Check.whole p
  return p

end FaultContext.Annotation
