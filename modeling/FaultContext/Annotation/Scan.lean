/-
# FaultContext.Annotation.Scan -- cutting an annotation into tokens.

Every line starts with its indentation, which is compared with that of the lines before it; lines
that hold nothing but blanks and a remark are passed over.  A backslash at the end of a line joins
the next one to it.  Brackets have to match, and are counted.
-/
import FaultContext.Annotation.Token

namespace FaultContext.Annotation

/-- What is left to be cut, and what has to be known about the part that was. -/
structure Scan where
  rest : List Char
  line : Nat
  /-- The last line of the text. -/
  lastLine : Nat
  atLineStart : Bool
  /-- Open brackets with their lines, the innermost first. -/
  brackets : List (Char × Nat)
  /-- Indentations by two measures, the innermost first. -/
  indents : List (Nat × Nat)

/-- How deep brackets can be nested. -/
def deepestNesting : Nat := 200

/-- How deep lines can be indented. -/
def deepestIndent : Nat := 100

/-- What comes next in a text: a token, nothing but a part that is passed over, or a break. -/
inductive Cut where
  | token (t : Token) (next : Scan)
  | skipped (next : Scan)
  | ended (ending : Ending)

namespace Scan

/-- The line that a token or a problem is put down to. -/
def here (s : Scan) : Nat := min s.line s.lastLine

/-- Passes over characters. -/
def skip (s : Scan) (taken rest : List Char) : Scan :=
  { s with rest, line := s.line + taken.count '\n' }

/-- A token at this place. -/
def tokenHere (s : Scan) (kind : TokenKind) (text : List Char) : Token :=
  ⟨kind, String.ofList text, s.here, s.brackets.length⟩

/-- A break that is told in the place of any other problem. -/
def urgent (line : Nat) (message : String) : Cut :=
  .ended (.broken (.plain message line) true)

/-- A break that is told by a reader that comes to it. -/
def quiet (cls : Standard) (line : Nat) (message : String) : Cut :=
  .ended (.broken ⟨cls, message, line⟩ false)

/-- The problem of a bracket that is never closed. -/
def neverClosed (bracket : Char × Nat) : Problem :=
  .plain ("'" ++ bracket.1.toString ++ "' was never closed") bracket.2

/-- The break of a text that ends too early. -/
def endsEarly (s : Scan) : Cut :=
  match s.brackets with
  | bracket :: _ => .ended (.broken (neverClosed bracket) false)
  | [] => quiet .syntaxError s.here "unexpected EOF while parsing"

/-- Goes on behind a backslash, which the end of a line has to follow, and a line after it. -/
def continueLine (s : Scan) (rest : List Char) : Except Cut Scan :=
  match rest with
  | ['\n'] => .error s.endsEarly
  | '\n' :: rest => .ok (s.skip ['\n'] rest)
  | _ =>
    .error (quiet .syntaxError s.here "unexpected character after line continuation character")

/-- The indentation of a line: its width by two measures of tabulators, and what follows it.  Where
lines are joined the first one decides. -/
def indentation (s : Scan) (wide narrow : Nat) (joined : Option Nat) :
    Nat → Except Cut (Nat × Nat × Scan)
  | 0 => .ok (wide, narrow, s)
  | steps + 1 =>
    match s.rest with
    | ' ' :: rest => { s with rest }.indentation (wide + 1) (narrow + 1) joined steps
    | '\t' :: rest => { s with rest }.indentation ((wide / 8 + 1) * 8) (narrow + 1) joined steps
    | '\x0c' :: rest => { s with rest }.indentation 0 0 joined steps
    | '\\' :: rest => do
      let joined := match joined with
        | some n => some n
        | none => if wide = 0 then none else some wide
      (← s.continueLine rest).indentation wide narrow joined steps
    | _ => .ok (joined.getD wide, joined.getD narrow, s)

/-- The break of a line whose indentation can be read in two ways. -/
def mixedTabs (s : Scan) : Cut :=
  quiet .tabError s.here "inconsistent use of tabs and spaces in indentation"

/-- Closes indentations down to a width. -/
def dedent (s : Scan) (wide narrow : Nat) (tokens : Nat) :
    List (Nat × Nat) → Except Cut (Nat × Scan)
  | (w, n) :: outer =>
    if wide < w then s.dedent wide narrow (tokens + 1) outer
    else if wide ≠ w then
      .error (quiet .indentationError s.here "unindent does not match any outer indentation level")
    else if narrow ≠ n then .error s.mixedTabs
    else .ok (tokens, { s with indents := (w, n) :: outer })
  | [] => .ok (tokens, { s with indents := [] })

/-- The start of a line: the change of indentation that it brings, as tokens. -/
def startLine (s : Scan) : Except Cut (List Token × Scan) := do
  let (wide, narrow, s) ← s.indentation 0 0 none (s.rest.length + 1)
  let s := { s with atLineStart := false }
  let isBlank := match s.rest with
    | '#' :: _ | '\n' :: _ => true
    | _ => false
  if isBlank || !s.brackets.isEmpty then
    let passed := s.rest.takeWhile (· != '\n')
    if isBlank then
      match s.rest.dropWhile (· != '\n') with
      | '\n' :: rest => return ([], { s.skip (passed ++ ['\n']) rest with atLineStart := true })
      | rest => return ([], { s with rest })
    else return ([], s)
  else
    match s.indents with
    | (w, n) :: _ =>
      if wide = w then
        if narrow ≠ n then throw s.mixedTabs else return ([], s)
      else if w < wide then
        if deepestIndent ≤ s.indents.length + 1 then
          throw (quiet .indentationError s.here "too many levels of indentation")
        else if narrow ≤ n then throw s.mixedTabs
        else
          return ([s.tokenHere .indent []], { s with indents := (wide, narrow) :: s.indents })
      else
        let (count, s) ← s.dedent wide narrow 0 s.indents
        return (List.replicate count (s.tokenHere .dedent []), s)
    | [] => return ([], s)

/-- A name or a keyword, whose characters are checked. -/
def cutName (s : Scan) : Cut :=
  let name := s.rest.takeWhile mayBeInName
  let next := { s with rest := s.rest.dropWhile mayBeInName }
  match if name.any (127 < ·.toNat) then Text.nameFault? name else none with
  | some c => urgent s.here (badCharacter c)
  | none =>
    let kind := if keywords.contains (String.ofList name) then .keyword else .name
    .token (s.tokenHere kind name) next

/-- A quoted text behind the letters in front of it. -/
def cutQuoted (s : Scan) (letters cs : List Char) : Cut :=
  let quotes := openingQuotes (cs.headD '\'') cs
  match closeQuotes quotes [] (cs.drop quotes.length) with
  | .ok (inner, rest) =>
    let text := letters ++ quotes ++ inner ++ quotes
    .token (s.tokenHere .quoted text) (s.skip text rest)
  | .error taken =>
    let last := min (s.line + taken.count '\n') s.lastLine
    let kind := if quotes.length = 3 then "triple-quoted string" else "string"
    urgent s.here s!"unterminated {kind} literal (detected at line {last})"

/-- A symbol; brackets are kept account of. -/
def cutSymbol (s : Scan) (c : Char) (rest : List Char) : Cut :=
  match closing? c with
  | some _ =>
    if deepestNesting ≤ s.brackets.length then urgent s.here "too many nested parentheses"
    else
      let next := { s with rest, brackets := (c, s.line) :: s.brackets }
      .token (next.tokenHere .symbol [c]) next
  | none =>
    if isClosing c then
      let shown := c.toString
      match s.brackets with
      | [] => urgent s.here s!"unmatched '{shown}'"
      | (opening, line) :: outer =>
        if closing? opening = some c then
          let next := { s with rest, brackets := outer }
          .token (next.tokenHere .symbol [c]) next
        else
          let onLine := if line = s.line then "" else s!" on line {line}"
          let opening := opening.toString
          urgent s.here (s!"closing parenthesis '{shown}' does not match opening parenthesis " ++
            s!"'{opening}'{onLine}")
    else if !Text.isPrintable c then urgent s.here (badCharacter c)
    else
      let symbol := symbolAt (c :: rest)
      .token (s.tokenHere .symbol symbol) { s with rest := (c :: rest).drop symbol.length }

/-- Whether a number starts here. -/
def startsNumber : List Char → Bool
  | '.' :: d :: _ => d.isDigit
  | c :: _ => c.isDigit
  | [] => false

/-- What comes next behind the start of a line. -/
def cut (s : Scan) : Cut :=
  match s.rest with
  | [] =>
    match s.brackets with
    | bracket :: _ => .ended (.broken (neverClosed bracket) false)
    | [] => .token (s.tokenHere .ending []) s
  | c :: rest =>
    if c == ' ' || c == '\t' || c == '\x0c' then .skipped { s with rest }
    else if c == '#' then .skipped { s with rest := s.rest.dropWhile (· != '\n') }
    else if mayStartName c then
      match quoteLetters [] s.rest with
      | some (letters, cs) => s.cutQuoted letters cs
      | none => s.cutName
    else if c == '\n' then
      let next := { s.skip ['\n'] rest with atLineStart := true }
      if s.brackets.isEmpty then .token (s.tokenHere .newline []) next else .skipped next
    else if startsNumber s.rest then
      match scanNumber s.rest with
      | .ok (text, rest) => .token (s.tokenHere .number text) { s with rest }
      | .error message => urgent s.here message
    else if c == '\'' || c == '"' then s.cutQuoted [] s.rest
    else if c == '\\' then
      match s.continueLine rest with
      | .ok next => .skipped next
      | .error cut => cut
    else s.cutSymbol c rest

/-- Cuts the whole rest. -/
def words (s : Scan) (tokens : Array Token) : Nat → Words
  | 0 => ⟨tokens, .complete, none, false⟩
  | steps + 1 =>
    if s.atLineStart then
      match s.startLine with
      | .ok (changes, next) => next.words (tokens ++ changes) steps
      | .error (.ended ending) => ⟨tokens, ending, s.brackets.head?, false⟩
      | .error _ => ⟨tokens, .complete, none, false⟩
    else
      match s.cut with
      | .skipped next => next.words tokens steps
      | .ended ending => ⟨tokens, ending, s.brackets.head?, false⟩
      | .token t next =>
        if t.kind = .ending then ⟨tokens.push t, .complete, none, false⟩
        else if next.rest.isEmpty && t.looksBehind then
          { next.words (tokens.push t) steps with endsAtOnce := true }
        else next.words (tokens.push t) steps

end Scan

/-- Cuts a text into tokens. -/
def Words.ofText (cs : List Char) : Words :=
  let cs := unifyLines cs
  let lines := cs.count '\n' + (if cs.getLast? = some '\n' then 0 else 1)
  let start : Scan := ⟨cs, 1, lines, true, [], [(0, 0)]⟩
  start.words #[] (2 * cs.length + 2)

end FaultContext.Annotation
