/-
# FaultContext.Annotation.Literal -- what numbers and quoted texts in annotations stand for.

A number is an integer in one of four bases, a floating-point number, or the imaginary part of one.
Inside quotes a backslash starts an escape, unless the text is marked as raw; a text may be marked
as one of bytes, and a text may hold expressions in braces.  Several quoted texts beside one
another are one text.

The reader of the expressions inside a text is a parameter: what a text is made of is decided here,
and what an expression is elsewhere.
-/
import FaultContext.Annotation.Phrase
import FaultContext.Annotation.Scan
import FaultContext.Number.Decimal
import FaultContext.Number.Integer

namespace FaultContext.Annotation

open Number (Binary64)

/-! ## Numbers -/

/-- Digits in a base as a number. -/
def digitsIn (base : Nat) (cs : List Char) : Nat :=
  cs.foldl (fun n c => base * n + (Number.digitValue? c).getD 0) 0

/-- The constant that a number stands for, or the message for one with too many digits. -/
def numberConstant (text : String) : Except String Constant :=
  let cs := text.toList.filter (· != '_')
  match cs with
  | '0' :: c :: rest =>
    if c == 'x' || c == 'X' then .ok (.int (digitsIn 16 rest))
    else if c == 'o' || c == 'O' then .ok (.int (digitsIn 8 rest))
    else if c == 'b' || c == 'B' then .ok (.int (digitsIn 2 rest))
    else decimal cs
  | _ => decimal cs
where
  real (cs : List Char) : Binary64 :=
    (Number.Binary64.read? (String.ofList cs)).getD (Binary64.zero false)
  decimal (cs : List Char) : Except String Constant :=
    if cs.any fun c => c == 'j' || c == 'J' then .ok (.imaginary (real cs.dropLast))
    else if cs.all Char.isDigit then
      let count := cs.length
      if Number.longestInteger < count then
        .error (
          "Exceeds the limit (4300 digits) for integer string conversion: value has " ++
          s!"{count} digits; use sys.set_int_max_str_digits() to increase the limit - " ++
          "Consider hexadecimal for huge integer literals to avoid decimal conversion limits.")
      else .ok (.int (digitsIn 10 cs))
    else .ok (.float (real cs))

/-! ## Escapes -/

/-- Escapes of one letter. -/
def letterEscape? : Char → Option Char
  | '\\' => some '\\'
  | '\'' => some '\''
  | '"' => some '"'
  | 'a' => some '\x07'
  | 'b' => some '\x08'
  | 'f' => some '\x0c'
  | 'n' => some '\n'
  | 'r' => some '\r'
  | 't' => some '\t'
  | 'v' => some '\x0b'
  | _ => none

/-- Up to three octal digits at the front of a text. -/
def octalDigits (cs : List Char) : List Char :=
  (cs.take 3).takeWhile fun c => '0' ≤ c && c ≤ '7'

/-- How many places a character takes where escapes are counted: characters beyond ASCII are written
as escapes themselves. -/
def escapeWidth (c : Char) : Nat := if c.toNat < 128 then 1 else 10

/-- How many places characters take where escapes are counted. -/
def escapeWidths (cs : List Char) : Nat := cs.foldl (fun n c => n + escapeWidth c) 0

/-- The message for an escape that cannot be read, which spans the given places. -/
def badEscape (first behind : Nat) (message : String) : String :=
  s!"(unicode error) 'unicodeescape' codec can't decode bytes in position {first}-{behind - 1}: " ++
    message

/-- The number of digits and the message of an escape by code. -/
def codeEscape? : Char → Option (Nat × String)
  | 'x' => some (2, "truncated \\xXX escape")
  | 'u' => some (4, "truncated \\uXXXX escape")
  | 'U' => some (8, "truncated \\UXXXXXXXX escape")
  | _ => none

/-- A text with its escapes replaced, from a place on. -/
def unescapeFrom (place : Nat) (cs : List Char) : Nat → Except String (List Char)
  | 0 => .ok []
  | steps + 1 =>
    match cs with
    | [] => .ok []
    | '\\' :: c :: rest =>
      if c == '\n' then unescapeFrom (place + 2) rest steps
      else if let some d := letterEscape? c then
        return d :: (← unescapeFrom (place + 2) rest steps)
      else if '0' ≤ c && c ≤ '7' then
        let digits := octalDigits (c :: rest)
        let behind := (c :: rest).drop digits.length
        return Char.ofNat (digitsIn 8 digits) ::
          (← unescapeFrom (place + 1 + digits.length) behind steps)
      else if let some (count, message) := codeEscape? c then
        let digits := (rest.take count).takeWhile isHexDigit
        let behind := place + 2 + digits.length
        if digits.length < count then .error (badEscape place behind message)
        else if 0x10ffff < digitsIn 16 digits then
          .error (badEscape place behind "illegal Unicode character")
        else
          return Char.ofNat (digitsIn 16 digits) ::
            (← unescapeFrom behind (rest.drop count) steps)
      else if c == 'N' then
        match rest with
        | '\x7b' :: inner =>
          let name := inner.takeWhile (· != '\x7d')
          let found := inner.length != name.length
          let behind := place + 3 + escapeWidths name
          if found && !name.isEmpty then
            .error (badEscape place (behind + 1) "unknown Unicode character name")
          else .error (badEscape place behind "malformed \\N character escape")
        | _ => .error (badEscape place (place + 2) "malformed \\N character escape")
      else
        let width := if c.toNat < 128 then 2 else 16
        return '\\' :: c :: (← unescapeFrom (place + width) rest steps)
    | c :: rest => return c :: (← unescapeFrom (place + escapeWidth c) rest steps)

/-- A text with its escapes replaced. -/
def unescape (cs : List Char) : Except String (List Char) := unescapeFrom 0 cs (cs.length + 1)

/-- Bytes with their escapes replaced, from a place on. -/
def unescapeBytes (place : Nat) (cs : List Char) : Nat → Except String (List Nat)
  | 0 => .ok []
  | steps + 1 =>
    match cs with
    | [] => .ok []
    | '\\' :: c :: rest =>
      if c == '\n' then unescapeBytes (place + 2) rest steps
      else if let some d := letterEscape? c then
        return d.toNat :: (← unescapeBytes (place + 2) rest steps)
      else if '0' ≤ c && c ≤ '7' then
        let digits := octalDigits (c :: rest)
        return digitsIn 8 digits % 256 ::
          (← unescapeBytes (place + 1 + digits.length) ((c :: rest).drop digits.length) steps)
      else if c == 'x' then
        let digits := (rest.take 2).takeWhile isHexDigit
        if digits.length < 2 then
          .error s!"(value error) invalid \\x escape at position {place}"
        else return digitsIn 16 digits :: (← unescapeBytes (place + 4) (rest.drop 2) steps)
      else return '\\'.toNat :: c.toNat :: (← unescapeBytes (place + 2) rest steps)
    | c :: rest => return c.toNat :: (← unescapeBytes (place + 1) rest steps)

/-! ## Texts with expressions in them -/

/-- Reads an expression that stands inside a text. -/
abbrev InnerReader := List Char → Except Problem Phrase

/-- What a literal part of a text ends with: the end of the text, a doubled brace, after which more
of it follows, or an expression or the end of a specification. -/
inductive PartEnd where
  | doubled (rest : List Char)
  | stopped (rest : List Char)

/-- A literal part at the front of a text and what it ends with.  Inside a specification braces
cannot be doubled. -/
def literalPart (raw isSpec : Bool) (taken cs : List Char) :
    Nat → Except String (List Char × PartEnd)
  | 0 => .ok (taken.reverse, .stopped [])
  | steps + 1 =>
    match cs with
    | [] => .ok (taken.reverse, .stopped [])
    | c :: rest =>
      if !raw && c == '\\' && !rest.isEmpty then
        match rest with
        | 'N' :: '\x7b' :: inner =>
          let name := inner.takeWhile (· != '\x7d')
          let behind := inner.drop (name.length + 1)
          let closed := if name.length < inner.length then ['\x7d'] else []
          literalPart raw isSpec (closed ++ name.reverse ++ '\x7b' :: 'N' :: c :: taken) behind
            steps
        | 'N' :: d :: behind => literalPart raw isSpec (d :: 'N' :: c :: taken) behind steps
        | d :: behind =>
          if d == '\x7b' || d == '\x7d' then brace (c :: taken) d behind steps
          else literalPart raw isSpec (d :: c :: taken) behind steps
        | [] => .ok (taken.reverse, .stopped [])
      else if c == '\x7b' || c == '\x7d' then brace taken c rest steps
      else literalPart raw isSpec (c :: taken) rest steps
where
  brace (taken : List Char) (c : Char) (rest : List Char) (_ : Nat) :
      Except String (List Char × PartEnd) :=
    if !isSpec then
      match rest with
      | d :: behind =>
        if d == c then .ok ((c :: taken).reverse, .doubled behind)
        else if c == '\x7d' then .error "f-string: single '\x7d' is not allowed"
        else .ok (taken.reverse, .stopped (c :: rest))
      | [] =>
        if c == '\x7d' then .error "f-string: single '\x7d' is not allowed"
        else .ok (taken.reverse, .stopped (c :: rest))
    else .ok (taken.reverse, .stopped (c :: rest))

/-- The text of an expression inside a text, up to what ends it.  `quote` is the quotes of a text
that has been opened inside the expression, `brackets` are the brackets. -/
def expressionPart (quote brackets taken cs : List Char) :
    Nat → Except String (List Char × List Char)
  | 0 => .ok (taken.reverse, cs)
  | steps + 1 =>
    match cs with
    | [] =>
      if !quote.isEmpty then .error "f-string: unterminated string"
      else
        match brackets with
        | opening :: _ => .error ("f-string: unmatched '" ++ opening.toString ++ "'")
        | [] => .ok (taken.reverse, [])
    | c :: rest =>
      if c == '\\' then .error "f-string expression part cannot include a backslash"
      else if !quote.isEmpty then
        if quote.isPrefixOf cs then
          expressionPart [] brackets (quote ++ taken) (cs.drop quote.length) steps
        else expressionPart quote brackets (c :: taken) rest steps
      else if c == '\'' || c == '"' then
        let quote := openingQuotes c cs
        expressionPart quote brackets (quote ++ taken) (cs.drop quote.length) steps
      else if (closing? c).isSome then
        if deepestNesting ≤ brackets.length then .error "f-string: too many nested parenthesis"
        else expressionPart quote (c :: brackets) (c :: taken) rest steps
      else if c == '#' then .error "f-string expression part cannot include '#'"
      else if brackets.isEmpty && ['!', ':', '\x7d', '=', '<', '>'].contains c then
        if rest.head? == some '=' && ['!', '=', '<', '>'].contains c then
          expressionPart quote brackets ('=' :: c :: taken) (rest.drop 1) steps
        else if c == '<' || c == '>' then expressionPart quote brackets (c :: taken) rest steps
        else .ok (taken.reverse, cs)
      else if isClosing c then
        match brackets with
        | [] => .error ("f-string: unmatched '" ++ c.toString ++ "'")
        | opening :: outer =>
          if closing? opening = some c then expressionPart quote outer (c :: taken) rest steps
          else .error ("f-string: closing parenthesis '" ++ c.toString ++
            "' does not match opening parenthesis '" ++ opening.toString ++ "'")
      else expressionPart quote brackets (c :: taken) rest steps

/-- The message for a text whose expression is not closed. -/
def unclosedExpression : String := "f-string: expecting '\x7d'"

/-- Whether a character is passed over behind the sign that repeats an expression. -/
def isSpace (c : Char) : Bool :=
  c == ' ' || c == '\t' || c == '\n' || c == '\x0b' || c == '\x0c' || c == '\r'

/-- An expression without anything in it. -/
def emptyExpression (behind : List Char) : String :=
  match behind with
  | '!' :: _ => "f-string: expression required before '!'"
  | ':' :: _ => "f-string: expression required before ':'"
  | '=' :: _ => "f-string: expression required before '='"
  | _ => "f-string: empty expression not allowed"

/-- Appends a text to pieces, joining it with one before it. -/
def addText (pieces : List Piece) (cs : List Char) : List Piece :=
  if cs.isEmpty then pieces
  else
    match pieces.reverse with
    | .text s :: before => before.reverse ++ [.text (s ++ String.ofList cs)]
    | _ => pieces ++ [.text (String.ofList cs)]

/-- The pieces of a text with expressions, `depth` levels of specifications deep: the pieces and
what is left, which is empty unless this is a specification. -/
def joinedPieces (inner : InnerReader) (line : Nat) (raw : Bool) (depth : Nat) (pieces : List Piece)
    (cs : List Char) : Nat → Except Problem (List Piece × List Char)
  | 0 => .ok (pieces, cs)
  | steps + 1 => do
    let fail {α : Type} (message : String) : Except Problem α := .error (.plain message line)
    let decode (cs : List Char) : Except Problem (List Char) :=
      if raw then .ok cs else (unescape cs).mapError (Problem.plain · line)
    let (literal, ended) ←
      (literalPart raw (depth != 0) [] cs (cs.length + 1)).mapError (Problem.plain · line)
    let pieces := addText pieces (← decode literal)
    match ended with
    | .doubled rest => joinedPieces inner line raw depth pieces rest steps
    | .stopped ('\x7b' :: rest) =>
      if 2 ≤ depth then fail "f-string: expressions nested too deeply"
      let (source, behind) ←
        (expressionPart [] [] [] rest (rest.length + 1)).mapError (Problem.plain · line)
      if behind.isEmpty then fail unclosedExpression
      if source.all fun c => c == ' ' || c == '\t' || c == '\n' || c == '\x0c' then
        fail (emptyExpression behind)
      let value ← inner source
      let (repeated, behind) ← match behind with
        | '=' :: after => do
          let blanks := after.takeWhile isSpace
          let after := after.dropWhile isSpace
          if after.isEmpty then fail unclosedExpression
          pure (some (source ++ '=' :: blanks), after)
        | _ => pure (none, behind)
      let (conversion, behind) ← match behind with
        | '!' :: c :: after =>
          if c == 's' || c == 'r' || c == 'a' then pure (some c, after)
          else fail "f-string: invalid conversion character: expected 's', 'r', or 'a'"
        | ['!'] => fail unclosedExpression
        | _ => pure (none, behind)
      let (spec, behind) ← match behind with
        | [':'] => fail unclosedExpression
        | ':' :: after => do
          let (spec, behind) ← joinedPieces inner line raw (depth + 1) [] after steps
          if behind.head? ≠ some '\x7d' then fail unclosedExpression
          pure (some spec, behind)
        | _ => pure (none, behind)
      match behind with
      | '\x7d' :: after =>
        let pieces := addText pieces (repeated.getD [])
        let conversion :=
          if repeated.isSome && spec.isNone && conversion.isNone then some 'r' else conversion
        joinedPieces inner line raw depth (pieces ++ [.value value conversion spec]) after steps
      | _ => fail unclosedExpression
    | .stopped rest => return (pieces, rest)

/-! ## Quoted texts -/

/-- A quoted text taken apart: the letters in front of it in lower case, and what stands inside. -/
def takeQuotedApart (text : String) : List Char × List Char :=
  let cs := text.toList
  let letters := cs.takeWhile fun c => c != '\'' && c != '"'
  let quoted := cs.drop letters.length
  let quotes := openingQuotes (quoted.headD '\'') quoted
  let size := quotes.length
  (letters.map Char.toLower, (quoted.drop size).take (quoted.length - 2 * size))

/-- What one quoted text adds to those before it. -/
inductive QuotedPart where
  | pieces (pieces : List Piece) (isJoined : Bool)
  | bytes (codes : List Nat)

/-- What one quoted text stands for.  `last` is the line that problems are put down to. -/
def quotedPart (inner : InnerReader) (last : Nat) (t : Token) : Except Problem QuotedPart := do
  let (letters, body) := takeQuotedApart t.text
  let raw := letters.contains 'r'
  let fail (message : String) : Problem := .plain message last
  if letters.contains 'b' then
    if body.any (127 < ·.toNat) then
      throw (.plain "bytes can only contain ASCII literal characters" t.line)
    if raw then return .bytes (body.map Char.toNat)
    else return .bytes (← (unescapeBytes 0 body (body.length + 1)).mapError fail)
  else if letters.contains 'f' then
    let (pieces, _) ← joinedPieces inner last raw 0 [] body (2 * body.length + 2)
    return .pieces pieces true
  else if raw then return .pieces [.text (String.ofList body)] false
  else
    let cs ← (unescape body).mapError fail
    return .pieces [.text (String.ofList cs)] false

/-- Joins pieces, texts beside one another becoming one. -/
def joinPieces (first second : List Piece) : List Piece :=
  second.foldl (fun all piece =>
    match piece with
    | .text s => addText all s.toList
    | value => all ++ [value]) first

/-- Whether a quoted text is one of bytes. -/
def isBytes (t : Token) : Bool := (takeQuotedApart t.text).1.contains 'b'

/-- Whether a quoted text may hold expressions. -/
def isJoined (t : Token) : Bool := (takeQuotedApart t.text).1.contains 'f'

/-- What quoted texts beside one another stand for.  All of them have to be of one kind, which is
checked before expressions are read. -/
def quotedShape (inner : InnerReader) (last : Nat) (tokens : List Token) :
    Except Problem Shape := do
  let parts ← mixed none tokens
  let all := parts.foldl (fun (all : List Piece × Bool × List Nat) part =>
    match part with
    | .pieces pieces isJoined => (joinPieces all.1 pieces, all.2.1 || isJoined, all.2.2)
    | .bytes codes => (all.1, all.2.1, all.2.2 ++ codes)) ([], false, [])
  if (tokens.head?.map isBytes).getD false then return .constant (.bytes all.2.2)
  else if all.2.1 then return .joined all.1
  else
    match all.1 with
    | [.text s] => return .constant (.text s)
    | _ => return .constant (.text "")
where
  mixed (first : Option Bool) : List Token → Except Problem (List QuotedPart)
    | [] => .ok []
    | t :: rest => do
      let checkKind : Except Problem Unit :=
        if first.getD (isBytes t) != isBytes t then
          .error (.plain "cannot mix bytes and nonbytes literals" last)
        else .ok ()
      if isJoined t then checkKind
      let part ← quotedPart inner last t
      checkKind
      return part :: (← mixed (some (isBytes t)) rest)

end FaultContext.Annotation
