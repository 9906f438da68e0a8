/-
# FaultContext.Annotation.Token -- the words of an annotation.

An annotation may be given as text, to be read when it is needed.  The text is an expression, and
it is cut into tokens first: names, keywords, numbers, quoted texts and symbols, the ends of lines,
and changes of indentation.  Inside brackets lines end nowhere.

A text that cannot be cut further is broken.  Most breaks are worth telling of whatever else is
wrong with the text, and are told in the place of it; the others are told only by a reader that
comes to them.
-/
import FaultContext.Class.Standard
import FaultContext.Text.Identifier
import FaultContext.Text.Printable
import FaultContext.Text.Quoted

namespace FaultContext.Annotation

/-! ## Problems -/

/-- What is wrong with a text that should be an expression, and on which line. -/
structure Problem where
  cls : Standard
  message : String
  line : Nat

/-- A problem of the usual class. -/
def Problem.plain (message : String) (line : Nat) : Problem := ⟨.syntaxError, message, line⟩

/-- The wording of a problem: it tells where it is. -/
def Problem.text (p : Problem) : String :=
  p.message ++ " (<string>, line " ++ toString p.line ++ ")"

/-! ## Tokens -/

/-- Kinds of tokens. -/
inductive TokenKind where
  | name
  | keyword
  | number
  | quoted
  | symbol
  | newline
  | indent
  | dedent
  | ending
  deriving DecidableEq, Repr

/-- A token as it is written, with its line and the number of brackets that are open behind it. -/
structure Token where
  kind : TokenKind
  text : String
  line : Nat
  level : Nat

/-- Words that are no names. -/
def keywords : List String :=
  ["False", "None", "True", "and", "as", "assert", "async", "await", "break", "class", "continue",
    "def", "del", "elif", "else", "except", "finally", "for", "from", "global", "if", "import",
    "in", "is", "lambda", "nonlocal", "not", "or", "pass", "raise", "return", "try", "while",
    "with", "yield"]

/-- Whether the character behind a token has to be looked at to know where the token ends. -/
def Token.looksBehind (t : Token) : Bool :=
  match t.kind with
  | .name | .keyword | .number => true
  | .symbol => t.text.length < 3
  | _ => false

/-- How a text ends: completely, or broken by a problem.  A break that is `urgent` is told in the
place of any other problem. -/
inductive Ending where
  | complete
  | broken (problem : Problem) (urgent : Bool)

/-- A text cut into tokens.  `opened` is the innermost bracket that is open where the text ends, and
`endsAtOnce` tells that the text had been looked through to its end when the last token was cut. -/
structure Words where
  tokens : Array Token
  ending : Ending
  opened : Option (Char × Nat)
  endsAtOnce : Bool := false

/-! ## Characters -/

/-- Whether a character may belong to a name; whether it does is checked for the name as a whole. -/
def mayBeInName (c : Char) : Bool := c.isAlphanum || c == '_' || 127 < c.toNat

/-- Whether a character may start a name. -/
def mayStartName (c : Char) : Bool := mayBeInName c && !c.isDigit

/-- A character that cannot stand where it stands. -/
def badCharacter (c : Char) : String :=
  let code := "U+" ++ String.ofList ((Text.hexDigits 4 c.toNat).map Char.toUpper)
  if Text.isPrintable c then "invalid character '" ++ c.toString ++ "' (" ++ code ++ ")"
  else "invalid non-printable character " ++ code

/-- Every end of a line written in the same way. -/
def unifyLines : List Char → List Char
  | '\r' :: '\n' :: rest => '\n' :: unifyLines rest
  | '\r' :: rest => '\n' :: unifyLines rest
  | c :: rest => c :: unifyLines rest
  | [] => []

/-! ## Numbers -/

/-- Splits off decimal digits, between which single underscores may stand; nothing where an
underscore stands alone. -/
def decimalTail : List Char → Option (List Char × List Char)
  | [] => some ([], [])
  | ['_'] => none
  | '_' :: d :: rest =>
    if d.isDigit then (decimalTail rest).map fun (taken, left) => ('_' :: d :: taken, left)
    else none
  | c :: rest =>
    if c.isDigit then (decimalTail rest).map fun (taken, left) => (c :: taken, left)
    else some ([], c :: rest)

/-- Whether a list of characters starts with a word that ends there. -/
def startsWithWord (word cs : List Char) : Bool :=
  word.isPrefixOf cs && !((cs.drop word.length).head?.map mayBeInName).getD false

/-- Whether a number may end in front of the given characters: a few keywords may follow at once. -/
def mayEndNumber (cs : List Char) : Bool :=
  ["and", "else", "for", "or", "not"].any (fun word => startsWithWord word.toList cs) ||
    ["if", "in", "is"].any (fun word => word.toList.isPrefixOf cs) ||
    !(cs.head?.map fun c => c.isAlphanum || c == '_').getD false

/-- A number and the rest behind it, or the message of what is wrong with it. -/
abbrev NumberScan := Except String (List Char × List Char)

/-- The message for a number that does not end properly. -/
def invalidLiteral (kind : String) : String := "invalid " ++ kind ++ " literal"

/-- Ends a number of a kind. -/
def endNumber (kind : String) (taken rest : List Char) : NumberScan :=
  if mayEndNumber rest then .ok (taken, rest) else .error (invalidLiteral kind)

/-- Adds decimal digits to a number and goes on. -/
def withTail (taken cs : List Char) (next : List Char → List Char → NumberScan) : NumberScan :=
  match decimalTail cs with
  | some (digits, rest) => next (taken ++ digits) rest
  | none => .error (invalidLiteral "decimal")

/-- The end of a decimal number, where it may be marked as imaginary. -/
def endDecimal (taken : List Char) : List Char → NumberScan
  | c :: rest =>
    if c == 'j' || c == 'J' then endNumber "imaginary" (taken ++ [c]) rest
    else endNumber "decimal" taken (c :: rest)
  | [] => .ok (taken, [])

/-- A decimal number from its exponent on. -/
def scanExponent (taken : List Char) : List Char → NumberScan
  | e :: rest =>
    if e == 'e' || e == 'E' then
      match rest with
      | sign :: d :: _ =>
        if sign == '+' || sign == '-' then
          if d.isDigit then withTail (taken ++ [e, sign]) (rest.drop 1) endDecimal
          else .error (invalidLiteral "decimal")
        else if sign.isDigit then withTail (taken ++ [e]) rest endDecimal
        else endNumber "decimal" taken (e :: rest)
      | [sign] =>
        if sign.isDigit then withTail (taken ++ [e]) rest endDecimal
        else .error (invalidLiteral "decimal")
      | [] => .error (invalidLiteral "decimal")
    else endDecimal taken (e :: rest)
  | [] => .ok (taken, [])

/-- A decimal number behind its point. -/
def scanFraction (taken cs : List Char) : NumberScan :=
  if (cs.head?.map Char.isDigit).getD false then withTail taken cs scanExponent
  else scanExponent taken cs

/-- A decimal number behind its first digits. -/
def scanPoint (taken : List Char) : List Char → NumberScan
  | '.' :: rest => scanFraction (taken ++ ['.']) rest
  | cs => scanExponent taken cs

/-- Splits off groups of digits of a base, each of which may follow an underscore. -/
def digitGroups (isDigit : Char → Bool) : Nat → List Char → Option (List Char × List Char)
  | 0, _ => none
  | steps + 1, cs =>
    let (mark, cs) := match cs with
      | '_' :: rest => (['_'], rest)
      | cs => ([], cs)
    match cs.takeWhile isDigit, cs.dropWhile isDigit with
    | [], _ => none
    | digits, '_' :: rest =>
      (digitGroups isDigit steps ('_' :: rest)).map fun (taken, left) =>
        (mark ++ digits ++ taken, left)
    | digits, rest => some (mark ++ digits, rest)

/-- The character at which digits of a base end that are not followed by others. -/
def digitsEnd (isDigit : Char → Bool) : List Char → Option Char
  | [] => none
  | ['_'] => none
  | '_' :: c :: rest => if isDigit c then digitsEnd isDigit rest else some c
  | c :: rest => if isDigit c then digitsEnd isDigit rest else some c

/-- A number that is written in a base, behind the letter that says so. -/
def scanBase (kind : String) (isDigit : Char → Bool) (taken cs : List Char) : NumberScan :=
  let stray (c : Char) : String := "invalid digit '" ++ c.toString ++ "' in " ++ kind ++ " literal"
  match digitsEnd isDigit cs with
  | some c =>
    if c.isDigit then .error (stray c)
    else
      match digitGroups isDigit (cs.length + 1) cs with
      | some (digits, rest) => endNumber kind (taken ++ digits) rest
      | none => .error (invalidLiteral kind)
  | none =>
    match digitGroups isDigit (cs.length + 1) cs with
    | some (digits, rest) => endNumber kind (taken ++ digits) rest
    | none => .error (invalidLiteral kind)

/-- Whether a character is a digit in base sixteen. -/
def isHexDigit (c : Char) : Bool :=
  c.isDigit || ('a' ≤ c && c ≤ 'f') || ('A' ≤ c && c ≤ 'F')

/-- Splits off zeros, between which single underscores may stand. -/
def zeros : List Char → Option (List Char × List Char)
  | [] => some ([], [])
  | ['_'] => none
  | '_' :: d :: rest =>
    if d == '0' then (zeros rest).map fun (taken, left) => ('_' :: d :: taken, left)
    else if d.isDigit then some (['_'], d :: rest)
    else none
  | c :: rest =>
    if c == '0' then (zeros rest).map fun (taken, left) => (c :: taken, left)
    else some ([], c :: rest)

/-- A number that starts with a zero, behind that zero: only zeros may follow it, unless the number
is not an integer. -/
def scanZeros (cs : List Char) : NumberScan :=
  match zeros cs with
  | none => .error (invalidLiteral "decimal")
  | some (taken, rest) =>
    match decimalTail rest with
    | none => .error (invalidLiteral "decimal")
    | some (digits, rest) =>
      let taken := '0' :: taken ++ digits
      let isReal := match rest.head? with
        | some c => ['.', 'e', 'E', 'j', 'J'].contains c
        | none => false
      if isReal then scanPoint taken rest
      else if digits.isEmpty then endNumber "decimal" taken rest
      else .error ("leading zeros in decimal integer literals are not permitted; " ++
        "use an 0o prefix for octal integers")

/-- The number at the front of a text that starts with a digit, or with a point and a digit. -/
def scanNumber : List Char → NumberScan
  | '.' :: rest => scanFraction ['.'] rest
  | '0' :: c :: rest =>
    if c == 'x' || c == 'X' then scanBase "hexadecimal" isHexDigit ['0', c] rest
    else if c == 'o' || c == 'O' then
      scanBase "octal" (fun d => '0' ≤ d && d ≤ '7') ['0', c] rest
    else if c == 'b' || c == 'B' then
      scanBase "binary" (fun d => d == '0' || d == '1') ['0', c] rest
    else scanZeros (c :: rest)
  | cs => withTail [] cs scanPoint

/-! ## Quoted texts -/

/-- The letters in front of a quoted text, each of which may stand there once, and the rest behind
them; nothing where no quote follows. -/
def quoteLetters (seen : List Char) : List Char → Option (List Char × List Char)
  | c :: rest =>
    if c == '\'' || c == '"' then some (seen.reverse, c :: rest)
    else
      let low := seen.map Char.toLower
      let has (d : Char) : Bool := low.contains d
      let fits := match c.toLower with
        | 'b' => !(has 'b' || has 'u' || has 'f')
        | 'u' => low.isEmpty
        | 'r' => !(has 'r' || has 'u')
        | 'f' => !(has 'f' || has 'b' || has 'u')
        | _ => false
      if fits then quoteLetters (c :: seen) rest else none
  | [] => none

/-- The end of a quoted text behind its opening quotes: what stands inside and the rest behind the
closing quotes, or how much was read without finding them. -/
def closeQuotes (quotes : List Char) (taken : List Char) :
    List Char → Except (List Char) (List Char × List Char)
  | [] => .error taken
  | c :: rest =>
    if quotes.isPrefixOf (c :: rest) then
      .ok (taken.reverse, rest.drop (quotes.length - 1))
    else if c == '\n' && quotes.length == 1 then .error taken
    else if c == '\\' then
      match rest with
      | d :: rest => closeQuotes quotes (d :: c :: taken) rest
      | [] => .error taken
    else closeQuotes quotes (c :: taken) rest

/-- The quotes that open a quoted text. -/
def openingQuotes (quote : Char) (cs : List Char) : List Char :=
  if [quote, quote, quote].isPrefixOf cs then [quote, quote, quote] else [quote]

/-! ## Symbols -/

/-- Symbols of three characters. -/
def longSymbols : List String := ["...", "**=", "//=", ">>=", "<<="]

/-- Symbols of two characters. -/
def pairSymbols : List String :=
  ["!=", "%=", "&=", "**", "*=", "+=", "-=", "->", "//", "/=", ":=", "<<", "<=", "<>", "==", ">=",
    ">>", "@=", "^=", "|="]

/-- The symbol at the front of a text. -/
def symbolAt (cs : List Char) : List Char :=
  let pair := cs.take 2
  let triple := cs.take 3
  if longSymbols.contains (String.ofList triple) then triple
  else if pairSymbols.contains (String.ofList pair) then pair
  else cs.take 1

/-- The bracket that closes what a bracket opens. -/
def closing? : Char → Option Char
  | '(' => some ')'
  | '[' => some ']'
  | '\x7b' => some '\x7d'
  | _ => none

/-- Whether a character closes a bracket. -/
def isClosing (c : Char) : Bool := c == ')' || c == ']' || c == '\x7d'

end FaultContext.Annotation
