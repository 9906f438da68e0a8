/-
# FaultContext.Format.Spec -- format specifications.

A specification says how a value is laid out:

    [[fill]align][sign][z][#][0][width][,|_][.precision][code]

Reading one needs to know what it is for, because a code that is left out, the side on which a value
stands and the wording of some faults depend on the kind of value.  What each kind of value then
makes of a specification is `FaultContext.Format.Layout`.
-/
import FaultContext.Format.Path
import FaultContext.Text.Quoted

namespace FaultContext.Format

/-- Where the padding goes. -/
inductive Align where
  | left
  | right
  | center
  | afterSign
  deriving DecidableEq, Repr

/-- How a sign is shown. -/
inductive Sign where
  | minus
  | plus
  | space
  deriving DecidableEq, Repr

/-- How the digits of a number are grouped. -/
inductive Grouping where
  | none
  | commas
  | underscores
  | underscoredFours
  deriving DecidableEq, Repr

/-- A specification that has been read; `code` is absent where no character gives it. -/
structure Spec where
  fill : Char
  align : Align
  sign : Option Sign
  unsignedZero : Bool
  alternate : Bool
  width : Option Nat
  grouping : Grouping
  precision : Option Nat
  code : Option Char
  deriving DecidableEq, Repr

/-- The kinds of values that take specifications. -/
inductive Subject where
  | text
  | integer
  | truth
  | real
  deriving DecidableEq, Repr

/-- The name of a kind in the wording of a fault. -/
def Subject.name : Subject → String
  | .text => "str"
  | .integer => "int"
  | .truth => "bool"
  | .real => "float"

/-- Why a specification does not fit a value. -/
inductive SpecFault where
  | path (fault : PathFault)
  | bothSeparators
  | missingPrecision
  | invalid (spec : List Char) (subject : Subject)
  | separator (mark code : Char)
  | unknownCode (code : Char) (subject : Subject)
  | signOnText (sign : Sign)
  | unsignedZeroOnText
  | alternateOnText
  | afterSignOnText
  | precisionOnInteger
  | unsignedZeroOnInteger
  | signOnCharacter
  | alternateOnCharacter
  | characterTooGreat
  | characterRange
  | precisionTooGreat
  | integerTooGreat
  | integerTooLong
  deriving DecidableEq, Repr

/-- A character inside a message: as itself where it is printable ASCII, else as a number. -/
def messageChar (limit : Nat) (c : Char) : String :=
  if 32 < c.toNat && c.toNat < limit then c.toString
  else String.ofList ('\\' :: 'x' :: Text.hexDigits 0 c.toNat)

/-- The wording of a fault. -/
def SpecFault.message : SpecFault → String
  | .path fault => fault.message
  | .bothSeparators => "Cannot specify both ',' and '_'."
  | .missingPrecision => "Format specifier missing precision"
  | .invalid spec subject =>
    "Invalid format specifier '" ++ String.ofList spec ++ "' for object of type '" ++
      subject.name ++ "'"
  | .separator mark code =>
    "Cannot specify '" ++ mark.toString ++ "' with '" ++ messageChar 128 code ++ "'."
  | .unknownCode code subject =>
    "Unknown format code '" ++ messageChar 128 code ++ "' for object of type '" ++
      subject.name ++ "'"
  | .signOnText .space => "Space not allowed in string format specifier"
  | .signOnText _ => "Sign not allowed in string format specifier"
  | .unsignedZeroOnText => "Negative zero coercion (z) not allowed in string format specifier"
  | .alternateOnText => "Alternate form (#) not allowed in string format specifier"
  | .afterSignOnText => "'=' alignment not allowed in string format specifier"
  | .precisionOnInteger => "Precision not allowed in integer format specifier"
  | .unsignedZeroOnInteger => "Negative zero coercion (z) not allowed in integer format specifier"
  | .signOnCharacter => "Sign not allowed with integer format specifier 'c'"
  | .alternateOnCharacter => "Alternate form (#) not allowed with integer format specifier 'c'"
  | .characterTooGreat => "Python int too large to convert to C long"
  | .characterRange => "%c arg not in range(0x110000)"
  | .precisionTooGreat => "precision too big"
  | .integerTooGreat => "int too large to convert to float"
  | .integerTooLong =>
    "Exceeds the limit (4300 digits) for integer string conversion; use " ++
      "sys.set_int_max_str_digits() to increase the limit"

/-- Whether a fault is about the size of a number rather than about the specification. -/
def SpecFault.isOverflow : SpecFault → Bool
  | .characterTooGreat | .characterRange | .integerTooGreat => true
  | _ => false

/-! ## Reading -/

/-- The alignment that a character stands for. -/
def Align.ofChar? : Char → Option Align
  | '<' => some .left
  | '>' => some .right
  | '^' => some .center
  | '=' => some .afterSign
  | _ => none

/-- The sign that a character stands for. -/
def Sign.ofChar? : Char → Option Sign
  | '-' => some .minus
  | '+' => some .plus
  | ' ' => some .space
  | _ => none

/-- Digits at the front of a text as a number, and the rest; no number where there is no digit. -/
def takeNumber (acc : Option Nat) : List Char → Except PathFault (Option Nat × List Char)
  | [] => .ok (acc, [])
  | c :: rest =>
    match Text.decimalValue? c with
    | none => .ok (acc, c :: rest)
    | some d =>
      let value := 10 * acc.getD 0 + d
      if greatestWord < value then .error .tooManyDigits else takeNumber (some value) rest

/-- Whether a text begins with a character, and the text without it. -/
def takeMark (mark : Char) : List Char → Bool × List Char
  | [] => (false, [])
  | c :: rest => if c = mark then (true, rest) else (false, c :: rest)

/-- A fill character and an alignment at the front of a text. -/
def takeAlign (cs : List Char) : Option Char × Option Align × List Char :=
  match cs with
  | f :: a :: rest =>
    match Align.ofChar? a with
    | some align => (some f, some align, rest)
    | none =>
      match Align.ofChar? f with
      | some align => (none, some align, a :: rest)
      | none => (none, none, cs)
  | [a] =>
    match Align.ofChar? a with
    | some align => (none, some align, [])
    | none => (none, none, cs)
  | [] => (none, none, [])

/-- Values other than texts stand on the right. -/
def Subject.align : Subject → Align
  | .text => .left
  | _ => .right

/-- The code that counts where none is given; numbers with a point have none. -/
def Subject.code : Subject → Option Char
  | .text => some 's'
  | .integer | .truth => some 'd'
  | .real => none

/-- The grouping a specification asks for, checked against its code. -/
def checkGrouping (grouping : Grouping) (code : Option Char) : Except SpecFault Grouping :=
  let plain (c : Char) := ['d', 'e', 'f', 'g', 'E', 'G', '%', 'F'].contains c
  let based (c : Char) := ['b', 'o', 'x', 'X'].contains c
  match grouping, code with
  | .none, _ => .ok .none
  | g, none => .ok g
  | .commas, some c => if plain c || c.toNat = 0 then .ok .commas else .error (.separator ',' c)
  | g, some c =>
    if plain c || c.toNat = 0 then .ok g
    else if based c then .ok .underscoredFours
    else .error (.separator '_' c)

/-- Commas or underscores at the front of a text. -/
def takeGrouping (cs : List Char) : Except SpecFault (Grouping × List Char) :=
  let (commas, afterComma) := takeMark ',' cs
  let (underscores, rest) := takeMark '_' afterComma
  if underscores && (commas || (takeMark ',' rest).1) then .error .bothSeparators
  else .ok (if commas then .commas else if underscores then .underscores else .none, rest)

/-- A precision at the front of a text. -/
def takePrecision (cs : List Char) : Except SpecFault (Option Nat × List Char) :=
  match takeMark '.' cs with
  | (false, rest) => .ok (none, rest)
  | (true, rest) =>
    match takeNumber none rest with
    | .error fault => .error (.path fault)
    | .ok (none, _) => .error .missingPrecision
    | .ok (precision, tail) => .ok (precision, tail)

/-- Reads a specification for a kind of value. -/
def Spec.read (subject : Subject) (cs : List Char) : Except SpecFault Spec := do
  let (fill, align, rest) := takeAlign cs
  let (sign, rest) : Option Sign × List Char :=
    match rest with
    | c :: tail =>
      match Sign.ofChar? c with
      | some sign => (some sign, tail)
      | none => (none, rest)
    | [] => (none, [])
  let (unsignedZero, rest) := takeMark 'z' rest
  let (alternate, rest) := takeMark '#' rest
  let (zeros, rest) := if fill.isSome then (false, rest) else takeMark '0' rest
  let (width, rest) ← (takeNumber none rest).mapError .path
  let (grouping, rest) ← takeGrouping rest
  let (precision, rest) ← takePrecision rest
  let code ← match rest with
    | [] => .ok subject.code
    | [c] => .ok (some c)
    | _ => .error (.invalid cs subject)
  let grouping ← checkGrouping grouping code
  return {
    fill := if zeros then '0' else fill.getD ' '
    align := align.getD (if zeros && subject.align = .right then .afterSign else subject.align)
    sign, unsignedZero, alternate, width, grouping, precision, code }

end FaultContext.Format
