/-
# FaultContext.Format.Layout -- values laid out by a specification.

A text is cut and padded.  A number is written as

    padding  sign  prefix  padding  grouped digits  point  remainder  padding

where at most one padding is not empty.  Zeros put in by the specification `0` are digits, so they
are grouped like the others; every other padding stands outside the digits.
-/
import FaultContext.Format.Spec
import FaultContext.Number.Decimal
import FaultContext.Number.Integer

namespace FaultContext.Format

open Number (Binary64 Decimal nearestEven)

/-! ## Texts -/

/-- Padding on the left and on the right of something shorter than the width. -/
def padding (align : Align) (missing : Nat) : Nat × Nat :=
  match align with
  | .left => (0, missing)
  | .center => (missing / 2, missing - missing / 2)
  | .right | .afterSign => (missing, 0)

/-- A text laid out by a specification. -/
def layoutText (spec : Spec) (text : List Char) : Except SpecFault (List Char) :=
  match spec.code with
  | some 's' =>
    if let some sign := spec.sign then .error (.signOnText sign)
    else if spec.unsignedZero then .error .unsignedZeroOnText
    else if spec.alternate then .error .alternateOnText
    else if spec.align = .afterSign then .error .afterSignOnText
    else
      let shown := match spec.precision with
        | some most => text.take most
        | none => text
      let (before, after) := padding spec.align (spec.width.getD 0 - shown.length)
      .ok (List.replicate before spec.fill ++ shown ++ List.replicate after spec.fill)
  | some c => .error (.unknownCode c .text)
  | none => .ok text

/-! ## Numbers -/

/-- The parts of a number that are laid out around its padding. -/
structure Parts where
  negative : Bool
  basePrefix : List Char
  digits : List Char
  remainder : List Char
  deriving Repr

/-- Digits in groups of the given size, the last digit first; zeros are added until the width is
reached, and a group that the width reaches only with its separator gets one zero. -/
def groupReversed (size : Nat) (mark : Char) (width : Nat) (reversed : List Char) : List Char :=
  let count := min (max size 1) (max (max reversed.length width) 1)
  let group := reversed.take count
  let zeros := List.replicate (count - reversed.length) '0'
  let rest := reversed.drop count
  if rest.isEmpty && width - count = 0 then group ++ zeros
  else group ++ zeros ++ mark :: groupReversed size mark (width - count - 1) rest
termination_by reversed.length + width
decreasing_by
  rename_i h
  simp only [Bool.and_eq_true, List.isEmpty_iff, List.drop_eq_nil_iff, decide_eq_true_eq,
    not_and, rest, count] at h
  simp only [List.length_drop]
  omega

/-- The digits of a number grouped as asked, at least `width` characters of them. -/
def groupDigits (grouping : Grouping) (width : Nat) (digits : List Char) : List Char :=
  match grouping with
  | .none => List.replicate (max width 1 - digits.length) '0' ++ digits
  | .commas => (groupReversed 3 ',' width digits.reverse).reverse
  | .underscores => (groupReversed 3 '_' width digits.reverse).reverse
  | .underscoredFours => (groupReversed 4 '_' width digits.reverse).reverse

/-- How the sign of a number is written. -/
def signText (sign : Option Sign) (negative : Bool) : List Char :=
  if negative then ['-']
  else
    match sign with
    | some .plus => ['+']
    | some .space => [' ']
    | _ => []

/-- Lays out the parts of a number. -/
def layoutParts (spec : Spec) (parts : Parts) : List Char :=
  let sign := signText spec.sign parts.negative
  let fixedSize := sign.length + parts.basePrefix.length + parts.remainder.length
  let width := spec.width.getD 0
  let zeroWidth := if spec.fill = '0' && spec.align = .afterSign then width - fixedSize else 0
  let digits :=
    if parts.digits.isEmpty then [] else groupDigits spec.grouping zeroWidth parts.digits
  let missing := width - (fixedSize + digits.length)
  let pad (n : Nat) := List.replicate n spec.fill
  let body := digits ++ parts.remainder
  if spec.align = .afterSign then sign ++ parts.basePrefix ++ pad missing ++ body
  else
    let (before, after) := padding spec.align missing
    pad before ++ sign ++ parts.basePrefix ++ body ++ pad after

/-! ## Integers -/

/-- The digits of a natural number in a base up to sixteen. -/
def digitsInBase (base n : Nat) : List Char := Nat.toDigits base n

/-- The parts of an integer in a base, with the prefix of the base if it is asked for. -/
def integerParts (alternate : Bool) (code : Char) (n : Int) : Parts :=
  let parts (base : Nat) (mark : List Char) : Parts :=
    ⟨n < 0, if alternate then mark else [], digitsInBase base n.natAbs, []⟩
  match code with
  | 'b' => parts 2 ['0', 'b']
  | 'o' => parts 8 ['0', 'o']
  | 'x' => parts 16 ['0', 'x']
  | 'X' => { parts 16 ['0', 'X'] with digits := (digitsInBase 16 n.natAbs).map Char.toUpper }
  | _ => parts 10 []

/-- An integer as the character of that number. -/
def characterParts (spec : Spec) (n : Int) : Except SpecFault Parts :=
  if spec.sign.isSome then .error .signOnCharacter
  else if spec.alternate then .error .alternateOnCharacter
  else if n < -greatestWord - 1 || greatestWord < n then .error .characterTooGreat
  else if n < 0 || 0x10ffff < n then .error .characterRange
  else .ok ⟨false, [], [], [Char.ofNat n.toNat]⟩

/-! ## Numbers with a point -/

/-- How the digits of a number with a point are chosen. -/
inductive DigitStyle where
  | shortest
  | general
  | fixed
  | scientific
  deriving DecidableEq, Repr

/-- The digit at a place, where the first digit has place zero and all else is zero. -/
private def digitAt (digits : List Char) (place : Int) : Char :=
  match place with
  | .ofNat k => digits.getD k '0'
  | .negSucc _ => '0'

/-- Digits from the place `first` up to the place `last`, with a point in front of the place
`point`. -/
private def slice (digits : List Char) (first last point : Int) : List Char × List Char :=
  let whole := (List.range (point - first).toNat).map fun (k : Nat) => digitAt digits (first + k)
  let fraction := (List.range (last - point).toNat).map fun (k : Nat) => digitAt digits (point + k)
  (whole, fraction)

/-- An exponent: its sign and at least two digits. -/
def exponentText (mark : Char) (exponent : Int) : List Char :=
  let digits := Decimal.digitsOf exponent.natAbs
  mark :: (if exponent < 0 then '-' else '+') ::
    (List.replicate (2 - digits.length) '0' ++ digits)

/-- Zeros at the end carry no information once the digits are chosen. -/
private def dropZeros (digits : List Char) : List Char :=
  match (digits.reverse.dropWhile (· == '0')).reverse with
  | [] => ['0']
  | ds => ds

/-- The digits of a fraction for a style, without zeros at the end. -/
private def chosenDigits (choice : DigitStyle) (precision : Nat) (mantissa : Nat) (exponent : Int) :
    Decimal :=
  if mantissa = 0 then ⟨['0'], 1⟩
  else
    let (num, den) := Binary64.scaled mantissa exponent
    let decimal := match choice with
      | .shortest => Decimal.shortest mantissa exponent
      | .general => Decimal.significant (max precision 1) num den
      | .scientific => Decimal.significant (precision + 1) num den
      | .fixed =>
        let units := Decimal.fixed precision num den
        if units = 0 then ⟨['0'], 1⟩
        else
          let digits := Decimal.digitsOf units
          ⟨digits, (digits.length : Int) - precision⟩
    { decimal with digits := dropZeros decimal.digits }

/-- The whole digits, and what follows them: point, further digits, exponent.  `keepPoint` asks for
a digit after the point, `alternate` keeps a point with nothing after it. -/
def finiteText (choice : DigitStyle) (precision : Nat) (keepPoint alternate : Bool)
    (mark : Char) (decimal : Decimal) : List Char × List Char :=
  let digits := decimal.digits
  let point := decimal.point
  let scientific := match choice with
    | .scientific => true
    | .fixed => false
    | .general =>
      point ≤ -4 || point > (max precision 1 : Int) - (if keepPoint then 1 else 0)
    | .shortest => point ≤ -4 || point > 16
  let wanted : Int := match choice with
    | .scientific => precision + 1
    | .fixed => point + precision
    | .general => if alternate then (max precision 1 : Int) else digits.length
    | .shortest => digits.length
  let shownPoint : Int := if scientific then 1 else point
  let first : Int := if shownPoint ≤ 0 then shownPoint - 1 else 0
  let last := max wanted (if !scientific && keepPoint then shownPoint + 1 else shownPoint)
  let (whole, fraction) := slice digits first last shownPoint
  let fraction := if fraction.isEmpty && !alternate then [] else '.' :: fraction
  (whole, fraction ++ if scientific then exponentText mark (point - 1) else [])

/-- The style of a code, whether it is in upper case and whether it is a percentage.  The character
with the number zero stands for no code. -/
def styleOf? : Option Char → Option (DigitStyle × Bool × Bool)
  | none | some '\x00' => some (.shortest, false, false)
  | some 'e' => some (.scientific, false, false)
  | some 'E' => some (.scientific, true, false)
  | some 'f' => some (.fixed, false, false)
  | some 'F' => some (.fixed, true, false)
  | some 'g' => some (.general, false, false)
  | some 'G' => some (.general, true, false)
  | some 'n' => some (.general, false, false)
  | some '%' => some (.fixed, false, true)
  | _ => none

/-- The parts of a number with a point. -/
def realParts (spec : Spec) (choice : DigitStyle) (upper percent : Bool) (x : Binary64) : Parts :=
  let keepPoint := choice = .shortest
  let choice := if choice = .shortest && spec.precision.isSome then .general else choice
  let precision := spec.precision.getD (if keepPoint then 0 else 6)
  let x := if percent then x.mul (Binary64.ofInt 100) else x
  let mark := if upper then 'E' else 'e'
  let tail := if percent then ['%'] else []
  let word (text : List Char) := (if upper then text.map Char.toUpper else text) ++ tail
  match x with
  | .nan => ⟨false, [], [], word ['n', 'a', 'n']⟩
  | .infinite negative => ⟨negative, [], [], word ['i', 'n', 'f']⟩
  | .finite negative mantissa exponent =>
    let decimal := chosenDigits choice precision mantissa exponent
    let negative := negative && !(spec.unsignedZero && decimal.digits == ['0'])
    let (whole, rest) := finiteText choice precision keepPoint spec.alternate mark decimal
    ⟨negative, [], whole, rest ++ tail⟩

/-- The greatest precision of a number with a point. -/
def greatestPrecision : Nat := Nat.pow 2 31 - 1

/-- A number with a point laid out by a specification. -/
def layoutReal (subject : Subject) (spec : Spec) (x : Binary64) : Except SpecFault (List Char) :=
  match styleOf? spec.code with
  | none => .error (.unknownCode (spec.code.getD ' ') subject)
  | some (choice, upper, percent) =>
    if greatestPrecision < spec.precision.getD 0 then .error .precisionTooGreat
    else .ok (layoutParts spec (realParts spec choice upper percent x))

/-- The specification that shows a number with a point in full. -/
def Spec.plainReal : Spec := ⟨' ', .right, none, false, false, none, .none, none, none⟩

/-- A number with a point in the fewest digits that read back: positional from `10 ^ -4` up to
`10 ^ 16`, and always with a digit after the point or an exponent. -/
def realText (x : Binary64) : String :=
  String.ofList (layoutParts Spec.plainReal (realParts Spec.plainReal .shortest false false x))

/-- An integer laid out by a specification. -/
def layoutInteger (subject : Subject) (spec : Spec) (n : Int) : Except SpecFault (List Char) :=
  let code := spec.code.getD 'd'
  if ['b', 'c', 'd', 'o', 'x', 'X', 'n'].contains code then
    if spec.precision.isSome then .error .precisionOnInteger
    else if spec.unsignedZero then .error .unsignedZeroOnInteger
    else if code = 'c' then (characterParts spec n).map (layoutParts spec)
    else
      let parts := integerParts spec.alternate code n
      if (code = 'd' || code = 'n') && Number.longestInteger < parts.digits.length then
        .error .integerTooLong
      else .ok (layoutParts spec parts)
  else if ['e', 'E', 'f', 'F', 'g', 'G', '%'].contains code then
    match Binary64.ofInt n with
    | .infinite _ => .error .integerTooGreat
    | x => layoutReal subject spec x
  else .error (.unknownCode code subject)

end FaultContext.Format
