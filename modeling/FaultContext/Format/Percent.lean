/-
# FaultContext.Format.Percent -- texts filled by percent signs.

A percent sign, some flags, a width, a precision and a letter are replaced by the next value, or by
the value of a name in a table.  A single value need not be put into a tuple.  Values that are left
over are refused, unless they come as one value that has items of its own.
-/
import FaultContext.Format.Render
import FaultContext.Value.Operator

namespace FaultContext.Format.Percent

/-- What stands between a percent sign and its letter. -/
structure Directive where
  left : Bool := false
  zeros : Bool := false
  sign : Option Sign := none
  alternate : Bool := false
  width : Nat := 0
  precision : Option Nat := none

/-- Values that are still to be used; a single value that has items is also asked by name. -/
structure Supply where
  rest : List Value
  source : Value
  asked : Bool

/-- Reads the flags. -/
def takeFlags (d : Directive) : List Char → Directive × List Char
  | '-' :: rest => takeFlags { d with left := true } rest
  | '0' :: rest => takeFlags { d with zeros := true } rest
  | '+' :: rest => takeFlags { d with sign := some .plus } rest
  | ' ' :: rest => takeFlags { d with sign := if d.sign.isSome then d.sign else some .space } rest
  | '#' :: rest => takeFlags { d with alternate := true } rest
  | rest => (d, rest)

/-- The number that digits stand for. -/
def numberOf (digits : List Char) : Nat :=
  digits.foldl (fun n c => 10 * n + (c.toNat - '0'.toNat)) 0

/-- Reads a width or a precision. -/
def takeDigits (cs : List Char) : List Char × List Char :=
  (cs.takeWhile Char.isDigit, cs.dropWhile Char.isDigit)

/-- Reads everything up to the letter. -/
def takeDirective (cs : List Char) : Directive × List Char :=
  let (d, cs) := takeFlags {} cs
  let (width, cs) := takeDigits cs
  let d := { d with width := numberOf width }
  let (d, cs) := match cs with
    | '.' :: rest =>
      let (precision, rest) := takeDigits rest
      ({ d with precision := some (numberOf precision) }, rest)
    | cs => (d, cs)
  (d, match cs with
    | 'h' :: rest | 'l' :: rest | 'L' :: rest => rest
    | cs => cs)

/-- A text padded to the width of a directive. -/
def padded (d : Directive) (text : List Char) : List Char :=
  let missing := List.replicate (d.width - text.length) ' '
  if d.left then text ++ missing else missing ++ text

/-- The specification that a directive stands for. -/
def specOf (d : Directive) (code : Char) : Spec :=
  let zeros := d.zeros && !d.left
  ⟨if zeros then '0' else ' ', if d.left then .left else if zeros then .afterSign else .right,
    d.sign, false, d.alternate, some d.width, .none, d.precision, some code⟩

/-- An integer as a directive writes it; a precision is the least number of digits. -/
def integerText (d : Directive) (code : Char) (n : Int) : List Char :=
  let parts := integerParts d.alternate code n
  let zeros := List.replicate (d.precision.getD 0 - parts.digits.length) '0'
  layoutParts { specOf d code with precision := none }
    { parts with digits := zeros ++ parts.digits }

/-- The integer that a value is written as. -/
def integerFor (s : Store) (code : Char) (v : Value) : Except Fault Int :=
  let letter := code.toString
  match v.number? with
  | some (.int n) => .ok n
  | some (.float x) =>
    if code = 'd' then
      match s.toInteger (.float .fresh x) with
      | .ok (.int _ n) => .ok n
      | .ok _ => .ok 0
      | .error f => .error f
    else
      .error (.plain .typeError s!"%{letter} format: an integer is required, not float")
  | none =>
    let type := s.typeName v
    let wanted := if code = 'd' then "a real number" else "an integer"
    .error (.plain .typeError s!"%{letter} format: {wanted} is required, not {type}")

/-- A value as the letter of a directive writes it. -/
def written (s : Store) (d : Directive) (code : Char) (v : Value) : Except Fault (List Char) := do
  let cut (text : String) : List Char :=
    padded d (match d.precision with
      | some most => text.toList.take most
      | none => text.toList)
  match code with
  | 's' => return cut (← s.str v)
  | 'r' => return cut (← s.repr v)
  | 'a' => return cut (← s.ascii v)
  | 'd' | 'i' | 'u' => return integerText d 'd' (← integerFor s 'd' v)
  | 'o' | 'x' | 'X' => return integerText d code (← integerFor s code v)
  | 'c' =>
    match v with
    | .str _ t =>
      if t.length = 1 then return padded d t.toList
      else throw (.plain .typeError "%c requires int or char")
    | v =>
      match Store.place? v with
      | some n =>
        if n < 0 || 0x110000 ≤ n then
          throw (.plain .overflowError "%c arg not in range(0x110000)")
        else return padded d [Char.ofNat n.toNat]
      | none => throw (.plain .typeError "%c requires int or char")
  | _ =>
    match v.number? with
    | some n =>
      match layoutReal .real (specOf d code) (← Store.toFloat n) with
      | .ok text => return text
      | .error f => throw (.spec f)
    | none =>
      throw (.plain .typeError ("must be real number, not " ++ s.typeName v))

/-- The next value. -/
def Supply.next (supply : Supply) : Except Fault (Value × Supply) :=
  match supply.rest with
  | v :: rest => .ok (v, { supply with rest })
  | [] => .error (.plain .typeError "not enough arguments for format string")

/-- Whether a value is asked for its items by name. -/
def isMapping : Value → Bool
  | .dict .. => true
  | _ => false

/-- The value that a directive is about: the next one, or the one of a name in parentheses. -/
def choose (s : Store) (supply : Supply) (cs : List Char) :
    Except Fault (Option Value × Supply × List Char) := do
  match cs with
  | '(' :: rest =>
    let key := rest.takeWhile (· != ')')
    if !isMapping supply.source then throw (.plain .typeError "format requires a mapping")
    match rest.dropWhile (· != ')') with
    | [] => throw (.plain .valueError "incomplete format key")
    | _ :: rest =>
      let v ← s.item supply.source (.ofText key)
      return (some v, { supply with asked := true }, rest)
  | cs => return (none, supply, cs)

/-- Fills a text, of which `length` characters were there at first. -/
def fillWithin (s : Store) (length : Nat) :
    Nat → Supply → List Char → Except Fault (List Char × Supply)
  | 0, supply, cs => .ok (cs, supply)
  | fuel + 1, supply, cs => do
    match cs with
    | [] => return ([], supply)
    | '%' :: '%' :: rest =>
      let (text, supply) ← fillWithin s length fuel supply rest
      return ('%' :: text, supply)
    | '%' :: rest =>
      let (chosen, supply, rest) ← choose s supply rest
      let (d, rest) := takeDirective rest
      match rest with
      | [] => throw (.plain .valueError "incomplete format")
      | code :: rest =>
        if !("sraiduoxXcefgEFG".toList.contains code) then
          let place := length - rest.length - 1
          let shown := code.toString
          let number := String.ofList (Text.hexDigits 0 code.toNat)
          throw (.plain .valueError
            s!"unsupported format character '{shown}' (0x{number}) at index {place}")
        let (v, supply) ← match chosen with
          | some v => pure (v, supply)
          | none => supply.next
        let first ← written s d code v
        let (text, supply) ← fillWithin s length fuel supply rest
        return (first ++ text, supply)
    | c :: rest =>
      let (text, supply) ← fillWithin s length fuel supply rest
      return (c :: text, supply)

/-- Whether a value that was not used is let through, because it has items of its own. -/
def isLetThrough : Value → Bool
  | .list .. | .dict .. | .bytes .. | .range .. | .classAlias .. | .generic .. | .typing ..
  | .union _ | .bare _ => true
  | _ => false

/-- A text filled with a value. -/
def fill (s : Store) (text : String) (v : Value) : Except Fault Value := do
  let values := match v with
    | .tuple _ items => items
    | v => [v]
  let (filled, supply) ← fillWithin s text.length text.length ⟨values, v, false⟩ text.toList
  if !supply.rest.isEmpty && !supply.asked && !isLetThrough v then
    throw (.plain .typeError "not all arguments converted during string formatting")
  return .ofText filled

end FaultContext.Format.Percent
