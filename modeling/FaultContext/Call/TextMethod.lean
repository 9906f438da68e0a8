/-
# FaultContext.Call.TextMethod -- the methods of texts.

A method of a text never changes the text.  Places are counted in characters.  Arguments that do not
fit are refused by type before anything else is looked at.
-/
import FaultContext.Call.Builtin
import FaultContext.Text.Identifier
import FaultContext.Text.LowerCase

namespace FaultContext.TextMethod

open Eval

/-! ## Searching -/

/-- The first place at which a part stands in a text, if there is one. -/
def findFrom (part : List Char) : Nat → List Char → Option Nat
  | k, [] => if part.isEmpty then some k else none
  | k, c :: rest =>
    if part.isPrefixOf (c :: rest) then some k else findFrom part (k + 1) rest

/-- The last place at which a part stands in a text, if there is one. -/
def findLast (part text : List Char) : Option Nat :=
  (findFrom part.reverse 0 text.reverse).map fun k => text.length - k - part.length

/-- Splits a text at a separator, at most `most` times. -/
def splitAt (sep : List Char) : Nat → Option Nat → List Char → List Char → List (List Char)
  | 0, _, piece, rest => [piece.reverse ++ rest]
  | _ + 1, _, piece, [] => [piece.reverse]
  | fuel + 1, most, piece, c :: rest =>
    if most != some 0 && sep.isPrefixOf (c :: rest) then
      piece.reverse :: splitAt sep fuel (most.map (· - 1)) [] ((c :: rest).drop sep.length)
    else splitAt sep fuel most (c :: piece) rest

/-- Splits a text at blanks, at most `most` times; blanks at the ends are dropped. -/
def splitBlank : Nat → Option Nat → List Char → List (List Char)
  | 0, _, _ => []
  | fuel + 1, most, cs =>
    match cs.dropWhile Text.isBlank with
    | [] => []
    | rest =>
      if most == some 0 then [(rest.reverse.dropWhile Text.isBlank).reverse]
      else
        rest.takeWhile (!Text.isBlank ·) ::
          splitBlank fuel (most.map (· - 1)) (rest.dropWhile (!Text.isBlank ·))

/-- How often a part stands in a text without overlaps. -/
def occurrences (part text : List Char) : Nat :=
  if part.isEmpty then text.length + 1
  else (splitAt part (text.length + 1) none [] text).length - 1

/-- A text with every occurrence of a part replaced, at most `most` of them. -/
def replaced (old new : List Char) (most : Option Nat) (text : List Char) : List Char :=
  if old.isEmpty then
    let count := match most with
      | some n => min n (text.length + 1)
      | none => text.length + 1
    let spread := (text.take (count - 1)).flatMap fun c => c :: new
    if count = 0 then text else new ++ spread ++ text.drop (count - 1)
  else new.intercalate (splitAt old (text.length + 1) most [] text)

/-! ## Cases -/

/-- A text whose first character alone is in upper case. -/
def capitalized (t : String) : String :=
  match t.toList with
  | [] => ""
  | c :: rest => Text.upper c.toString ++ Text.lower (String.ofList rest)

/-- Whether a character has two cases. -/
def isCased (c : Char) : Bool := Text.upperChar c != [c] || Text.lowerChar c != [c]

/-- A text in which every word begins with an upper-case character. -/
def titled (inWord : Bool) : List Char → List Char
  | [] => []
  | c :: rest =>
    (if inWord then Text.lowerChar c else Text.upperChar c) ++ titled (isCased c) rest

/-- A character in the other case. -/
def otherCase (c : Char) : List Char :=
  if Text.upperChar c != [c] then Text.upperChar c else Text.lowerChar c

/-! ## Arguments -/

/-- The text that an argument has to be. -/
def textArgument (complaint : String → String) (v : Value) : Eval String := do
  match v with
  | .str _ t => return t
  | v => Builtin.complain (complaint ((← store).typeName v))

/-- The texts that items have to be. -/
def joinable : Nat → List Value → Eval (List String)
  | _, [] => return []
  | k, v :: rest => do
    let t ← textArgument (fun type => s!"sequence item {k}: expected str instance, {type} found") v
    return t :: (← joinable (k + 1) rest)

/-- The limit of a number of splits; a negative one is no limit. -/
def limit (v : Option Value) : Eval (Option Nat) := do
  match v with
  | none => return none
  | some v =>
    match ← Builtin.integerArgument v with
    | .ofNat n => return some n
    | .negSucc _ => return none

/-- Whether a text begins or ends with one of several parts. -/
def hasEnd (method : String) (test : List Char → Bool) (v : Value) : Eval Value := do
  let complaint (type : String) :=
    method ++ " first arg must be str or a tuple of str, not " ++ type
  let parts ← match v with
    | .tuple _ items => items.mapM (textArgument complaint)
    | v => do pure [← textArgument complaint v]
  return .bool (parts.any fun p => test p.toList)

/-- The characters that are stripped. -/
def stripped (v : Option Value) : Eval (Char → Bool) := do
  match v with
  | none | some .none => return Text.isBlank
  | some v =>
    let t ← textArgument (fun _ => "strip arg must be None or str") v
    return fun c => t.toList.contains c

/-- The pieces of a text as a list of texts. -/
def pieces (items : List (List Char)) : Value := .list .fresh (items.map .ofText)

/-- Splits a text. -/
def split (t : List Char) (sep most : Option Value) : Eval Value := do
  let most ← limit most
  match sep with
  | none | some .none => return pieces (splitBlank (t.length + 1) most t)
  | some v =>
    let sep ← textArgument (fun type => "must be str or None, not " ++ type) v
    if sep.isEmpty then fault (.plain .valueError "empty separator")
    else return pieces (splitAt sep.toList (t.length + 1) most [] t)

/-- A text padded on both sides. -/
def padded (align : Format.Align) (t : List Char) (width : Value) (fill : Option Value) :
    Eval Value := do
  let width ← Builtin.integerArgument width
  let fill ← match fill with
    | some (.str _ f) => pure (f.toList.headD ' ')
    | _ => pure ' '
  let (before, after) := Format.padding align (width.toNat - t.length)
  return .ofText (List.replicate before fill ++ t ++ List.replicate after fill)

/-! ## Methods -/

/-- Calls a method of a text; nothing where there is no such method. -/
def call? (engine : Engine) (t : String) (name : String) (args : List Value) (named : Named) :
    Option (Eval Value) :=
  let cs := t.toList
  let wanted (type : String) := "must be str, not " ++ type
  let place (found : Option Nat) : Value :=
    .int .fresh (match found with
      | some k => (k : Int)
      | none => -1)
  let need (found : Option Nat) : Eval Value :=
    match found with
    | some k => pure (.int .fresh k)
    | none => fault (.plain .valueError "substring not found")
  match name, args with
  | "upper", [] => some (pure (.str .fresh (Text.upper t)))
  | "lower", [] | "casefold", [] => some (pure (.str .fresh (Text.lower t)))
  | "capitalize", [] => some (pure (.str .fresh (capitalized t)))
  | "title", [] => some (pure (.ofText (titled false cs)))
  | "swapcase", [] => some (pure (.ofText (cs.flatMap otherCase)))
  | "strip", args => some do
    let out ← stripped args.head?
    return .ofText ((cs.dropWhile out).reverse.dropWhile out).reverse
  | "lstrip", args => some do return .ofText (cs.dropWhile (← stripped args.head?))
  | "rstrip", args => some do
    return .ofText (cs.reverse.dropWhile (← stripped args.head?)).reverse
  | "split", args => some
    (split cs (args[0]?.orElse fun _ => named.get? "sep")
      (args[1]?.orElse fun _ => named.get? "maxsplit"))
  | "join", [v] => some do
    let s ← store
    if !Items.isIterator s v && !(s.iterate v).isOk then
      Builtin.complain "can only join an iterable"
    let items ← Items.take engine v
    return .str .fresh (t.intercalate (← joinable 0 items))
  | "replace", old :: new :: rest => some do
    let old ← textArgument (fun type => "replace() argument 1 must be str, not " ++ type) old
    let new ← textArgument (fun type => "replace() argument 2 must be str, not " ++ type) new
    return .ofText (replaced old.toList new.toList (← limit rest.head?) cs)
  | "startswith", [v] => some (hasEnd "startswith" (·.isPrefixOf cs) v)
  | "endswith", [v] => some (hasEnd "endswith" (·.isSuffixOf cs) v)
  | "find", [v] => some do return place (findFrom (← textArgument wanted v).toList 0 cs)
  | "rfind", [v] => some do return place (findLast (← textArgument wanted v).toList cs)
  | "index", [v] => some do need (findFrom (← textArgument wanted v).toList 0 cs)
  | "rindex", [v] => some do need (findLast (← textArgument wanted v).toList cs)
  | "count", [v] => some do
    return .int .fresh (occurrences (← textArgument wanted v).toList cs)
  | "format", args => some do
    return .str .fresh (← lift (Format.render (← store) ⟨args, named⟩ t))
  | "removeprefix", [v] => some do
    let part := (← textArgument wanted v).toList
    return .ofText (if part.isPrefixOf cs then cs.drop part.length else cs)
  | "removesuffix", [v] => some do
    let part := (← textArgument wanted v).toList
    return .ofText (if part.isSuffixOf cs then cs.take (cs.length - part.length) else cs)
  | "partition", [v] => some do
    let sep := (← textArgument wanted v).toList
    if sep.isEmpty then fault (.plain .valueError "empty separator")
    match findFrom sep 0 cs with
    | some k =>
      return .tuple .fresh
        [.ofText (cs.take k), .ofText sep, .ofText (cs.drop (k + sep.length))]
    | none => return .tuple .fresh [.ofText cs, .ofText [], .ofText []]
  | "zfill", [v] => some do
    let width ← Builtin.integerArgument v
    let zeros := List.replicate (width.toNat - cs.length) '0'
    match cs with
    | c :: rest =>
      if c == '+' || c == '-' then return .ofText (c :: zeros ++ rest)
      else return .ofText (zeros ++ cs)
    | [] => return .ofText zeros
  | "center", width :: fill => some (padded .center cs width fill.head?)
  | "ljust", width :: fill => some (padded .left cs width fill.head?)
  | "rjust", width :: fill => some (padded .right cs width fill.head?)
  | "isdigit", [] => some (pure (.bool (!cs.isEmpty && cs.all Text.isDigit)))
  | "isspace", [] => some (pure (.bool (!cs.isEmpty && cs.all Text.isBlank)))
  | "isascii", [] => some (pure (.bool (cs.all (·.toNat < 128))))
  | "isidentifier", [] =>
    some (pure (.bool (match cs with
      | [] => false
      | c :: rest => Text.isNameStart c && rest.all Text.isNameRest)))
  | "isalpha", [] => some (pure (.bool (!cs.isEmpty && cs.all Char.isAlpha)))
  | "isalnum", [] => some (pure (.bool (!cs.isEmpty && cs.all Char.isAlphanum)))
  | "isupper", [] => some (pure (.bool (Text.upper t == t && cs.any isCased)))
  | "islower", [] => some (pure (.bool (Text.lower t == t && cs.any isCased)))
  | "encode", _ => some (pure (.bytes .fresh (t.toUTF8.toList.map UInt8.toNat)))
  | _, _ => none

end FaultContext.TextMethod
