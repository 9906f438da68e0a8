/-
# FaultContext.Annotation.Grammar -- the rules of expressions.

Every rule is a plain reading that is given the reading of all rules one level deeper, so
`readWithin` is the only recursion.  Beside the rules stand those that tell what is commonly
written wrong; they are tried in the second reading only, in the order in which they are listed.
-/
import FaultContext.Annotation.Reading

namespace FaultContext.Annotation.Grammar

open Read

/-- The reading of all rules. -/
abbrev Rules := Rule → Read Phrase

/-- A phrase that starts on a line. -/
def phrase (line : Nat) (shape : Shape) : Read Phrase := give (.mk line shape)

/-! ## Expressions with commas -/

/-- Things with commas between them as one phrase: a tuple, unless there is one and no comma. -/
def commaList (item : Read Phrase) : Read Phrase := do
  let start ← line
  oneOf [
    do
      let a ← item
      let rest ← some1 do
        discard (symbol ",")
        item
      discard (attempt (symbol ","))
      phrase start (.tuple (a :: rest)),
    do
      let a ← item
      discard (symbol ",")
      phrase start (.tuple [a]),
    item]

/-- Items of a collection: commas between them and perhaps one more. -/
def items (rules : Rules) : Read (List Phrase) := do
  let all ← gather (rules .starNamedExpression)
  discard (attempt (symbol ","))
  give all

/-! ## Operators -/

/-- Items with a word between them. -/
def logical (rules : Rules) (word : String) (isAnd : Bool) (item : Rule) : Read Phrase := do
  let start ← line
  oneOf [
    do
      let a ← rules item
      let rest ← some1 do
        discard (keyword word)
        rules item
      phrase start (.logical isAnd (a :: rest)),
    rules item]

/-- Operators of one strength, which group from the left. -/
def leftBinary (rules : Rules) (self operand : Rule) (operators : List (String × BinaryOperator)) :
    Read Phrase := do
  let start ← line
  oneOf (operators.map (fun (text, op) => do
    let a ← rules self
    discard (symbol text)
    let b ← rules operand
    phrase start (.binary op a b)) ++ [rules operand])

/-- A comparison and its right side. -/
def comparisonPair (rules : Rules) : Read (Comparison × Phrase) :=
  let by1 (text : String) (c : Comparison) : Read (Comparison × Phrase) := do
    discard (symbol text)
    return (c, ← rules .bitOr)
  oneOf [
    by1 "==" .eq, by1 "!=" .ne, by1 "<=" .le, by1 "<" .lt, by1 ">=" .ge, by1 ">" .gt,
    do
      discard (keyword "not")
      discard (keyword "in")
      return (.notIn, ← rules .bitOr),
    do
      discard (keyword "in")
      return (.isIn, ← rules .bitOr),
    do
      discard (keyword "is")
      discard (keyword "not")
      return (.isNot, ← rules .bitOr),
    do
      discard (keyword "is")
      return (.is, ← rules .bitOr)]

/-- A comparison, perhaps a chain of them. -/
def comparison (rules : Rules) : Read Phrase := do
  let start ← line
  oneOf [
    do
      let a ← rules .bitOr
      let rest ← some1 (comparisonPair rules)
      phrase start (.compare a rest),
    rules .bitOr]

/-- An operator in front of its operand. -/
def unary (text : String) (op : UnaryOperator) (operand : Read Phrase) : Read Phrase := do
  let start ← line
  discard (symbol text)
  let a ← operand
  phrase start (.unary op a)

/-- A power. -/
def power (rules : Rules) : Read Phrase := do
  let start ← line
  oneOf [
    do
      let a ← rules .awaitPrimary
      discard (symbol "**")
      let b ← rules .factor
      phrase start (.binary .pow a b),
    rules .awaitPrimary]

/-! ## What is commonly written wrong in expressions -/

/-- Words that are names but may start a statement. -/
def softKeywords : List String := ["_", "case", "match"]

/-- Whether a name is the start of one of these words. -/
def startsSoftKeyword (id : String) : Bool :=
  softKeywords.any fun word => id.toList.isPrefixOf word.toList

/-- Whether a phrase is the name of something that was a statement once. -/
def isLegacy (p : Phrase) : Bool :=
  match p.shape with
  | .name id => id == "print" || id == "exec"
  | _ => false

/-- The problem of an assignment where a comparison was meant. -/
def maybeAssigned (line : Nat) : Read Unit :=
  stop "invalid syntax. Maybe you meant '==' or ':=' instead of '='?" line

/-- Two expressions beside one another, or a condition without an alternative. -/
def badExpression (rules : Rules) : Read Unit := do
  let beside ← attempt do
    notAhead (oneOf [
      do
        discard name
        discard (tokenIf (·.kind == .quoted)),
      discard (tokenIf fun t => t.kind == .name && startsSoftKeyword t.text)])
    let a ← rules .disjunction
    discard (rules .expressionUndiagnosed)
    return (a, (← lastToken).level)
  match beside with
  | some (a, level) =>
    if isLegacy a || level = 0 then fail
    else stop "invalid syntax. Perhaps you forgot a comma?" a.line
  | none =>
    let a ← rules .disjunction
    discard (keyword "if")
    discard (rules .disjunction)
    notAhead (oneOf [keyword "else", symbol ":"])
    stop "expected 'else' after 'if' expression" a.line

/-- Something that was a statement once and is a function now. -/
def badStatement (rules : Rules) : Read Unit := do
  let a ← name
  notAhead (symbol "(")
  discard (rules .starExpressions)
  if isLegacy (.mk a.line (.name a.text)) then
    let id := a.text
    stop s!"Missing parentheses in call to '{id}'. Did you mean {id}(...)?" a.line
  else fail

/-- An assignment to something that is no name, or with the wrong symbol. -/
def badNamed (rules : Rules) : Read Unit :=
  let notAssigned := notAhead (oneOf [symbol "=", symbol ":="])
  oneOf [
    do
      let a ← rules .expression
      discard (symbol ":=")
      discard (rules .expression)
      stop ("cannot use assignment expressions with " ++ a.kindName) a.line,
    do
      let a ← name
      discard (symbol "=")
      discard (rules .bitOr)
      notAssigned
      maybeAssigned a.line,
    do
      notAhead (oneOf [discard (rules .list), discard (rules .tuple), discard (rules .generator),
        discard (oneOf [keyword "True", keyword "None", keyword "False"])])
      let a ← rules .bitOr
      discard (symbol "=")
      discard (rules .bitOr)
      notAssigned
      stop ("cannot assign to " ++ a.kindName ++ " here. Maybe you meant '==' instead of '='?")
        a.line]

/-! ## Conditions, functions and assignments -/

/-- An expression without its problems. -/
def plainExpression (rules : Rules) (start : Nat) : List (Read Phrase) := [
  do
    let a ← rules .disjunction
    discard (keyword "if")
    let test ← rules .disjunction
    discard (keyword "else")
    let b ← rules .expression
    phrase start (.conditional test a b),
  rules .disjunction,
  rules .function]

/-- A value that gets a name. -/
def assignment (rules : Rules) : Read Phrase := do
  let start ← line
  let id ← name
  discard (symbol ":=")
  let a ← rules .expression
  phrase start (.assign id.text a)

/-- An expression that is not the target of an assignment. -/
def unassigned (rules : Rules) : Read Phrase := do
  let a ← rules .expression
  notAhead (symbol ":=")
  give a

/-- A value, or an assignment, as it stands in brackets. -/
def bracketItem (rules : Rules) : Read Phrase := oneOf [rules .assignment, unassigned rules]

/-- Something that is spread. -/
def starred (item : Read Phrase) : Read Phrase := do
  let start ← line
  discard (symbol "*")
  let a ← item
  phrase start (.starred a)

/-- A value that is handed out on the way. -/
def yieldExpression (rules : Rules) : Read Phrase := do
  let start ← line
  oneOf [
    do
      discard (keyword "yield")
      discard (keyword "from")
      let a ← rules .expression
      phrase start (.yieldsFrom a),
    do
      discard (keyword "yield")
      let a ← attempt (rules .starExpressions)
      phrase start (.yields a)]

/-! ## Parameters -/

/-- A parameter with its line. -/
structure Param where
  id : String
  line : Nat
  default : Option Phrase

/-- What follows a parameter: a comma, or the end of the parameters. -/
def paramEnd : Read Unit := oneOf [discard (symbol ","), ahead (symbol ":")]

/-- A parameter without a default. -/
def bareParam : Read Param := do
  let id ← name
  paramEnd
  return ⟨id.text, id.line, none⟩

/-- The default of a parameter. -/
def default (rules : Rules) : Read Phrase :=
  oneOf [
    do
      discard (symbol "=")
      rules .expression,
    diagnose do
      let sign ← symbol "="
      ahead (oneOf [symbol ")", symbol ","])
      stop "expected default value expression" sign.line]

/-- A parameter with a default. -/
def defaultParam (rules : Rules) : Read Param := do
  let id ← name
  let a ← default rules
  paramEnd
  return ⟨id.text, id.line, some a⟩

/-- A parameter with or without a default. -/
def anyParam (rules : Rules) : Read Param := do
  let id ← name
  let a ← attempt (default rules)
  paramEnd
  return ⟨id.text, id.line, a⟩

/-- The sign behind positional-only parameters. -/
def slashEnd : Read Unit := do
  discard (symbol "/")
  paramEnd

/-- Positional-only parameters without defaults. -/
def slashBare : Read (List Param) := do
  let params ← some1 bareParam
  slashEnd
  give params

/-- Positional-only parameters of which the last ones have defaults. -/
def slashDefault (rules : Rules) : Read (List Param) := do
  let bare ← many bareParam
  let others ← some1 (defaultParam rules)
  slashEnd
  return bare ++ others

/-- Parameters of a kind. -/
def ofKind (kind : ParamKind) (params : List Param) : List Parameter :=
  params.map fun p => .mk p.id kind p.default

/-- What is wrong with a collector of named arguments. -/
def badNamedCollector : Read Unit :=
  oneOf [
    do
      discard (symbol "**")
      discard name
      let sign ← symbol "="
      stop "var-keyword argument cannot have default value" sign.line,
    do
      discard (symbol "**")
      discard name
      discard (symbol ",")
      let a ← oneOf [name, symbol "*", symbol "**", symbol "/"]
      stop "arguments cannot follow var-keyword argument" a.line]

/-- A collector of named arguments. -/
def namedCollector : Read (List Parameter) :=
  oneOf [
    diagnose badNamedCollector,
    do
      discard (symbol "**")
      return ofKind .varKeyword [← bareParam]]

/-- What is wrong with a star among parameters. -/
def badStar (rules : Rules) : Read Unit :=
  oneOf [
    do
      discard (symbol "*")
      oneOf [
        discard (symbol ":"),
        do
          discard (symbol ",")
          discard (oneOf [symbol ":", symbol "**"])]
      stop "named arguments must follow bare *" (← lastLine),
    do
      discard (symbol "*")
      discard name
      let sign ← symbol "="
      stop "var-positional argument cannot have default value" sign.line,
    do
      discard (symbol "*")
      oneOf [discard bareParam, discard (symbol ",")]
      discard (many (anyParam rules))
      let sign ← symbol "*"
      oneOf [discard bareParam, discard (symbol ",")]
      stop "* argument may appear only once" sign.line]

/-- Parameters from the star on. -/
def starParams (rules : Rules) : Read (List Parameter) :=
  let collector : Read (List Parameter) := do return (← attempt namedCollector).getD []
  oneOf [
    diagnose (badStar rules),
    do
      discard (symbol "*")
      let all ← bareParam
      let named ← many (anyParam rules)
      return ofKind .varPositional [all] ++ ofKind .keywordOnly named ++ (← collector),
    do
      discard (symbol "*")
      discard (symbol ",")
      let named ← some1 (anyParam rules)
      return ofKind .keywordOnly named ++ (← collector),
    namedCollector]

/-- What is wrong with parameters. -/
def badParams (rules : Rules) : Read Unit :=
  let slash := oneOf [slashBare, slashDefault rules]
  oneOf [
    do
      discard (many bareParam)
      oneOf [discard (slashDefault rules), discard (some1 (defaultParam rules))]
      let p ← bareParam
      stop "non-default argument follows default argument" p.line,
    do
      discard (many bareParam)
      let bracket ← symbol "("
      discard (gather name)
      discard (attempt (symbol ","))
      discard (symbol ")")
      stop "Lambda expression parameters cannot be parenthesized" bracket.line,
    do
      let sign ← symbol "/"
      discard (symbol ",")
      stop "at least one argument must precede /" sign.line,
    do
      discard slash
      discard (many (anyParam rules))
      let sign ← symbol "/"
      stop "/ may appear only once" sign.line,
    do
      discard (attempt slash)
      discard (many (anyParam rules))
      discard (symbol "*")
      oneOf [discard (symbol ","), discard bareParam]
      discard (many (anyParam rules))
      let sign ← symbol "/"
      stop "/ must be ahead of *" sign.line,
    do
      discard (some1 (anyParam rules))
      discard (symbol "/")
      let sign ← symbol "*"
      stop "expected comma between / and *" sign.line]

/-- The parameters of a function. -/
def params (rules : Rules) : Read (List Parameter) :=
  let star : Read (List Parameter) := do return (← attempt (starParams rules)).getD []
  oneOf [
    diagnose (badParams rules),
    do
      let first ← slashBare
      let bare ← many bareParam
      let others ← many (defaultParam rules)
      return ofKind .positionalOnly first ++ ofKind .standard (bare ++ others) ++ (← star),
    do
      let first ← slashDefault rules
      let others ← many (defaultParam rules)
      return ofKind .positionalOnly first ++ ofKind .standard others ++ (← star),
    do
      let bare ← some1 bareParam
      let others ← many (defaultParam rules)
      return ofKind .standard (bare ++ others) ++ (← star),
    do
      let others ← some1 (defaultParam rules)
      return ofKind .standard others ++ (← star),
    starParams rules]

/-- A function without a name. -/
def function (rules : Rules) : Read Phrase := do
  let start ← line
  discard (keyword "lambda")
  let ps ← attempt (params rules)
  discard (symbol ":")
  let body ← rules .expression
  phrase start (.function (ps.getD []) body)

/-! ## Comprehensions -/

/-- Something that a loop cannot assign to. -/
def badLoop (rules : Rules) : Read Unit := do
  discard (attempt (keyword "async"))
  discard (keyword "for")
  let a ← rules .starExpressions
  match a.badTarget? with
  | some bad => stop ("cannot assign to " ++ bad.kindName) bad.line
  | none => fail

/-- The rest of a loop behind its target: nothing else can be meant. -/
def loopSource (rules : Rules) (target : Phrase) (asynchronous : Bool) : Read Clause := do
  let source ← rules .disjunction
  let conditions ← many do
    discard (keyword "if")
    rules .disjunction
  return .mk target source conditions asynchronous

/-- A loop of a comprehension. -/
def loop (rules : Rules) : Read Clause := do
  let head ← attempt do
    let asynchronous ← attempt (keyword "async")
    discard (keyword "for")
    let target ← rules .starTargets
    discard (keyword "in")
    return (target, asynchronous.isSome)
  match head with
  | some (target, asynchronous) => loopSource rules target asynchronous
  | none => diagnose (badLoop rules)

/-- The loops of a comprehension. -/
def loops (rules : Rules) : Read (List Clause) := some1 (loop rules)

/-- The problem of several targets without parentheses. -/
def bareTargets (line : Nat) : Read Unit :=
  stop "did you forget parentheses around the comprehension target?" line

/-- What is wrong with a comprehension. -/
def badComprehension (rules : Rules) : Read Unit :=
  let square := oneOf [symbol "[", symbol "\x7b"]
  oneOf [
    do
      discard (oneOf [symbol "[", symbol "(", symbol "\x7b"])
      let a ← rules .starredExpression
      discard (loops rules)
      stop "iterable unpacking cannot be used in comprehension" a.line,
    do
      discard square
      let a ← rules .starNamedExpression
      discard (symbol ",")
      discard (items rules)
      discard (loops rules)
      bareTargets a.line,
    do
      discard square
      let a ← rules .starNamedExpression
      discard (symbol ",")
      discard (loops rules)
      bareTargets a.line]

/-- A comprehension between brackets. -/
def comprehension (rules : Rules) (kind : Collection) (opening closing : String)
    (element : Read Phrase) : Read Phrase := do
  let start ← line
  oneOf [
    do
      discard (symbol opening)
      let a ← element
      let clauses ← loops rules
      discard (symbol closing)
      phrase start (.comprehension kind a clauses),
    diagnose (badComprehension rules)]

/-! ## Tables -/

/-- A key and its value. -/
def keyAndValue (rules : Rules) : Read (Option Phrase × Phrase) := do
  let key ← rules .expression
  discard (symbol ":")
  return (some key, ← rules .expression)

/-- An entry of a table, or a table that is spread. -/
def entry (rules : Rules) : Read (Option Phrase × Phrase) :=
  oneOf [
    do
      discard (symbol "**")
      return (none, ← rules .bitOr),
    keyAndValue rules]

/-- What is wrong with the value of an entry. -/
def badValue (rules : Rules) : List (Read Unit) := [
  do
    discard (rules .expression)
    discard (symbol ":")
    let star ← symbol "*"
    discard (rules .bitOr)
    stop "cannot use a starred expression in a dictionary value" star.line,
  do
    discard (rules .expression)
    let colon ← symbol ":"
    ahead (oneOf [symbol "\x7d", symbol ","])
    stop "expression expected after dictionary key and ':'" colon.line]

/-- What is wrong with the entries of a table; this is told in the first reading already. -/
def badEntries (rules : Rules) : Read Unit :=
  oneOf ([
    do
      discard (gather (entry rules))
      discard (symbol ",")
      oneOf ([
        do
          let a ← rules .expression
          notAhead (symbol ":")
          stop "':' expected after dictionary key" a.line] ++ badValue rules)] ++ badValue rules)

/-- A table. -/
def dict (rules : Rules) : Read Phrase := do
  let start ← line
  oneOf [
    do
      discard (symbol "\x7b")
      let entries ← attempt do
        let entries ← gather (entry rules)
        discard (attempt (symbol ","))
        give entries
      discard (symbol "\x7d")
      phrase start (.dict (entries.getD [])),
    do
      discard (symbol "\x7b")
      badEntries rules
      fail]

/-- A comprehension of a table. -/
def dictComprehension (rules : Rules) : Read Phrase := do
  let start ← line
  oneOf [
    do
      discard (symbol "\x7b")
      let (key, value) ← keyAndValue rules
      let clauses ← loops rules
      discard (symbol "\x7d")
      phrase start (.dictComprehension (key.getD value) value clauses),
    diagnose do
      discard (symbol "\x7b")
      let star ← symbol "**"
      discard (rules .bitOr)
      discard (loops rules)
      discard (symbol "\x7d")
      stop "dict unpacking cannot be used in dict comprehension" star.line]

/-! ## Calls -/

/-- What is wrong with a named argument. -/
def badKeyword (rules : Rules) : Read Unit :=
  oneOf [
    do
      let a ← oneOf [keyword "True", keyword "False", keyword "None"]
      discard (symbol "=")
      stop ("cannot assign to " ++ a.text) a.line,
    do
      let a ← name
      discard (symbol "=")
      discard (rules .expression)
      discard (loops rules)
      maybeAssigned a.line,
    do
      notAhead do
        discard name
        discard (symbol "=")
      let a ← rules .expression
      discard (symbol "=")
      stop "expression cannot contain assignment, perhaps you meant \"==\"?" a.line]

/-- A named argument. -/
def namedArgument (rules : Rules) : Read Argument := do
  let id ← name
  discard (symbol "=")
  return .named id.text (← rules .expression)

/-- What a starred phrase spreads. -/
def spreadOf (p : Phrase) : Argument :=
  match p.shape with
  | .starred a => .spread a
  | _ => .positional p

/-- An argument that is named or spread. -/
def namedOrStarred (rules : Rules) : Read Argument :=
  oneOf [
    diagnose (badKeyword rules),
    namedArgument rules,
    do return spreadOf (← rules .starredExpression)]

/-- An argument that is named or a table that is spread. -/
def namedOrSpread (rules : Rules) : Read Argument :=
  oneOf [
    diagnose (badKeyword rules),
    namedArgument rules,
    do
      discard (symbol "**")
      return .spreadNamed (← rules .expression)]

/-- Named arguments. -/
def namedArguments (rules : Rules) : Read (List Argument) :=
  oneOf [
    do
      let first ← gather (namedOrStarred rules)
      discard (symbol ",")
      return first ++ (← gather (namedOrSpread rules)),
    gather (namedOrStarred rules),
    gather (namedOrSpread rules)]

/-- Arguments as they are evaluated: what goes by position comes first. -/
def byPosition (args : List Argument) : List Argument :=
  let isPositional : Argument → Bool
    | .positional _ | .spread _ => true
    | _ => false
  args.filter isPositional ++ args.filter (!isPositional ·)

/-- Arguments that go by position. -/
def positionalArguments (rules : Rules) : Read (List Argument) :=
  gather (oneOf [
    do return spreadOf (← rules .starredExpression),
    do
      let a ← bracketItem rules
      notAhead (symbol "=")
      return .positional a])

/-- Arguments of a call. -/
def args (rules : Rules) : Read (List Argument) :=
  oneOf [
    do
      let first ← positionalArguments rules
      let named ← attempt do
        discard (symbol ",")
        namedArguments rules
      return byPosition (first ++ named.getD []),
    do return byPosition (← namedArguments rules)]

/-- The problem of a comprehension among other arguments. -/
def bareGenerator (line : Nat) : Read Unit :=
  stop "Generator expression must be parenthesized" line

/-- The phrase of an argument that goes by position. -/
def positional? : Argument → Option Phrase
  | .positional a | .spread a => some a
  | _ => none

/-- Whether an argument is a table that is spread. -/
def isSpreadNamed : Argument → Bool
  | .spreadNamed _ => true
  | _ => false

/-- What is wrong with arguments, the first cases. -/
def badArgumentsFirst (rules : Rules) : Read Unit :=
  oneOf [
    do
      oneOf [
        do
          discard (positionalArguments rules)
          discard (symbol ",")
          discard (namedArguments rules),
        discard (namedArguments rules)]
      let comma ← symbol ","
      discard (gather do
        discard (rules .starredExpression)
        notAhead (symbol "="))
      stop "iterable argument unpacking follows keyword argument unpacking" comma.line,
    do
      let a ← rules .expression
      discard (loops rules)
      discard (symbol ",")
      discard (attempt (oneOf [
        discard (args rules),
        do
          discard (rules .expression)
          discard (loops rules)]))
      bareGenerator a.line,
    do
      let a ← name
      discard (symbol "=")
      discard (rules .expression)
      discard (loops rules)
      maybeAssigned a.line]

/-- What is wrong with arguments. -/
def badArguments (rules : Rules) : Read Unit := do
  discard (attempt (badArgumentsFirst rules))
  let looped ← attempt do
    let all ← args rules
    discard (loops rules)
    give all
  match looped with
  | some all =>
    match (all.filterMap positional?).reverse with
    | last :: _ :: _ => bareGenerator last.line
    | _ => fail
  | none =>
    oneOf [
      do
        discard (args rules)
        discard (symbol ",")
        let a ← rules .expression
        discard (loops rules)
        bareGenerator a.line,
      do
        let all ← args rules
        discard (symbol ",")
        discard (args rules)
        let what := if all.any isSpreadNamed then " unpacking" else ""
        stop ("positional argument follows keyword argument" ++ what) (← lastLine)]

/-- The arguments of a call, as a call of nothing. -/
def arguments (rules : Rules) : Read Phrase :=
  oneOf [
    do
      let start ← line
      let all ← args rules
      discard (attempt (symbol ","))
      ahead (symbol ")")
      phrase start (.call (.mk start (.constant .none)) all),
    diagnose (badArguments rules)]

/-- The arguments of a phrase that stands for them. -/
def argumentsOf (p : Option Phrase) : List Argument :=
  match p.map Phrase.shape with
  | some (.call _ all) => all
  | _ => []

/-! ## Primaries -/

/-- A primary with what follows it: an attribute, arguments or an index.  `check` is looked for
behind it. -/
def extensions (rules : Rules) (self : Rule) (start : Nat) (check : Read Unit) :
    List (Read Phrase) :=
  let member : Read Phrase := do
    let a ← rules self
    discard (symbol ".")
    let id ← name
    check
    phrase start (.attribute a id.text)
  let index : Read Phrase := do
    let a ← rules self
    discard (symbol "[")
    let i ← rules .slices
    discard (symbol "]")
    check
    phrase start (.subscript a i)
  let generator : Read Phrase := do
    let a ← rules self
    let g ← rules .generator
    check
    phrase start (.call a [.positional g])
  let call : Read Phrase := do
    let a ← rules self
    discard (symbol "(")
    let all ← attempt (rules .arguments)
    discard (symbol ")")
    check
    phrase start (.call a (argumentsOf all))
  if self = .primary then [member, generator, call, index]
  else [member, index, generator, call]

/-- What follows a primary that is not the end of a target. -/
def extended : Read Unit := discard (oneOf [symbol "(", symbol "[", symbol "."])

/-- A primary. -/
def primary (rules : Rules) : Read Phrase := do
  let start ← line
  oneOf (extensions rules .primary start (give ()) ++ [rules .atom])

/-- A primary that the end of a target follows. -/
def targetPrimary (rules : Rules) : Read Phrase := do
  let start ← line
  oneOf (extensions rules .targetPrimary start (ahead extended) ++ [do
    let a ← rules .atom
    ahead extended
    give a])

/-- What stands between square brackets behind a primary. -/
def slices (rules : Rules) : Read Phrase := do
  let start ← line
  oneOf [
    do
      let a ← rules .slice
      notAhead (symbol ",")
      give a,
    do
      let all ← gather (oneOf [rules .slice, rules .starredExpression])
      discard (attempt (symbol ","))
      phrase start (.tuple all)]

/-- A range of places, or one place. -/
def slice (rules : Rules) : Read Phrase := do
  let start ← line
  oneOf [
    do
      let a ← attempt (rules .expression)
      discard (symbol ":")
      let b ← attempt (rules .expression)
      let c ← attempt do
        discard (symbol ":")
        attempt (rules .expression)
      phrase start (.slice a b (c.getD none)),
    rules .namedExpression]

/-- A number. -/
def number : Read Phrase := do
  let t ← tokenIf (·.kind == .number)
  match numberConstant t.text with
  | .ok c => phrase t.line (.constant c)
  | .error message => stop message t.line

/-- Quoted texts beside one another. -/
def quotedTexts (inner : Nat → InnerReader) : Read Phrase := do
  let start ← line
  let all ← some1 (tokenIf (·.kind == .quoted))
  let last ← lastLine
  phrase start (← orStop (quotedShape (inner start) last all))

/-- A phrase in parentheses, or what is wrong with it. -/
def group (rules : Rules) : Read Phrase :=
  oneOf [
    do
      discard (symbol "(")
      let a ← oneOf [rules .yieldExpression, rules .namedExpression]
      discard (symbol ")")
      give a,
    diagnose (oneOf [
      do
        discard (symbol "(")
        let a ← rules .starredExpression
        discard (symbol ")")
        stop "cannot use starred expression here" a.line,
      do
        discard (symbol "(")
        let star ← symbol "**"
        discard (rules .expression)
        discard (symbol ")")
        stop "cannot use double starred expression here" star.line])]

/-- A tuple in parentheses. -/
def tuple (rules : Rules) : Read Phrase := do
  let start ← line
  discard (symbol "(")
  let all ← attempt do
    let first ← rules .starNamedExpression
    discard (symbol ",")
    return first :: ((← attempt (items rules)).getD [])
  discard (symbol ")")
  phrase start (.tuple (all.getD []))

/-- The smallest phrases. -/
def atom (rules : Rules) : Read Phrase := do
  let start ← line
  let constant (word : String) (c : Constant) : Read Phrase := do
    discard (keyword word)
    phrase start (.constant c)
  oneOf [
    do
      let id ← name
      phrase start (.name id.text),
    constant "True" (.bool true),
    constant "False" (.bool false),
    constant "None" .none,
    do
      ahead (tokenIf (·.kind == .quoted))
      rules .quotedTexts,
    number,
    do
      ahead (symbol "(")
      oneOf [rules .tuple, rules .group, rules .generator],
    do
      ahead (symbol "[")
      oneOf [rules .list, rules .listComprehension],
    do
      ahead (symbol "\x7b")
      oneOf [rules .dict, rules .set, rules .dictComprehension, rules .setComprehension],
    do
      discard (symbol "...")
      phrase start (.constant .ellipsis)]

/-! ## Targets of loops -/

/-- Several targets. -/
def starTargets (rules : Rules) : Read Phrase := do
  let start ← line
  oneOf [
    do
      let a ← rules .starTarget
      notAhead (symbol ",")
      give a,
    do
      let a ← rules .starTarget
      let rest ← many do
        discard (symbol ",")
        rules .starTarget
      discard (attempt (symbol ","))
      phrase start (.tuple (a :: rest))]

/-- A target that takes one value. -/
def targetWithStarAtom (rules : Rules) : Read Phrase := do
  let start ← line
  oneOf [
    do
      let a ← rules .targetPrimary
      discard (symbol ".")
      let id ← name
      notAhead extended
      phrase start (.attribute a id.text),
    do
      let a ← rules .targetPrimary
      discard (symbol "[")
      let i ← rules .slices
      discard (symbol "]")
      notAhead extended
      phrase start (.subscript a i),
    rules .starAtom]

/-- A name, or targets in brackets. -/
def starAtom (rules : Rules) : Read Phrase := do
  let start ← line
  oneOf [
    do
      let id ← name
      phrase start (.name id.text),
    do
      discard (symbol "(")
      let a ← rules .targetWithStarAtom
      discard (symbol ")")
      give a,
    do
      discard (symbol "(")
      let all ← attempt (oneOf [
        do
          let a ← rules .starTarget
          let rest ← some1 do
            discard (symbol ",")
            rules .starTarget
          discard (attempt (symbol ","))
          return a :: rest,
        do
          let a ← rules .starTarget
          discard (symbol ",")
          return [a]])
      discard (symbol ")")
      phrase start (.tuple (all.getD [])),
    do
      discard (symbol "[")
      let all ← attempt do
        let all ← gather (rules .starTarget)
        discard (attempt (symbol ","))
        give all
      discard (symbol "]")
      phrase start (.list (all.getD []))]

/-! ## All rules -/

/-- The reading of a rule, given that of all rules one level deeper. -/
def read (inner : Nat → InnerReader) (rules : Rules) : Rule → Read Phrase
  | .expressions => commaList (rules .expression)
  | .expression => do
    let start ← line
    oneOf (diagnose (badExpression rules) :: diagnose (badStatement rules) ::
      plainExpression rules start)
  | .expressionUndiagnosed => undiagnosed do
    let start ← line
    oneOf (plainExpression rules start)
  | .disjunction => logical rules "or" false .conjunction
  | .conjunction => logical rules "and" true .inversion
  | .inversion => do
    let start ← line
    oneOf [
      do
        discard (keyword "not")
        let a ← rules .inversion
        phrase start (.unary .not a),
      rules .comparison]
  | .comparison => comparison rules
  | .bitOr => leftBinary rules .bitOr .bitXor [("|", .or)]
  | .bitXor => leftBinary rules .bitXor .bitAnd [("^", .xor)]
  | .bitAnd => leftBinary rules .bitAnd .shift [("&", .and)]
  | .shift => leftBinary rules .shift .sum [("<<", .shiftLeft), (">>", .shiftRight)]
  | .sum => leftBinary rules .sum .term [("+", .add), ("-", .sub)]
  | .term =>
    leftBinary rules .term .factor
      [("*", .mul), ("/", .div), ("//", .floorDiv), ("%", .mod), ("@", .matMul)]
  | .factor =>
    oneOf [unary "+" .plus (rules .factor), unary "-" .minus (rules .factor),
      unary "~" .invert (rules .factor), rules .power]
  | .power => power rules
  | .awaitPrimary => do
    let start ← line
    oneOf [
      do
        discard (keyword "await")
        let a ← rules .primary
        phrase start (.awaits a),
      rules .primary]
  | .primary => primary rules
  | .atom => atom rules
  | .starExpressions => commaList (rules .starExpression)
  | .starExpression => oneOf [starred (rules .bitOr), rules .expression]
  | .namedExpression =>
    oneOf [rules .assignment, diagnose (badNamed rules), unassigned rules]
  | .starNamedExpression => oneOf [starred (rules .bitOr), rules .namedExpression]
  | .assignment => assignment rules
  | .starredExpression =>
    oneOf [
      starred (rules .expression),
      do
        discard (symbol "*")
        stop "Invalid star expression" (← lastLine)]
  | .yieldExpression => yieldExpression rules
  | .slices => slices rules
  | .slice => slice rules
  | .group => group rules
  | .tuple => tuple rules
  | .list => do
    let start ← line
    discard (symbol "[")
    let all ← attempt (items rules)
    discard (symbol "]")
    phrase start (.list (all.getD []))
  | .set => do
    let start ← line
    discard (symbol "\x7b")
    let all ← items rules
    discard (symbol "\x7d")
    phrase start (.set all)
  | .dict => dict rules
  | .listComprehension => comprehension rules .list "[" "]" (rules .namedExpression)
  | .setComprehension => comprehension rules .set "\x7b" "\x7d" (rules .namedExpression)
  | .dictComprehension => dictComprehension rules
  | .generator => comprehension rules .generator "(" ")" (bracketItem rules)
  | .function => function rules
  | .quotedTexts => quotedTexts inner
  | .arguments => arguments rules
  | .starTargets => starTargets rules
  | .starTarget =>
    oneOf [
      starred do
        notAhead (symbol "*")
        rules .starTarget,
      rules .targetWithStarAtom]
  | .targetWithStarAtom => targetWithStarAtom rules
  | .starAtom => starAtom rules
  | .targetPrimary => targetPrimary rules

/-- The reading of all rules that are nested at most as deep as the given number. -/
def readWithin (inner : Nat → InnerReader) : Nat → Rules
  | 0, _ => fail
  | depth + 1, r =>
    let rules := readWithin inner depth
    if r.remembers then remembering r (read inner rules r)
    else if r.grows then growing r (read inner rules r)
    else read inner rules r

/-- A whole text: an expression and the ends of lines. -/
def whole (rules : Rules) : Read Phrase := do
  let a ← rules .expressions
  discard (many (tokenIf (·.kind == .newline)))
  discard (tokenIf (·.kind == .ending))
  give a

/-! ## Telling of problems -/

/-- The problem that is told in the place of one that a reading found: a break of the words behind
it comes first.  A bracket that is never closed is looked for only if there is anything to look
through. -/
def foremost (w : Words) (seen : Nat) (atEnd : Bool) (problem : Problem) : Problem :=
  match w.ending with
  | .complete => problem
  | .broken other true => other
  | .broken _ false =>
    match w.opened with
    | some bracket =>
      let line := (w.tokens[seen - 1]?.map Token.line).getD 0
      if bracket.2 < line && !atEnd then Scan.neverClosed bracket else problem
    | none => problem

/-- The problem of a text that no rule fits and in which nothing is recognized as commonly wrong:
it is put down to the last token that was looked at. -/
def unrecognized (w : Words) (last : Option Token) (seen : Nat) : Problem :=
  match last with
  | some t =>
    match t.kind with
    | .indent => ⟨.indentationError, "unexpected indent", t.line⟩
    | .dedent => ⟨.indentationError, "unexpected unindent", t.line⟩
    | _ => foremost w seen false (.plain "invalid syntax" t.line)
  | none => .plain "invalid syntax" 1

/-- Reads words: at first for a phrase, and then, if there is none, for what is wrong. -/
def readWords (w : Words) (m : Read Phrase) : Except Problem Phrase :=
  let memory := Array.replicate (w.tokens.size + 1) []
  match m w ⟨0, 0, false, memory⟩ with
  | .ok (some p, _) => .ok p
  | .error stop => .error (toldOf stop)
  | .ok (none, p) =>
    let last := w.tokens[p.seen - 1]?
    match m w ⟨0, p.seen, true, memory⟩ with
    | .ok (_, q) => .error (unrecognized w last q.seen)
    | .error stop => .error (toldOf stop)
where
  toldOf (stop : Stop) : Problem :=
    if stop.inWords then stop.problem
    else foremost w stop.seen (w.endsAtOnce && stop.seen = w.tokens.size) stop.problem

/-- How deep rules can be nested in a text of words. -/
def depthOf (w : Words) : Nat := 40 * (w.tokens.size + 2)

/-- Reads an expression that stands inside a text, which may be nested in others: such a text is
put in parentheses. -/
def readInner : Nat → Nat → InnerReader
  | 0, line, _ => .error (.plain "f-string: expressions nested too deeply" line)
  | depth + 1, line, cs =>
    let w := Words.ofText ('(' :: cs ++ [')', '\n'])
    (readWords w (readWithin (readInner depth) (depthOf w) .starExpressions)).mapError fun p =>
      let isUrgent := match w.ending with
        | .broken q true => q.message == p.message
        | _ => false
      { p with
        message := if isUrgent then p.message else "f-string: " ++ p.message
        line := p.line + line - 1 }

/-- Reads a whole text. -/
def readText (cs : List Char) : Except Problem Phrase :=
  let w := Words.ofText cs
  readWords w (whole (readWithin (readInner cs.length) (depthOf w)))

end FaultContext.Annotation.Grammar
