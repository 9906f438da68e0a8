/-
# FaultContext.Signature.Call -- arguments as a function body sees them.

A call gives positional arguments to the first parameters, then looks at the named arguments in the
order in which they are written, and checks in this order: names that fit no parameter or a
parameter twice, too many positional arguments, missing positional arguments, missing keyword-only
arguments. A collector of named arguments takes every name that no parameter may take, those of
positional-only parameters included.
-/
import FaultContext.Signature.Binding

namespace FaultContext.Signature

/-- The parameters that positional arguments can go to. -/
def positionalParams (s : Signature) : List Param := s.filter Param.takesPositional

/-- The parameters that only named arguments can go to. -/
def keywordParams (s : Signature) : List Param := s.filter (·.kind = .keywordOnly)

/-- The parameter of a kind, for kinds of which there is at most one. -/
def collector? (s : Signature) (kind : ParamKind) : Option Param := s.find? (·.kind = kind)

/-- Gives one named argument to a parameter or to the collector. -/
def placeNamed (s : Signature) (all : Named) (placed : Named × Named) (arg : String × Value) :
    Except CallFault (Named × Named) :=
  let (slots, extra) := placed
  let (name, v) := arg
  if s.any fun p => p.takesNamed && p.name = name then
    if slots.has name then .error (.multipleValues name) else .ok (slots ++ [(name, v)], extra)
  else if (s.collector? .varKeyword).isSome then .ok (slots, extra ++ [(name, v)])
  else
    let wrong := (s.filter fun p => p.kind = .positionalOnly && all.has p.name).map Param.name
    if wrong.isEmpty then .error (.unexpectedKeyword name)
    else .error (.positionalOnlyAsKeyword wrong)

/-- The parameters of a list that have neither an argument nor a default. -/
def missingFrom (params : List Param) (slots : Named) : List String :=
  (params.filter fun p => !slots.has p.name && p.default.isNone).map Param.name

/-- What every parameter holds in a call, or why the arguments do not fit. -/
def enter (s : Signature) (args : List Value) (named : Named) : Except CallFault Named := do
  let positional := s.positionalParams
  let given := positional.zip args |>.map fun (p, v) => (p.name, v)
  let (slots, extra) ← named.foldlM (s.placeNamed named) (given, [])
  if positional.length < args.length && (s.collector? .varPositional).isNone then
    let optional := (positional.filter (·.default.isSome)).length
    let namedOnly := (s.keywordParams.filter fun p => slots.has p.name).length
    .error
      (.tooManyPositional (positional.length - optional) positional.length args.length namedOnly)
  let missing := missingFrom positional slots
  if !missing.isEmpty then .error (.missing true missing)
  let missing := missingFrom s.keywordParams slots
  if !missing.isEmpty then .error (.missing false missing)
  return s.filterMap fun p =>
    match p.kind with
    | .varPositional => some (p.name, .tuple .fresh (args.drop positional.length))
    | .varKeyword => some (p.name, collected extra)
    | _ => (slots.get? p.name).or p.default |>.map (p.name, ·)

/-- The order in which a function body lists its parameters: collectors come last. -/
def localOrder (s : Signature) : List String :=
  ((s.filter fun p => !p.isCollector) ++ s.filter (·.kind = .varPositional) ++
    s.filter (·.kind = .varKeyword)).map Param.name

end FaultContext.Signature
