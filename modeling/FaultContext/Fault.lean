/-
# FaultContext.Fault -- why an operation of the language raises.

A fault is a cause.  Which class of exception it raises and what arguments the exception carries is
said in `Fault.cls` and `Fault.args`, and nowhere else; the wording is the last step, so everything
before it can speak of causes.  Names of classes and functions stand in a fault as text, because
that is all that the wording needs of them.

Deliberately not here: exceptions that a program raises itself, and the diagnostics about templates,
which are checked before anything runs (`FaultContext.Template.Parse`).
-/
import FaultContext.Format.Markup
import FaultContext.Format.Spec
import FaultContext.Value.Basic

namespace FaultContext

open Format (MarkupFault PathFault SpecFault messageChar)

/-- Why arguments do not fit the parameters of a function. -/
inductive CallFault where
  | unexpectedKeyword (name : String)
  | positionalOnlyAsKeyword (names : List String)
  | multipleValues (name : String)
  | tooManyPositional (least most given namedOnly : Nat)
  | missing (positional : Bool) (names : List String)
  deriving DecidableEq, Repr

/-- Why arguments cannot be bound to a signature.  `ended` tells that the parameters, or the
positional arguments, had run out when it was noticed. -/
inductive BindFault where
  | tooMany (ended : Bool)
  | positionalOnly (name : String) (ended : Bool)
  | multipleValues (name : String)
  | missing (name : String)
  | unexpected (name : String)
  deriving DecidableEq, Repr

/-- Why a value cannot be used in an operation. -/
inductive Fault where
  -- texts
  | unprintable
  | textIsNotText (type : String)
  | endlessText
  | integerTooLong
  -- format texts
  | markup (fault : MarkupFault)
  | path (fault : PathFault)
  | spec (fault : SpecFault)
  | automaticAfterManual
  | manualAfterAutomatic
  | replacementIndex (index : Nat)
  | unknownConversion (c : Char)
  | nestedTooDeep
  | noSpecification (type : String)
  -- access
  | missingKey (key : Value)
  | noAttribute (type name : String)
  | noClassAttribute (cls name : String)
  | indexRange (sequence : String)
  | placeRange
  | notSubscriptable (type : String)
  | classNotSubscriptable (cls : String)
  | sequenceIndex (sequence type : String)
  | textIndex (type : String)
  | unhashable (type : String)
  -- operators
  | operands (operator left right : String)
  | concatenate (sequence type : String)
  | repeatCount (type : String)
  | countRange
  | notOrdered (operator left right : String)
  | integerDivision
  | floatDivision
  | floatRange
  | noLength (type : String)
  | notIterable (type : String)
  | notCallable (type : String)
  | notAwaitable (type : String)
  | badAbsolute (type : String)
  | notInteger (type : String)
  | integerLiteral (base : Nat) (text : String)
  | integerDigits (count : Nat)
  | floatLiteral (text : String)
  | infiniteInteger
  | nanInteger
  -- calls
  | call (function : String) (fault : CallFault)
  | repeatedKeyword (function name : String)
  | binding (fault : BindFault)
  | givenArguments (callable : String)
  | iterationEnd
  | plain (cls : Standard) (message : String)
  -- exceptions
  | notRaisable
  | causeNotException
  | assignedCause (link : String)
  /-- The second fault arises while the first one is being handled, which may be its cause. -/
  | during (first second : Fault) (asCause : Bool)

/-! ## The wording of call faults -/

/-- Names in quotes, the last one joined by "and". -/
def quotedNames (names : List String) : String :=
  match names.map fun n => "'" ++ n ++ "'" with
  | [] => ""
  | [a] => a
  | [a, b] => a ++ " and " ++ b
  | quoted => ", ".intercalate quoted.dropLast ++ ", and " ++ quoted.getLastD ""

/-- An `s` where there is not exactly one. -/
def plural (n : Nat) : String := if n = 1 then "" else "s"

/-- What is wrong with a call, to be read after the name of the function. -/
def CallFault.message : CallFault → String
  | .unexpectedKeyword name => " got an unexpected keyword argument '" ++ name ++ "'"
  | .positionalOnlyAsKeyword names =>
    " got some positional-only arguments passed as keyword arguments: '" ++
      ", ".intercalate names ++ "'"
  | .multipleValues name => " got multiple values for argument '" ++ name ++ "'"
  | .tooManyPositional least most given namedOnly =>
    let takes := if least = most then toString most else s!"from {least} to {most}"
    let extra :=
      if namedOnly = 0 then ""
      else s!" positional argument{plural given} (and {namedOnly} keyword-only " ++
        s!"argument{plural namedOnly})"
    let were := if given = 1 && namedOnly = 0 then "was" else "were"
    let ending := if least = most then plural most else "s"
    s!" takes {takes} positional argument{ending} but {given}{extra} {were} given"
  | .missing positional names =>
    let kind := if positional then "positional" else "keyword-only"
    s!" missing {names.length} required {kind} argument{plural names.length}: " ++
      quotedNames names

/-- What is wrong with a binding. -/
def BindFault.message : BindFault → String
  | .tooMany _ => "too many positional arguments"
  | .positionalOnly name _ =>
    Text.quoted name ++ " parameter is positional only, but was passed as a keyword"
  | .multipleValues name => "multiple values for argument " ++ Text.quoted name
  | .missing name => "missing a required argument: " ++ Text.quoted name
  | .unexpected name => "got an unexpected keyword argument " ++ Text.quoted name

/-- A fault of a binding: what had run out is noticed first. -/
def BindFault.toFault : BindFault → Fault
  | .tooMany true => .during .iterationEnd (.binding (.tooMany true)) false
  | .positionalOnly name true => .during .iterationEnd (.binding (.positionalOnly name true)) false
  | fault => .binding fault

/-! ## Classes and arguments -/

namespace Fault

/-- The class of the exception that a fault raises. -/
def cls : Fault → Standard
  | .unprintable | .integerTooLong | .markup _ | .path _ | .automaticAfterManual
  | .manualAfterAutomatic | .unknownConversion _ | .nestedTooDeep | .integerLiteral ..
  | .integerDigits _ | .floatLiteral _ | .nanInteger | .givenArguments _ => .valueError
  | .spec fault => if fault.isOverflow then .overflowError else .valueError
  | .endlessText => .recursionError
  | .replacementIndex _ | .indexRange _ | .placeRange => .indexError
  | .missingKey _ => .keyError
  | .noAttribute .. | .noClassAttribute .. => .attributeError
  | .integerDivision | .floatDivision => .zeroDivisionError
  | .floatRange | .infiniteInteger | .countRange => .overflowError
  | .iterationEnd => .stopIteration
  | .plain cls _ => cls
  | .during _ second _ => second.cls
  | _ => .typeError

/-- The message for a text that is not an integer shows no more than this of it. -/
def shownLiteral : Nat := 200

/-- The wording of a fault. -/
def message : Fault → String
  | .unprintable => "bad str"
  | .textIsNotText type => s!"__str__ returned non-string (type {type})"
  | .endlessText => "maximum recursion depth exceeded"
  | .integerTooLong => SpecFault.integerTooLong.message
  | .markup fault => fault.message
  | .path fault => fault.message
  | .spec fault => fault.message
  | .automaticAfterManual =>
    "cannot switch from manual field specification to automatic field numbering"
  | .manualAfterAutomatic =>
    "cannot switch from automatic field numbering to manual field specification"
  | .replacementIndex index =>
    s!"Replacement index {index} out of range for positional args tuple"
  | .unknownConversion c => "Unknown conversion specifier " ++ messageChar 127 c
  | .nestedTooDeep => "Max string recursion exceeded"
  | .noSpecification type => s!"unsupported format string passed to {type}.__format__"
  | .missingKey _ => ""
  | .noAttribute type name => s!"'{type}' object has no attribute '{name}'"
  | .noClassAttribute cls name => s!"type object '{cls}' has no attribute '{name}'"
  | .indexRange sequence => s!"{sequence} index out of range"
  | .placeRange | .countRange => "cannot fit 'int' into an index-sized integer"
  | .notSubscriptable type => s!"'{type}' object is not subscriptable"
  | .classNotSubscriptable cls => s!"type '{cls}' is not subscriptable"
  | .sequenceIndex sequence type =>
    s!"{sequence} indices must be integers or slices, not {type}"
  | .textIndex type => s!"string indices must be integers, not '{type}'"
  | .unhashable type => s!"unhashable type: '{type}'"
  | .operands operator left right =>
    s!"unsupported operand type(s) for {operator}: '{left}' and '{right}'"
  | .concatenate sequence type =>
    s!"can only concatenate {sequence} (not \"{type}\") to {sequence}"
  | .repeatCount type => s!"can't multiply sequence by non-int of type '{type}'"
  | .notOrdered operator left right =>
    s!"'{operator}' not supported between instances of '{left}' and '{right}'"
  | .integerDivision => "integer division or modulo by zero"
  | .floatDivision => "float floor division by zero"
  | .floatRange => "int too large to convert to float"
  | .noLength type => s!"object of type '{type}' has no len()"
  | .notIterable type => s!"'{type}' object is not iterable"
  | .notCallable type => s!"'{type}' object is not callable"
  | .notAwaitable type => s!"object {type} can't be used in 'await' expression"
  | .badAbsolute type => s!"bad operand type for abs(): '{type}'"
  | .notInteger type =>
    s!"int() argument must be a string, a bytes-like object or a real number, not '{type}'"
  | .integerLiteral base text =>
    s!"invalid literal for int() with base {base}: " ++
      String.ofList ((Text.quoted text).toList.take shownLiteral)
  | .integerDigits count =>
    s!"Exceeds the limit (4300 digits) for integer string conversion: value has {count} " ++
      "digits; use sys.set_int_max_str_digits() to increase the limit"
  | .floatLiteral text => "could not convert string to float: " ++ Text.quoted text
  | .infiniteInteger => "cannot convert float infinity to integer"
  | .nanInteger => "cannot convert float NaN to integer"
  | .call function fault => function ++ "()" ++ fault.message
  | .repeatedKeyword function name =>
    s!"{function}() got multiple values for keyword argument '{name}'"
  | .binding fault => fault.message
  | .givenArguments callable => s!"partial object {callable} has incorrect arguments"
  | .iterationEnd => ""
  | .plain _ message => message
  | .notRaisable => "exceptions must derive from BaseException"
  | .causeNotException => "exception causes must derive from BaseException"
  | .assignedCause link =>
    s!"exception {link} must be None or derive from BaseException"
  | .during _ second _ => second.message

/-- The arguments of the exception that a fault raises: a missing key is carried as it is. -/
def args : Fault → List Value
  | .missingKey key => [key]
  | .iterationEnd => []
  | .during _ second _ => second.args
  | fault => [.str .fresh fault.message]

end Fault
end FaultContext
