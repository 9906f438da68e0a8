/-
# FaultContext.Language.Names -- what names mean.

A program names classes, type constructors and natives.  The names that every program knows are
listed here; a class that the program declares is found under its name first.
-/
import FaultContext.TypeHint.Build
import FaultContext.World.Basic

namespace FaultContext

/-- The classes that a program can name without declaring them. -/
def nameableClasses : List Standard :=
  [.object, .type, .int, .str, .float, .bool, .list, .dict, .tuple, .bytes, .noneType,
    .baseException, .exception, .valueError, .typeError, .keyError, .indexError, .lookupError,
    .arithmeticError, .zeroDivisionError, .overflowError, .runtimeError, .notImplementedError,
    .attributeError, .nameError, .osError, .stopIteration, .stopAsyncIteration, .assertionError,
    .keyboardInterrupt, .systemExit, .generatorExit, .cancelledError, .ok, .err, .wrapErr,
    .libraryError, .templateError, .applicabilityError, .ambiguousBinding, .missingBinding,
    .renderError, .contextError, .contextExpr, .report, .named, .unprintable, .subErr,
    .errorWithContext, .any]

/-- What a name means that every program knows. -/
def standardType? (name : String) : Option Value :=
  match name with
  | "None" => some .none
  | "Result" => some TypeHint.openResult
  | "Union" => some (.bare .union)
  | "Optional" => some (.bare .optional)
  | "List" => some (.bare (.alias .list))
  | "Dict" => some (.bare (.alias .dict))
  | "Tuple" => some (.bare (.alias .tuple))
  | "Type" => some (.bare (.alias .type))
  | _ => (nameableClasses.find? (·.name = name)).map .std

/-- The natives that a program can name. -/
def native? (name : String) : Option Value :=
  match name with
  | "len" => some (.native .len)
  | "max" => some (.native .max)
  | "repr" => some (.native .repr)
  | "abs" => some (.native .abs)
  | "sorted" => some (.native .sorted)
  | "dict" => some (.std .dict)
  | "int" => some (.std .int)
  | "str" => some (.std .str)
  | "list" => some (.std .list)
  | _ => none

/-! ## Names in annotations -/

/-- The functions that every annotation can name besides the natives. -/
def builtinFunctions : List String :=
  ["aiter", "all", "anext", "any", "ascii", "bin", "breakpoint", "callable", "chr", "compile",
   "delattr", "dir", "divmod", "eval", "exec", "exit", "format", "getattr", "globals", "hasattr",
   "hash", "help", "hex", "id", "input", "isinstance", "issubclass", "iter", "locals", "min",
   "next", "oct", "open", "ord", "pow", "print", "quit", "round", "setattr", "sum", "vars",
   "__build_class__", "__import__"]

/-- The classes that every annotation can name besides those that every program can. -/
def builtinClasses : List Standard :=
  [.byteArray, .classMethod, .complex, .enumerate, .filter, .frozenSet, .map, .memoryView,
    .property, .range, .reversed, .set, .slice, .staticMethod, .super, .zip, .baseExceptionGroup,
    .exceptionGroup, .bufferError, .eofError, .floatingPointError, .importError,
    .moduleNotFoundError, .indentationError, .tabError, .memoryError, .referenceError,
    .systemError, .syntaxError, .recursionError, .unboundLocalError, .unicodeError,
    .unicodeDecodeError, .unicodeEncodeError, .unicodeTranslateError, .blockingIOError,
    .childProcessError, .connectionError, .brokenPipeError, .connectionAbortedError,
    .connectionRefusedError, .connectionResetError, .fileExistsError, .fileNotFoundError,
    .interruptedError, .isADirectoryError, .notADirectoryError, .permissionError,
    .processLookupError, .timeoutError, .warning, .bytesWarning, .deprecationWarning,
    .encodingWarning, .futureWarning, .importWarning, .pendingDeprecationWarning,
    .resourceWarning, .runtimeWarning, .syntaxWarning, .unicodeWarning, .userWarning]

/-- What a name means that every annotation knows. -/
def builtin? (name : String) : Option Value :=
  match name with
  | "Ellipsis" => some .ellipsis
  | "NotImplemented" => some .notImplemented
  | "EnvironmentError" | "IOError" => some (.std .osError)
  | "__debug__" => some (.bool true)
  | "__name__" => some (.str .fresh "drv")
  | _ =>
    match native? name with
    | some v => some v
    | none =>
      if builtinFunctions.contains name then some (.native (.builtin name))
      else (builtinClasses.find? (·.name = name)).map .std

namespace World

/-- What a name means as a type: the classes of the program come first. -/
def typeNamed? (w : World) (name : String) : Option Value :=
  match w.classes.lookup name with
  | some c => some (.cls c)
  | none => standardType? name

/-- The classes of the program by their names. -/
def classNames (w : World) : Named := w.classes.map fun (name, c) => (name, .cls c)

/-- What a name means inside an annotation: what the frames hold comes before what every program
knows. -/
def nameIn? (w : World) (scope : NameScope) (name : String) : Option Value :=
  match scope.frames.findSome? fun k => w.frames[k]?.bind (·.get? name) with
  | some v => some v
  | none =>
    match standardType? name with
    | some v => some v
    | none => builtin? name

end World
end FaultContext
