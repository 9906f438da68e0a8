/-
# FaultContext.Class.Summary -- what the classes say about themselves.

The summary of a class is a text that can be asked for, through the class and through its instances.
A class that has none says nothing, whatever its ancestors say.
-/
import FaultContext.Class.Standard

namespace FaultContext.Standard

/-- The text that a class says about itself. -/
def summary? : Standard → Option String
  | .object => some (
    "The base class of the class hierarchy.\n\nWhen called, it accepts no arguments and " ++
    "returns a new featureless\ninstance that has no instance attributes and cannot be " ++
    "given any.\n")
  | .type => some (
    "type(object) -> the object's type\ntype(name, bases, dict, **kwds) -> a new type")
  | .int => some (
    "int([x]) -> integer\nint(x, base=10) -> integer\n\nConvert a number or string to an " ++
    "integer, or return 0 if no arguments\nare given.  If x is a number, return " ++
    "x.__int__().  For floating point\nnumbers, this truncates towards zero.\n\nIf x is " ++
    "not a number or if base is given, then x must be a string,\nbytes, or bytearray " ++
    "instance representing an integer literal in the\ngiven base.  The literal can be " ++
    "preceded by '+' or '-' and be surrounded\nby whitespace.  The base defaults to 10.  " ++
    "Valid bases are 0 and 2-36.\nBase 0 means to interpret the base from the string as " ++
    "an integer literal.\n>>> int('0b100', base=0)\n4")
  | .bool => some (
    "bool(x) -> bool\n\nReturns True when the argument x is true, False otherwise.\nThe " ++
    "builtins True and False are the only two instances of the class bool.\nThe class " ++
    "bool is a subclass of the class int, and cannot be subclassed.")
  | .str => some (
    "str(object='') -> str\nstr(bytes_or_buffer[, encoding[, errors]]) -> str\n\nCreate " ++
    "a new string object from the given object. If encoding or\nerrors is specified, " ++
    "then the object must expose a data buffer\nthat will be decoded using the given " ++
    "encoding and error handler.\nOtherwise, returns the result of object.__str__() (if " ++
    "defined)\nor repr(object).\nencoding defaults to sys.getdefaultencoding().\nerrors " ++
    "defaults to 'strict'.")
  | .float => some "Convert a string or number to a floating point number, if possible."
  | .bytes => some (
    "bytes(iterable_of_ints) -> bytes\nbytes(string, encoding[, errors]) -> " ++
    "bytes\nbytes(bytes_or_buffer) -> immutable copy of bytes_or_buffer\nbytes(int) -> " ++
    "bytes object of size given by the parameter initialized with null bytes\nbytes() -> " ++
    "empty bytes object\n\nConstruct an immutable array of bytes from:\n  - an iterable " ++
    "yielding integers in range(256)\n  - a text string encoded using the specified " ++
    "encoding\n  - any object implementing the buffer API.\n  - an integer")
  | .list => some (
    "Built-in mutable sequence.\n\nIf no argument is given, the constructor creates a " ++
    "new empty list.\nThe argument must be an iterable if specified.")
  | .tuple => some (
    "Built-in immutable sequence.\n\nIf no argument is given, the constructor returns an " ++
    "empty tuple.\nIf iterable is specified the tuple is initialized from iterable's " ++
    "items.\n\nIf the argument is a tuple, the return value is the same object.")
  | .dict => some (
    "dict() -> new empty dictionary\ndict(mapping) -> new dictionary initialized from a " ++
    "mapping object's\n    (key, value) pairs\ndict(iterable) -> new dictionary " ++
    "initialized as if via:\n    d = \x7b\x7d\n    for k, v in iterable:\n        d[k] = " ++
    "v\ndict(**kwargs) -> new dictionary initialized with the name=value pairs\n    in " ++
    "the keyword argument list.  For example:  dict(one=1, two=2)")
  | .baseException => some "Common base class for all exceptions"
  | .exception => some "Common base class for all non-exit exceptions."
  | .generatorExit => some "Request that a generator exit."
  | .keyboardInterrupt => some "Program interrupted by user."
  | .systemExit => some "Request to exit from the interpreter."
  | .arithmeticError => some "Base class for arithmetic errors."
  | .assertionError => some "Assertion failed."
  | .attributeError => some "Attribute not found."
  | .lookupError => some "Base class for lookup errors."
  | .nameError => some "Name not found globally."
  | .osError => some "Base class for I/O related errors."
  | .runtimeError => some "Unspecified run-time error."
  | .stopAsyncIteration => some "Signal the end from iterator.__anext__()."
  | .stopIteration => some "Signal the end from iterator.__next__()."
  | .typeError => some "Inappropriate argument type."
  | .valueError => some "Inappropriate argument value (of correct type)."
  | .overflowError => some "Result too large to be represented."
  | .zeroDivisionError => some "Second argument to a division or modulo operation was zero."
  | .indexError => some "Sequence index out of range."
  | .keyError => some "Mapping key not found."
  | .notImplementedError => some "Method or function hasn't been implemented yet."
  | .recursionError => some "Recursion limit exceeded."
  | .syntaxError => some "Invalid syntax."
  | .unicodeDecodeError => some "Unicode decoding error."
  | .set => some (
    "set() -> new empty set object\nset(iterable) -> new set object\n\nBuild an " ++
    "unordered collection of unique elements.")
  | .frozenSet => some (
    "frozenset() -> empty frozenset object\nfrozenset(iterable) -> frozenset " ++
    "object\n\nBuild an immutable unordered collection of unique elements.")
  | .baseExceptionGroup => some "A combination of multiple unrelated exceptions."
  | .bufferError => some "Buffer error."
  | .eofError => some "Read beyond end of file."
  | .importError => some "Import can't find module, or can't find name in module."
  | .memoryError => some "Out of memory."
  | .referenceError => some "Weak ref proxy used after referent went away."
  | .warning => some "Base class for warning categories."
  | .floatingPointError => some "Floating point operation failed."
  | .bytesWarning => some (
    "Base class for warnings about bytes and buffer related problems, mostly\nrelated to " ++
    "conversion from str or comparing to str.")
  | .deprecationWarning => some "Base class for warnings about deprecated features."
  | .encodingWarning => some "Base class for warnings about encodings."
  | .futureWarning => some (
    "Base class for warnings about constructs that will change semantically\nin the " ++
    "future.")
  | .importWarning => some "Base class for warnings about probable mistakes in module imports"
  | .pendingDeprecationWarning => some (
    "Base class for warnings about features which will be deprecated\nin the future.")
  | .resourceWarning => some "Base class for warnings about resource usage."
  | .runtimeWarning => some "Base class for warnings about dubious runtime behavior."
  | .syntaxWarning => some "Base class for warnings about dubious syntax."
  | .unicodeWarning => some (
    "Base class for warnings about Unicode related problems, mostly\nrelated to " ++
    "conversion problems.")
  | .userWarning => some "Base class for warnings generated by user code."
  | .blockingIOError => some "I/O operation would block."
  | .childProcessError => some "Child process error."
  | .connectionError => some "Connection error."
  | .fileExistsError => some "File already exists."
  | .fileNotFoundError => some "File not found."
  | .interruptedError => some "Interrupted by signal."
  | .isADirectoryError => some "Operation doesn't work on directories."
  | .notADirectoryError => some "Operation only works on directories."
  | .permissionError => some "Not enough permissions."
  | .processLookupError => some "Process not found."
  | .timeoutError => some "Timeout expired."
  | .indentationError => some "Improper indentation."
  | .moduleNotFoundError => some "Module not found."
  | .unboundLocalError => some "Local name referenced but not bound to a value."
  | .unicodeError => some "Unicode related error."
  | .brokenPipeError => some "Broken pipe."
  | .connectionAbortedError => some "Connection aborted."
  | .connectionRefusedError => some "Connection refused."
  | .connectionResetError => some "Connection reset."
  | .tabError => some "Improper mixture of spaces and tabs."
  | .unicodeEncodeError => some "Unicode encoding error."
  | .unicodeTranslateError => some "Unicode translation error."
  | .partialFunction => some (
    "partial(func, *args, **keywords) - new function with partial application\n    of " ++
    "the given arguments and keywords.\n")
  | .unionType => some "Represent a PEP 604 union type\n\nE.g. for int | str"
  | .cancelledError => some "The Future or Task was cancelled."
  | .libraryError => some "Base class of errify's own diagnostics."
  | .templateError => some (
    "\n    The context template is malformed, or its placeholders don't match the " ++
    "captured\n    values.\n    ")
  | .applicabilityError => some (
    "\n    The decorated object has no single success / failure outcome, e.g. it's a " ++
    "generator\n    function or a class.\n    ")
  | .ambiguousBinding => some "More than one WrapErr binding claims the same failure type."
  | .missingBinding => some "No WrapErr binding knows how to merge a context into a failure type."
  | .contextError => some (
    "\n    An outer layer of context around a failure.\n\n    The \x60\x60source\x60\x60 " ++
    "is the failure the context was added to. It can be any value that\n    renders with " ++
    "\x60\x60str()\x60\x60 and \x60\x60repr()\x60\x60; if it's an exception it is also " ++
    "set as the\n    \x60\x60__cause__\x60\x60 so tracebacks show the whole " ++
    "chain.\n\n    >>> err = ContextError(\"failed to divide 10 by 0\", " ++
    "ZeroDivisionError(\"division by zero\"))\n    >>> str(err)\n    'failed to divide " ++
    "10 by 0'\n    >>> err.root_cause()\n    ZeroDivisionError('division by zero')\n    ")
  | .wrapErr => some (
    "\n    The interface a failure type implements to control how context is merged into " ++
    "it.\n\n    \x60\x60wrap_err\x60\x60 takes the context value (anything that renders " ++
    "with \x60\x60str()\x60\x60) and\n    returns the failure to propagate in place of " ++
    "\x60\x60self\x60\x60; usually a copy of \x60\x60self\x60\x60\n    that remembers " ++
    "the context. Subclassing is optional: any class with a " ++
    "\x60\x60wrap_err\x60\x60\n    method is treated as implementing the interface.\n    ")
  | .bindingSet => some (
    "\n    Resolves the WrapErr binding for a failure type.\n\n    A rule is called as " ++
    "\x60\x60rule(typ=..., ctx=binding_set)\x60\x60 and returns a binding, a\n    callable " ++
    "\x60\x60binding(error, context) -> error\x60\x60, or None if the type isn't its " ++
    "concern.\n\n    \x60\x60rules\x60\x60 are exact bindings supplied for particular types. " ++
    "\x60\x60conventions\x60\x60 are the\n    built-in blanket bindings and are only consulted " ++
    "when no exact rule claims a type.\n    Two rules of the same tier claiming one type is an " ++
    "error rather than a silent\n    preference.\n    ")
  | _ => none

end FaultContext.Standard
