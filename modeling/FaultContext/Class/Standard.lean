/-
# FaultContext.Class.Standard -- the classes that every program knows.

Each class has a name, the module that its text shows, and its ancestors in the order in which
members are looked for.  The ancestors are written out rather than computed: they are data, and the
linearization of `FaultContext.Class.Linearization` is needed only for classes that a program
declares.
-/

namespace FaultContext

/-- A class that is there from the start. -/
inductive Standard where
  | object | type | int | bool | str | float | bytes | list | tuple | dict | noneType | function
  | nativeFunction | boundMethod | staticMethod | classMethod | coroutine | generator
  | asyncGenerator | partialFunction | baseException | exception | valueError | typeError
  | lookupError | keyError | indexError | arithmeticError | zeroDivisionError | overflowError
  | runtimeError | notImplementedError | recursionError | attributeError | frozenInstanceError
  | nameError | syntaxError | osError | blockingIOError | childProcessError | connectionError
  | brokenPipeError | connectionAbortedError | connectionRefusedError | connectionResetError
  | fileExistsError | fileNotFoundError | interruptedError | isADirectoryError
  | notADirectoryError | permissionError | processLookupError | timeoutError
  | stopIteration | stopAsyncIteration | assertionError
  | keyboardInterrupt | systemExit | generatorExit | cancelledError | any | anyMeta | generic
  | typeVar
  | forwardRef | typingAlias | typingUnion | typingForm | bareAlias | bareTuple | classAlias
  | unionType | abstractMeta | abstractBase | wrapErr | ok | err | libraryError | templateError
  | applicabilityError | ambiguousBinding | missingBinding | renderError | contextError
  | contextExpr | report | named | unprintable | subErr | errorWithContext | counter | callable
  | unhashableMeta
  | baseExceptionGroup | exceptionGroup | bufferError | eofError | floatingPointError | importError
  | moduleNotFoundError | indentationError | tabError | memoryError | referenceError | systemError
  | unboundLocalError | unicodeError | unicodeDecodeError | unicodeEncodeError
  | unicodeTranslateError | warning | bytesWarning | deprecationWarning | encodingWarning
  | futureWarning | importWarning | pendingDeprecationWarning | resourceWarning | runtimeWarning
  | syntaxWarning | unicodeWarning | userWarning | byteArray | complex | set | frozenSet | range
  | slice | memoryView | enumerate | filter | map | zip | reversed | property | super | ellipsis
  | notImplementedType | methodDescriptor | wrapperDescriptor | methodWrapper | getSetDescriptor
  | memberDescriptor | classMethodDescriptor | mappingProxy | siteQuitter | siteHelper
  | baseAlias | unpackAlias | listIterator | tupleIterator | textIterator | bytesIterator
  | setIterator | rangeIterator | keyIterator | reverseListIterator | callIterator | bindingSet
  deriving DecidableEq, Repr

namespace Standard

/-- The name of a class. -/
def name : Standard → String
  | .object => "object"
  | .type => "type"
  | .int => "int"
  | .bool => "bool"
  | .str => "str"
  | .float => "float"
  | .bytes => "bytes"
  | .list => "list"
  | .tuple => "tuple"
  | .dict => "dict"
  | .noneType => "NoneType"
  | .function => "function"
  | .nativeFunction => "builtin_function_or_method"
  | .boundMethod => "method"
  | .staticMethod => "staticmethod"
  | .classMethod => "classmethod"
  | .coroutine => "coroutine"
  | .generator => "generator"
  | .asyncGenerator => "async_generator"
  | .partialFunction => "partial"
  | .baseException => "BaseException"
  | .exception => "Exception"
  | .valueError => "ValueError"
  | .typeError => "TypeError"
  | .lookupError => "LookupError"
  | .keyError => "KeyError"
  | .indexError => "IndexError"
  | .arithmeticError => "ArithmeticError"
  | .zeroDivisionError => "ZeroDivisionError"
  | .overflowError => "OverflowError"
  | .runtimeError => "RuntimeError"
  | .notImplementedError => "NotImplementedError"
  | .recursionError => "RecursionError"
  | .attributeError => "AttributeError"
  | .frozenInstanceError => "FrozenInstanceError"
  | .nameError => "NameError"
  | .syntaxError => "SyntaxError"
  | .osError => "OSError"
  | .blockingIOError => "BlockingIOError"
  | .childProcessError => "ChildProcessError"
  | .connectionError => "ConnectionError"
  | .brokenPipeError => "BrokenPipeError"
  | .connectionAbortedError => "ConnectionAbortedError"
  | .connectionRefusedError => "ConnectionRefusedError"
  | .connectionResetError => "ConnectionResetError"
  | .fileExistsError => "FileExistsError"
  | .fileNotFoundError => "FileNotFoundError"
  | .interruptedError => "InterruptedError"
  | .isADirectoryError => "IsADirectoryError"
  | .notADirectoryError => "NotADirectoryError"
  | .permissionError => "PermissionError"
  | .processLookupError => "ProcessLookupError"
  | .timeoutError => "TimeoutError"
  | .stopIteration => "StopIteration"
  | .stopAsyncIteration => "StopAsyncIteration"
  | .assertionError => "AssertionError"
  | .keyboardInterrupt => "KeyboardInterrupt"
  | .systemExit => "SystemExit"
  | .generatorExit => "GeneratorExit"
  | .cancelledError => "CancelledError"
  | .any => "Any"
  | .anyMeta => "_AnyMeta"
  | .generic => "Generic"
  | .typeVar => "TypeVar"
  | .forwardRef => "ForwardRef"
  | .typingAlias => "_GenericAlias"
  | .typingUnion => "_UnionGenericAlias"
  | .typingForm => "_SpecialForm"
  | .bareAlias => "_SpecialGenericAlias"
  | .bareTuple => "_TupleType"
  | .classAlias => "GenericAlias"
  | .unionType => "UnionType"
  | .abstractMeta => "ABCMeta"
  | .abstractBase => "ABC"
  | .wrapErr => "WrapErr"
  | .ok => "Ok"
  | .err => "Err"
  | .libraryError => "ErrifyError"
  | .templateError => "TemplateError"
  | .applicabilityError => "ApplicabilityError"
  | .ambiguousBinding => "AmbiguousBinding"
  | .missingBinding => "MissingBinding"
  | .renderError => "RenderError"
  | .contextError => "ContextError"
  | .contextExpr => "ContextExpr"
  | .report => "Report"
  | .named => "Obj"
  | .unprintable => "Bad"
  | .subErr => "SubErr"
  | .errorWithContext => "ErrorWithContext"
  | .counter => "Counter"
  | .callable => "CallableObject"
  | .unhashableMeta => "NoHashMeta"
  | .baseExceptionGroup => "BaseExceptionGroup"
  | .exceptionGroup => "ExceptionGroup"
  | .bufferError => "BufferError"
  | .eofError => "EOFError"
  | .floatingPointError => "FloatingPointError"
  | .importError => "ImportError"
  | .moduleNotFoundError => "ModuleNotFoundError"
  | .indentationError => "IndentationError"
  | .tabError => "TabError"
  | .memoryError => "MemoryError"
  | .referenceError => "ReferenceError"
  | .systemError => "SystemError"
  | .unboundLocalError => "UnboundLocalError"
  | .unicodeError => "UnicodeError"
  | .unicodeDecodeError => "UnicodeDecodeError"
  | .unicodeEncodeError => "UnicodeEncodeError"
  | .unicodeTranslateError => "UnicodeTranslateError"
  | .warning => "Warning"
  | .bytesWarning => "BytesWarning"
  | .deprecationWarning => "DeprecationWarning"
  | .encodingWarning => "EncodingWarning"
  | .futureWarning => "FutureWarning"
  | .importWarning => "ImportWarning"
  | .pendingDeprecationWarning => "PendingDeprecationWarning"
  | .resourceWarning => "ResourceWarning"
  | .runtimeWarning => "RuntimeWarning"
  | .syntaxWarning => "SyntaxWarning"
  | .unicodeWarning => "UnicodeWarning"
  | .userWarning => "UserWarning"
  | .byteArray => "bytearray"
  | .complex => "complex"
  | .set => "set"
  | .frozenSet => "frozenset"
  | .range => "range"
  | .slice => "slice"
  | .memoryView => "memoryview"
  | .enumerate => "enumerate"
  | .filter => "filter"
  | .map => "map"
  | .zip => "zip"
  | .reversed => "reversed"
  | .property => "property"
  | .super => "super"
  | .ellipsis => "ellipsis"
  | .notImplementedType => "NotImplementedType"
  | .methodDescriptor => "method_descriptor"
  | .wrapperDescriptor => "wrapper_descriptor"
  | .methodWrapper => "method-wrapper"
  | .getSetDescriptor => "getset_descriptor"
  | .memberDescriptor => "member_descriptor"
  | .classMethodDescriptor => "classmethod_descriptor"
  | .mappingProxy => "mappingproxy"
  | .siteQuitter => "Quitter"
  | .siteHelper => "_Helper"
  | .unpackAlias => "_UnpackGenericAlias"
  | .listIterator => "list_iterator"
  | .tupleIterator => "tuple_iterator"
  | .textIterator => "str_ascii_iterator"
  | .bytesIterator => "bytes_iterator"
  | .setIterator => "set_iterator"
  | .rangeIterator => "range_iterator"
  | .keyIterator => "dict_keyiterator"
  | .reverseListIterator => "list_reverseiterator"
  | .callIterator => "callable_iterator"
  | .bindingSet => "BindingSet"
  | .baseAlias => "_BaseGenericAlias"

/-- The module that a class belongs to, as its text shows it. -/
def home : Standard → String
  | .partialFunction => "functools"
  | .frozenInstanceError => "attr.exceptions"
  | .cancelledError => "asyncio.exceptions"
  | .any | .anyMeta | .generic | .typeVar | .forwardRef | .typingAlias | .typingUnion
  | .typingForm | .baseAlias | .bareAlias | .bareTuple | .unpackAlias => "typing"
  | .siteQuitter | .siteHelper => "_sitebuiltins"
  | .classAlias | .unionType => "types"
  | .abstractMeta | .abstractBase => "abc"
  | .wrapErr | .bindingSet => "errify.bindings"
  | .ok | .err => "errify.result"
  | .libraryError | .templateError | .applicabilityError | .ambiguousBinding
  | .missingBinding | .renderError | .contextError => "errify.errors"
  | .contextExpr | .report | .named | .unprintable | .subErr | .errorWithContext | .counter
  | .callable | .unhashableMeta => "drv"
  | _ => "builtins"

/-- The ancestors of a class, nearest first. -/
def ancestors : Standard → List Standard
  | .object => []
  | .bool => [.int, .object]
  | .exception | .keyboardInterrupt | .systemExit | .generatorExit | .cancelledError =>
    [.baseException, .object]
  | .valueError | .typeError | .lookupError | .arithmeticError | .runtimeError
  | .attributeError | .nameError | .syntaxError | .osError | .stopIteration
  | .stopAsyncIteration | .assertionError | .libraryError | .contextError
  | .errorWithContext => [.exception, .baseException, .object]
  | .keyError | .indexError => [.lookupError, .exception, .baseException, .object]
  | .zeroDivisionError | .overflowError => [.arithmeticError, .exception, .baseException, .object]
  | .notImplementedError | .recursionError => [.runtimeError, .exception, .baseException, .object]
  | .frozenInstanceError => [.attributeError, .exception, .baseException, .object]
  | .blockingIOError | .childProcessError | .connectionError | .fileExistsError
  | .fileNotFoundError | .interruptedError | .isADirectoryError | .notADirectoryError
  | .permissionError | .processLookupError | .timeoutError =>
    [.osError, .exception, .baseException, .object]
  | .brokenPipeError | .connectionAbortedError | .connectionRefusedError
  | .connectionResetError => [.connectionError, .osError, .exception, .baseException, .object]
  | .abstractMeta | .unhashableMeta | .anyMeta => [.type, .object]
  | .wrapErr => [.abstractBase, .object]
  | .ok | .err => [.generic, .object]
  | .templateError => [.libraryError, .valueError, .exception, .baseException, .object]
  | .applicabilityError | .ambiguousBinding | .missingBinding =>
    [.libraryError, .typeError, .exception, .baseException, .object]
  | .renderError => [.libraryError, .exception, .baseException, .object]
  | .subErr => [.err, .generic, .object]
  | .typingAlias | .bareAlias => [.baseAlias, .object]
  | .typingUnion | .unpackAlias => [.typingAlias, .baseAlias, .object]
  | .bareTuple => [.bareAlias, .baseAlias, .object]
  | .baseExceptionGroup => [.baseException, .object]
  | .exceptionGroup => [.baseExceptionGroup, .exception, .baseException, .object]
  | .bufferError | .eofError | .importError | .memoryError | .referenceError | .systemError
  | .warning => [.exception, .baseException, .object]
  | .floatingPointError => [.arithmeticError, .exception, .baseException, .object]
  | .moduleNotFoundError => [.importError, .exception, .baseException, .object]
  | .indentationError => [.syntaxError, .exception, .baseException, .object]
  | .tabError => [.indentationError, .syntaxError, .exception, .baseException, .object]
  | .unboundLocalError => [.nameError, .exception, .baseException, .object]
  | .unicodeError => [.valueError, .exception, .baseException, .object]
  | .unicodeDecodeError | .unicodeEncodeError | .unicodeTranslateError =>
    [.unicodeError, .valueError, .exception, .baseException, .object]
  | .bytesWarning | .deprecationWarning | .encodingWarning | .futureWarning | .importWarning
  | .pendingDeprecationWarning | .resourceWarning | .runtimeWarning | .syntaxWarning
  | .unicodeWarning | .userWarning => [.warning, .exception, .baseException, .object]
  | _ => [.object]

/-- The order in which members of a class are looked for. -/
def order (c : Standard) : List Standard := c :: c.ancestors

/-- The ancestors of an ancestor are ancestors. -/
theorem mem_order_of_mem (c : Standard) : ∀ a ∈ c.order, ∀ b ∈ a.order, b ∈ c.order := by
  cases c <;> decide

/-- Whether a class is among the classes in which another one looks for members. -/
def isSubclass (c ancestor : Standard) : Bool := c.order.contains ancestor

/-- Classes whose instances have a layout of their own.  A class cannot be derived from two of them
unless one is derived from the other. -/
def hasOwnLayout : Standard → Bool
  | .int | .str | .float | .bytes | .list | .tuple | .dict | .type | .baseException | .osError
  | .stopIteration | .systemExit | .attributeError | .nameError | .syntaxError | .ok | .err
  | .partialFunction | .importError | .unicodeDecodeError | .unicodeEncodeError
  | .unicodeTranslateError | .baseExceptionGroup | .exceptionGroup | .byteArray | .complex | .set
  | .frozenSet => true
  | _ => false

/-- Classes that nothing can be derived from. -/
def isFinal : Standard → Bool
  | .bool | .noneType | .function | .nativeFunction | .boundMethod | .coroutine | .generator
  | .asyncGenerator | .unionType | .range | .slice | .memoryView | .ellipsis => true
  | _ => false

/-! ## Exceptions -/

/-- Exceptions that initialize themselves without asking the classes after them: all but those that
are written in terms of others. -/
def initializesItself (c : Standard) : Bool :=
  c.isSubclass .baseException && c.home = "builtins"

/-- The attributes that instances of a class have from the start; until they are set they are none.
-/
def slots : Standard → List String
  | .stopIteration => ["value"]
  | .systemExit => ["code"]
  | .osError => ["errno", "strerror", "filename", "filename2"]
  | .nameError => ["name"]
  | .attributeError => ["name", "obj"]
  | _ => []

/-- The class of an error of the operating system by its number. -/
def ofErrorNumber : Int → Standard
  | 1 | 13 => .permissionError
  | 2 => .fileNotFoundError
  | 3 => .processLookupError
  | 4 => .interruptedError
  | 10 => .childProcessError
  | 11 | 114 | 115 => .blockingIOError
  | 17 => .fileExistsError
  | 20 => .notADirectoryError
  | 21 => .isADirectoryError
  | 32 | 108 => .brokenPipeError
  | 103 => .connectionAbortedError
  | 104 => .connectionResetError
  | 110 => .timeoutError
  | 111 => .connectionRefusedError
  | _ => .osError

end Standard
end FaultContext
