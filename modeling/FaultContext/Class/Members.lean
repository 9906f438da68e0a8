/-
# FaultContext.Class.Members -- what the classes have from the start.

The classes that every program knows come with members, which are kept in different ways: methods
are bound to the value through which they are seen, attributes are read from it, and the functions
that belong to a class as such are the same for all of its instances.  The names are listed here,
class by class, without those that a class takes over from its ancestors.
-/
import FaultContext.Class.Standard

namespace FaultContext

/-- How a class keeps a member. -/
inductive MemberKind where
  /-- A method. -/
  | method
  /-- A method that stands for an operator or another built-in use. -/
  | slot
  /-- An attribute that is computed. -/
  | computed
  /-- An attribute that is held in the instances. -/
  | field
  /-- A method that is called with the class itself. -/
  | ofClass
  /-- A function that is called with nothing of the class. -/
  | static
  /-- A function that is written in terms of others. -/
  | written
  deriving DecidableEq, Repr

namespace Standard

/-- The methods that a class has from the start. -/
def methodNames : Standard → List String
  | .object =>
    ["__dir__", "__format__", "__getstate__", "__reduce__", "__reduce_ex__", "__sizeof__"]
  | .type =>
    ["__dir__", "__instancecheck__", "__sizeof__", "__subclasscheck__", "__subclasses__", "mro"]
  | .int =>
    ["__ceil__", "__floor__", "__format__", "__getnewargs__", "__round__", "__sizeof__",
     "__trunc__", "as_integer_ratio", "bit_count", "bit_length", "conjugate", "to_bytes"]
  | .str =>
    ["__format__", "__getnewargs__", "__sizeof__", "capitalize", "casefold", "center", "count",
     "encode", "endswith", "expandtabs", "find", "format", "format_map", "index", "isalnum",
     "isalpha", "isascii", "isdecimal", "isdigit", "isidentifier", "islower", "isnumeric",
     "isprintable", "isspace", "istitle", "isupper", "join", "ljust", "lower", "lstrip",
     "partition", "removeprefix", "removesuffix", "replace", "rfind", "rindex", "rjust",
     "rpartition", "rsplit", "rstrip", "split", "splitlines", "startswith", "strip", "swapcase",
     "title", "translate", "upper", "zfill"]
  | .float =>
    ["__ceil__", "__floor__", "__format__", "__getnewargs__", "__round__", "__trunc__",
     "as_integer_ratio", "conjugate", "hex", "is_integer"]
  | .bytes =>
    ["__bytes__", "__getnewargs__", "capitalize", "center", "count", "decode", "endswith",
     "expandtabs", "find", "hex", "index", "isalnum", "isalpha", "isascii", "isdigit", "islower",
     "isspace", "istitle", "isupper", "join", "ljust", "lower", "lstrip", "partition",
     "removeprefix", "removesuffix", "replace", "rfind", "rindex", "rjust", "rpartition", "rsplit",
     "rstrip", "split", "splitlines", "startswith", "strip", "swapcase", "title", "translate",
     "upper", "zfill"]
  | .list =>
    ["__getitem__", "__reversed__", "__sizeof__", "append", "clear", "copy", "count", "extend",
     "index", "insert", "pop", "remove", "reverse", "sort"]
  | .tuple => ["__getnewargs__", "count", "index"]
  | .dict =>
    ["__contains__", "__getitem__", "__reversed__", "__sizeof__", "clear", "copy", "get", "items",
     "keys", "pop", "popitem", "setdefault", "update", "values"]
  | .nativeFunction | .boundMethod | .enumerate | .filter | .map | .importError | .osError
  | .ellipsis | .notImplementedType | .methodDescriptor | .wrapperDescriptor | .methodWrapper
  | .memberDescriptor => ["__reduce__"]
  | .coroutine | .generator => ["__sizeof__", "close", "send", "throw"]
  | .asyncGenerator => ["__sizeof__", "aclose", "asend", "athrow"]
  | .partialFunction | .zip => ["__reduce__", "__setstate__"]
  | .memoryView =>
    ["__enter__", "__exit__", "cast", "hex", "release", "tobytes", "tolist", "toreadonly"]
  | .byteArray =>
    ["__alloc__", "__reduce__", "__reduce_ex__", "__sizeof__", "append", "capitalize", "center",
     "clear", "copy", "count", "decode", "endswith", "expandtabs", "extend", "find", "hex",
     "index", "insert", "isalnum", "isalpha", "isascii", "isdigit", "islower", "isspace",
     "istitle", "isupper", "join", "ljust", "lower", "lstrip", "partition", "pop", "remove",
     "removeprefix", "removesuffix", "replace", "reverse", "rfind", "rindex", "rjust",
     "rpartition", "rsplit", "rstrip", "split", "splitlines", "startswith", "strip", "swapcase",
     "title", "translate", "upper", "zfill"]
  | .complex => ["__complex__", "__format__", "__getnewargs__", "conjugate"]
  | .frozenSet =>
    ["__contains__", "__reduce__", "__sizeof__", "copy", "difference", "intersection",
     "isdisjoint", "issubset", "issuperset", "symmetric_difference", "union"]
  | .property => ["__set_name__", "deleter", "getter", "setter"]
  | .range => ["__reduce__", "__reversed__", "count", "index"]
  | .reversed => ["__length_hint__", "__reduce__", "__setstate__"]
  | .set =>
    ["__contains__", "__reduce__", "__sizeof__", "add", "clear", "copy", "difference",
     "difference_update", "discard", "intersection", "intersection_update", "isdisjoint",
     "issubset", "issuperset", "pop", "remove", "symmetric_difference",
     "symmetric_difference_update", "union", "update"]
  | .slice => ["__reduce__", "indices"]
  | .baseException => ["__reduce__", "__setstate__", "add_note", "with_traceback"]
  | .baseExceptionGroup => ["derive", "split", "subgroup"]
  | .mappingProxy => ["__reversed__", "copy", "get", "items", "keys", "values"]
  | .classAlias =>
    ["__dir__", "__instancecheck__", "__mro_entries__", "__reduce__", "__subclasscheck__"]
  | _ => []

/-- The methods of a class that stand for operators and other built-in uses. -/
def slotNames : Standard → List String
  | .object =>
    ["__delattr__", "__eq__", "__ge__", "__getattribute__", "__gt__", "__hash__", "__init__",
     "__le__", "__lt__", "__ne__", "__repr__", "__setattr__", "__str__"]
  | .type =>
    ["__call__", "__delattr__", "__getattribute__", "__init__", "__or__", "__repr__", "__ror__",
     "__setattr__"]
  | .int =>
    ["__abs__", "__add__", "__and__", "__bool__", "__divmod__", "__eq__", "__float__",
     "__floordiv__", "__ge__", "__getattribute__", "__gt__", "__hash__", "__index__", "__int__",
     "__invert__", "__le__", "__lshift__", "__lt__", "__mod__", "__mul__", "__ne__", "__neg__",
     "__or__", "__pos__", "__pow__", "__radd__", "__rand__", "__rdivmod__", "__repr__",
     "__rfloordiv__", "__rlshift__", "__rmod__", "__rmul__", "__ror__", "__rpow__", "__rrshift__",
     "__rshift__", "__rsub__", "__rtruediv__", "__rxor__", "__sub__", "__truediv__", "__xor__"]
  | .bool => ["__and__", "__or__", "__rand__", "__repr__", "__ror__", "__rxor__", "__xor__"]
  | .str | .bytes =>
    ["__add__", "__contains__", "__eq__", "__ge__", "__getattribute__", "__getitem__", "__gt__",
     "__hash__", "__iter__", "__le__", "__len__", "__lt__", "__mod__", "__mul__", "__ne__",
     "__repr__", "__rmod__", "__rmul__", "__str__"]
  | .float =>
    ["__abs__", "__add__", "__bool__", "__divmod__", "__eq__", "__float__", "__floordiv__",
     "__ge__", "__getattribute__", "__gt__", "__hash__", "__int__", "__le__", "__lt__", "__mod__",
     "__mul__", "__ne__", "__neg__", "__pos__", "__pow__", "__radd__", "__rdivmod__", "__repr__",
     "__rfloordiv__", "__rmod__", "__rmul__", "__rpow__", "__rsub__", "__rtruediv__", "__sub__",
     "__truediv__"]
  | .list =>
    ["__add__", "__contains__", "__delitem__", "__eq__", "__ge__", "__getattribute__", "__gt__",
     "__iadd__", "__imul__", "__init__", "__iter__", "__le__", "__len__", "__lt__", "__mul__",
     "__ne__", "__repr__", "__rmul__", "__setitem__"]
  | .tuple =>
    ["__add__", "__contains__", "__eq__", "__ge__", "__getattribute__", "__getitem__", "__gt__",
     "__hash__", "__iter__", "__le__", "__len__", "__lt__", "__mul__", "__ne__", "__repr__",
     "__rmul__"]
  | .dict =>
    ["__delitem__", "__eq__", "__ge__", "__getattribute__", "__gt__", "__init__", "__ior__",
     "__iter__", "__le__", "__len__", "__lt__", "__ne__", "__or__", "__repr__", "__ror__",
     "__setitem__"]
  | .noneType | .notImplementedType => ["__bool__", "__repr__"]
  | .function => ["__call__", "__get__", "__repr__"]
  | .nativeFunction | .methodWrapper =>
    ["__call__", "__eq__", "__ge__", "__getattribute__", "__gt__", "__hash__", "__le__", "__lt__",
     "__ne__", "__repr__"]
  | .boundMethod =>
    ["__call__", "__delattr__", "__eq__", "__ge__", "__getattribute__", "__gt__", "__hash__",
     "__le__", "__lt__", "__ne__", "__repr__", "__setattr__"]
  | .staticMethod => ["__call__", "__get__", "__init__", "__repr__"]
  | .classMethod => ["__get__", "__init__", "__repr__"]
  | .coroutine => ["__await__", "__del__", "__getattribute__", "__repr__"]
  | .generator => ["__del__", "__getattribute__", "__iter__", "__next__", "__repr__"]
  | .asyncGenerator => ["__aiter__", "__anext__", "__del__", "__getattribute__", "__repr__"]
  | .partialFunction => ["__call__", "__delattr__", "__getattribute__", "__repr__", "__setattr__"]
  | .memoryView =>
    ["__delitem__", "__eq__", "__ge__", "__getattribute__", "__getitem__", "__gt__", "__hash__",
     "__iter__", "__le__", "__len__", "__lt__", "__ne__", "__repr__", "__setitem__"]
  | .byteArray =>
    ["__add__", "__contains__", "__delitem__", "__eq__", "__ge__", "__getattribute__",
     "__getitem__", "__gt__", "__iadd__", "__imul__", "__init__", "__iter__", "__le__", "__len__",
     "__lt__", "__mod__", "__mul__", "__ne__", "__repr__", "__rmod__", "__rmul__", "__setitem__",
     "__str__"]
  | .complex =>
    ["__abs__", "__add__", "__bool__", "__eq__", "__ge__", "__getattribute__", "__gt__",
     "__hash__", "__le__", "__lt__", "__mul__", "__ne__", "__neg__", "__pos__", "__pow__",
     "__radd__", "__repr__", "__rmul__", "__rpow__", "__rsub__", "__rtruediv__", "__sub__",
     "__truediv__"]
  | .enumerate | .filter | .map | .reversed | .zip => ["__getattribute__", "__iter__", "__next__"]
  | .frozenSet =>
    ["__and__", "__eq__", "__ge__", "__getattribute__", "__gt__", "__hash__", "__iter__", "__le__",
     "__len__", "__lt__", "__ne__", "__or__", "__rand__", "__repr__", "__ror__", "__rsub__",
     "__rxor__", "__sub__", "__xor__"]
  | .property => ["__delete__", "__get__", "__getattribute__", "__init__", "__set__"]
  | .range =>
    ["__bool__", "__contains__", "__eq__", "__ge__", "__getattribute__", "__getitem__", "__gt__",
     "__hash__", "__iter__", "__le__", "__len__", "__lt__", "__ne__", "__repr__"]
  | .set =>
    ["__and__", "__eq__", "__ge__", "__getattribute__", "__gt__", "__iand__", "__init__",
     "__ior__", "__isub__", "__iter__", "__ixor__", "__le__", "__len__", "__lt__", "__ne__",
     "__or__", "__rand__", "__repr__", "__ror__", "__rsub__", "__rxor__", "__sub__", "__xor__"]
  | .slice =>
    ["__eq__", "__ge__", "__getattribute__", "__gt__", "__le__", "__lt__", "__ne__", "__repr__"]
  | .super => ["__get__", "__getattribute__", "__init__", "__repr__"]
  | .baseException =>
    ["__delattr__", "__getattribute__", "__init__", "__repr__", "__setattr__", "__str__"]
  | .baseExceptionGroup | .attributeError | .importError | .nameError | .osError
  | .syntaxError | .keyError | .unicodeDecodeError | .unicodeEncodeError
  | .unicodeTranslateError => ["__init__", "__str__"]
  | .exception | .generatorExit | .keyboardInterrupt | .systemExit | .arithmeticError
  | .assertionError | .bufferError | .eofError | .lookupError | .memoryError | .referenceError
  | .runtimeError | .stopAsyncIteration | .stopIteration | .systemError | .typeError
  | .valueError | .warning | .floatingPointError | .overflowError | .zeroDivisionError
  | .bytesWarning | .deprecationWarning | .encodingWarning | .futureWarning | .importWarning
  | .pendingDeprecationWarning | .resourceWarning | .runtimeWarning | .syntaxWarning
  | .unicodeWarning | .userWarning | .blockingIOError | .childProcessError | .connectionError
  | .fileExistsError | .fileNotFoundError | .interruptedError | .isADirectoryError
  | .notADirectoryError | .permissionError | .processLookupError | .timeoutError
  | .indentationError | .indexError | .moduleNotFoundError | .notImplementedError
  | .recursionError | .unboundLocalError | .unicodeError | .brokenPipeError
  | .connectionAbortedError | .connectionRefusedError | .connectionResetError | .tabError =>
    ["__init__"]
  | .ellipsis => ["__getattribute__", "__repr__"]
  | .methodDescriptor | .wrapperDescriptor | .classMethodDescriptor =>
    ["__call__", "__get__", "__getattribute__", "__repr__"]
  | .getSetDescriptor | .memberDescriptor =>
    ["__delete__", "__get__", "__getattribute__", "__repr__", "__set__"]
  | .mappingProxy =>
    ["__contains__", "__eq__", "__ge__", "__getattribute__", "__getitem__", "__gt__", "__ior__",
     "__iter__", "__le__", "__len__", "__lt__", "__ne__", "__or__", "__repr__", "__ror__",
     "__str__"]
  | .classAlias =>
    ["__call__", "__eq__", "__ge__", "__getattribute__", "__getitem__", "__gt__", "__hash__",
     "__iter__", "__le__", "__lt__", "__ne__", "__or__", "__repr__", "__ror__"]
  | .unionType =>
    ["__eq__", "__ge__", "__getattribute__", "__getitem__", "__gt__", "__hash__", "__le__",
     "__lt__", "__ne__", "__or__", "__repr__", "__ror__"]
  | _ => []

/-- The attributes of the instances of a class that are computed. -/
def computedNames : Standard → List String
  | .object => ["__class__"]
  | .type =>
    ["__abstractmethods__", "__annotations__", "__bases__", "__dict__", "__doc__", "__module__",
     "__name__", "__qualname__", "__text_signature__"]
  | .int => ["denominator", "imag", "numerator", "real"]
  | .float => ["imag", "real"]
  | .function =>
    ["__annotations__", "__code__", "__defaults__", "__dict__", "__kwdefaults__", "__name__",
     "__qualname__"]
  | .nativeFunction => ["__doc__", "__name__", "__qualname__", "__self__", "__text_signature__"]
  | .boundMethod => ["__doc__"]
  | .staticMethod | .classMethod => ["__dict__", "__isabstractmethod__"]
  | .coroutine =>
    ["__name__", "__qualname__", "cr_await", "cr_frame", "cr_running", "cr_suspended"]
  | .generator =>
    ["__name__", "__qualname__", "gi_frame", "gi_running", "gi_suspended", "gi_yieldfrom"]
  | .asyncGenerator => ["__name__", "__qualname__", "ag_await", "ag_frame"]
  | .partialFunction => ["__dict__"]
  | .memoryView =>
    ["c_contiguous", "contiguous", "f_contiguous", "format", "itemsize", "nbytes", "ndim", "obj",
     "readonly", "shape", "strides", "suboffsets"]
  | .property => ["__isabstractmethod__"]
  | .baseException => ["__cause__", "__context__", "__dict__", "__traceback__", "args"]
  | .osError => ["characters_written"]
  | .exceptionGroup => ["__weakref__"]
  | .methodDescriptor | .wrapperDescriptor | .classMethodDescriptor =>
    ["__doc__", "__qualname__", "__text_signature__"]
  | .methodWrapper => ["__doc__", "__name__", "__objclass__", "__qualname__", "__text_signature__"]
  | .getSetDescriptor | .memberDescriptor => ["__doc__", "__qualname__"]
  | .classAlias => ["__parameters__", "__typing_unpacked_tuple_args__"]
  | .unionType => ["__parameters__"]
  | _ => []

/-- The attributes of the instances of a class that are held in them. -/
def fieldNames : Standard → List String
  | .ok => ["value"]
  | .err => ["error"]
  | .type =>
    ["__base__", "__basicsize__", "__dictoffset__", "__flags__", "__itemsize__", "__mro__",
     "__weakrefoffset__"]
  | .function => ["__builtins__", "__closure__", "__doc__", "__globals__", "__module__"]
  | .nativeFunction => ["__module__"]
  | .boundMethod => ["__func__", "__self__"]
  | .staticMethod | .classMethod => ["__func__", "__wrapped__"]
  | .coroutine => ["cr_code", "cr_origin"]
  | .generator => ["gi_code"]
  | .asyncGenerator => ["ag_code", "ag_running"]
  | .partialFunction => ["__vectorcalloffset__", "args", "func", "keywords"]
  | .complex => ["imag", "real"]
  | .property => ["__doc__", "fdel", "fget", "fset"]
  | .range | .slice => ["start", "step", "stop"]
  | .super => ["__self__", "__self_class__", "__thisclass__"]
  | .baseException => ["__suppress_context__"]
  | .baseExceptionGroup => ["exceptions", "message"]
  | .systemExit => ["code"]
  | .attributeError => ["name", "obj"]
  | .importError => ["msg", "name", "path"]
  | .nameError => ["name"]
  | .osError => ["errno", "filename", "filename2", "strerror"]
  | .stopIteration => ["value"]
  | .syntaxError =>
    ["end_lineno", "end_offset", "filename", "lineno", "msg", "offset", "print_file_and_line",
     "text"]
  | .unicodeDecodeError | .unicodeEncodeError | .unicodeTranslateError =>
    ["encoding", "end", "object", "reason", "start"]
  | .methodDescriptor | .wrapperDescriptor | .getSetDescriptor | .memberDescriptor
  | .classMethodDescriptor => ["__name__", "__objclass__"]
  | .methodWrapper => ["__self__"]
  | .classAlias => ["__args__", "__origin__", "__unpacked__"]
  | .unionType => ["__args__"]
  | _ => []

/-- The methods of a class that are called with the class itself. -/
def classMethodNames : Standard → List String
  | .object => ["__init_subclass__", "__subclasshook__"]
  | .type => ["__prepare__"]
  | .int => ["from_bytes"]
  | .float => ["__getformat__", "fromhex"]
  | .bytes | .byteArray => ["fromhex"]
  | .list | .tuple | .asyncGenerator | .partialFunction | .enumerate | .frozenSet | .set
  | .baseExceptionGroup | .mappingProxy => ["__class_getitem__"]
  | .dict => ["__class_getitem__", "fromkeys"]
  | _ => []

/-- The functions of a class that are called with nothing of it. -/
def staticNames : Standard → List String
  | .object | .type | .int | .bool | .float | .list | .tuple | .dict | .noneType | .function
  | .boundMethod | .staticMethod | .classMethod | .partialFunction | .memoryView | .complex
  | .enumerate | .filter | .frozenSet | .property | .map | .range | .reversed | .set | .slice
  | .super | .zip | .baseException | .baseExceptionGroup | .exception | .generatorExit
  | .keyboardInterrupt | .arithmeticError | .assertionError | .bufferError | .eofError
  | .lookupError | .memoryError | .osError | .referenceError | .runtimeError
  | .stopAsyncIteration | .systemError | .typeError | .valueError | .warning
  | .floatingPointError | .overflowError | .zeroDivisionError | .bytesWarning
  | .deprecationWarning | .encodingWarning | .futureWarning | .importWarning
  | .pendingDeprecationWarning | .resourceWarning | .runtimeWarning | .syntaxWarning
  | .unicodeWarning | .userWarning | .indexError | .notImplementedError | .recursionError
  | .unicodeError | .unicodeDecodeError | .unicodeEncodeError | .unicodeTranslateError
  | .ellipsis | .notImplementedType | .mappingProxy | .classAlias => ["__new__"]
  | .str | .bytes | .byteArray => ["__new__", "maketrans"]
  | _ => []

/-- The functions of a class that are written in terms of others. -/
def writtenNames : Standard → List String
  | .ok | .err =>
    ["is_ok", "is_err", "unwrap", "unwrap_or", "unwrap_err", "map", "map_err", "__init__",
     "__repr__", "__eq__", "__ne__", "__lt__", "__le__", "__gt__", "__ge__", "__hash__"]
  | .contextError => ["__init__", "__str__", "__repr__", "chain", "root_cause", "report"]
  | .renderError => ["__init__"]
  | .errorWithContext => ["__init__", "__str__"]
  | .contextExpr | .report => ["__init__", "__str__", "__repr__"]
  | .unprintable => ["__str__", "__repr__"]
  | .baseAlias =>
    ["__init__", "__call__", "__mro_entries__", "__getattr__", "__setattr__", "__instancecheck__",
     "__subclasscheck__", "__dir__"]
  | .typingAlias =>
    ["__init__", "__eq__", "__hash__", "__or__", "__ror__", "__getitem__", "copy_with", "__repr__",
     "__reduce__", "__mro_entries__", "__iter__"]
  | .typingUnion =>
    ["copy_with", "__eq__", "__hash__", "__repr__", "__instancecheck__", "__subclasscheck__",
     "__reduce__"]
  | .unpackAlias => ["__repr__", "__getitem__"]
  | .bareAlias =>
    ["__init__", "__getitem__", "copy_with", "__repr__", "__subclasscheck__", "__reduce__",
     "__or__", "__ror__"]
  | .bareTuple => ["__getitem__"]
  | .typingForm =>
    ["__init__", "__getattr__", "__mro_entries__", "__repr__", "__reduce__", "__call__", "__or__",
     "__ror__", "__instancecheck__", "__subclasscheck__", "__getitem__"]
  | _ => []

/-- How a class keeps a member that it has itself. -/
def memberKind? (c : Standard) (name : String) : Option MemberKind :=
  if c.methodNames.contains name then some .method
  else if c.slotNames.contains name then some .slot
  else if c.computedNames.contains name then some .computed
  else if c.fieldNames.contains name then some .field
  else if c.classMethodNames.contains name then some .ofClass
  else if c.staticNames.contains name then some .static
  else if c.writtenNames.contains name then some .written
  else none

end Standard
end FaultContext
