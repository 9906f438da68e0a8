/-
# FaultContext.Signature.Documented -- the parameters of what every program knows.

What is not written in the language has no parameter list of its own.  Its documentation says how it
is called: for most functions, methods and classes in a form that can be read back into parameters,
for some in a form that cannot, and for the rest not at all.  The tables below list the first kind;
the second is `isMisdocumented`.

The parameters of a method are listed without the object that it is called on.
-/
import FaultContext.Signature.Call
import FaultContext.Class.Members

namespace FaultContext

namespace Param

/-- A parameter that takes either kind of argument. -/
def plain (name : String) (default : Option Value) : Param := ⟨name, .standard, default⟩

/-- A parameter that takes a positional argument only. -/
def positional (name : String) (default : Option Value) : Param := ⟨name, .positionalOnly, default⟩

/-- A parameter that takes a named argument only. -/
def named (name : String) (default : Option Value) : Param := ⟨name, .keywordOnly, default⟩

end Param

namespace Signature

/-- Parameters that take either kind of argument and have no default. -/
def plains (names : List String) : Signature := names.map (Param.plain · none)

/-- Parameters that take positional arguments only and have no default. -/
def positionals (names : List String) : Signature := names.map (Param.positional · none)

end Signature

namespace Store

open Signature (plains positionals)

/-! ## Initializers -/

/-- The parameters of the initializer that a class defines itself. -/
def initializer? : Class → Option Signature
  | .standard .contextExpr => some (plains ["num"])
  | .standard .report =>
    some [.plain "message" none, .plain "contexts" (some (.tuple .fresh []))]
  | .standard .ok => some (plains ["value"])
  | .standard .err => some (plains ["error"])
  | .standard .errorWithContext => some [.plain "msg" none, .plain "cx" (some .none)]
  | .standard .renderError => some (plains ["message", "failure"])
  | .standard .contextError => some [.plain "context" none, .plain "source" (some .none)]
  | .standard .any => some Signature.everything
  | _ => none

/-- What type constructors can be told when they are made. -/
private def constructorOptions : Signature :=
  [.named "inst" (some (.bool true)), .named "name" (some .none)]

/-- The parameters with which instances of a class are made that programs are not meant to make, but
that is written in the language nevertheless. -/
def internalInitializer? : Standard → Option Signature
  | .bindingSet => some
    [⟨"rules", .varPositional, none⟩, .named "conventions" (some (.tuple .fresh [])),
      .named "cache" (some .none)]
  | .typeVar => some
    [.plain "name" none, ⟨"constraints", .varPositional, none⟩, .named "bound" (some .none),
      .named "covariant" (some (.bool false)), .named "contravariant" (some (.bool false))]
  | .forwardRef => some
    [.plain "arg" none, .plain "is_argument" (some (.bool true)), .plain "module" (some .none),
      .named "is_class" (some (.bool false))]
  | .baseAlias => some (plains ["origin"] ++ constructorOptions)
  | .typingAlias | .typingUnion | .unpackAlias => some
    (plains ["origin", "args"] ++ constructorOptions ++
      [.named "_paramspec_tvars" (some (.bool false))])
  | .bareAlias | .bareTuple => some (plains ["origin", "nparams"] ++ constructorOptions)
  | .typingForm => some (plains ["getitem"])
  | .abstractMeta => some
    (positionals ["name", "bases", "namespace"] ++ [⟨"kwargs", .varKeyword, none⟩])
  | .siteQuitter => some (plains ["name", "eof"])
  | _ => none

/-! ## Functions -/

/-- The parameters of a function of a class that is written in the language, apart from the object
that it is called on. -/
def writtenParams (owner : Standard) : String → Signature
  | "__init__" => ((initializer? owner).or (internalInitializer? owner)).getD []
  | "unwrap_or" => plains ["default"]
  | "map" | "map_err" => plains ["func"]
  | "__eq__" | "__ne__" | "__lt__" | "__le__" | "__gt__" | "__ge__" => plains ["other"]
  | "__or__" => plains [if owner = .typingForm then "other" else "right"]
  | "__ror__" =>
    plains [match owner with | .typingForm => "other" | .bareAlias => "right" | _ => "left"]
  | "__getitem__" => plains
    [match owner with
      | .typingAlias | .unpackAlias => "args"
      | .typingForm => "parameters"
      | _ => "params"]
  | "copy_with" => plains [if owner = .typingAlias then "args" else "params"]
  | "__mro_entries__" => plains ["bases"]
  | "__getattr__" => plains [if owner = .typingForm then "item" else "attr"]
  | "__setattr__" => plains ["attr", "val"]
  | "__instancecheck__" => plains ["obj"]
  | "__subclasscheck__" => plains ["cls"]
  | "__call__" =>
    [⟨"args", .varPositional, none⟩,
      ⟨if owner = .typingForm then "kwds" else "kwargs", .varKeyword, none⟩]
  | _ => []

/-- The parameters of a function that every program knows by its name. -/
def builtinParams? : String → Option Signature
  | "aiter" => some (positionals ["async_iterable"])
  | "all" | "any" => some (positionals ["iterable"])
  | "ascii" | "callable" | "hash" | "id" => some (positionals ["obj"])
  | "bin" | "hex" | "oct" => some (positionals ["number"])
  | "chr" => some (positionals ["i"])
  | "ord" => some (positionals ["c"])
  | "compile" => some
    (plains ["source", "filename", "mode"] ++
      [.plain "flags" (some (.int .fresh 0)), .plain "dont_inherit" (some (.bool false)),
        .plain "optimize" (some (.int .fresh (-1))),
        .named "_feature_version" (some (.int .fresh (-1)))])
  | "delattr" | "hasattr" => some (positionals ["obj", "name"])
  | "setattr" => some (positionals ["obj", "name", "value"])
  | "divmod" => some (positionals ["x", "y"])
  | "eval" => some
    [.positional "source" none, .positional "globals" (some .none),
      .positional "locals" (some .none)]
  | "exec" => some
    [.positional "source" none, .positional "globals" (some .none),
      .positional "locals" (some .none), .named "closure" (some .none)]
  | "exit" | "quit" => some [.plain "code" (some .none)]
  | "format" => some
    [.positional "value" none, .positional "format_spec" (some (.str .fresh ""))]
  | "globals" | "locals" => some []
  | "help" => some [⟨"args", .varPositional, none⟩, ⟨"kwds", .varKeyword, none⟩]
  | "input" => some [.positional "prompt" (some (.str .fresh ""))]
  | "isinstance" => some (positionals ["obj", "class_or_tuple"])
  | "issubclass" => some (positionals ["cls", "class_or_tuple"])
  | "open" => some
    [.plain "file" none, .plain "mode" (some (.str .fresh "r")),
      .plain "buffering" (some (.int .fresh (-1))), .plain "encoding" (some .none),
      .plain "errors" (some .none), .plain "newline" (some .none),
      .plain "closefd" (some (.bool true)), .plain "opener" (some .none)]
  | "pow" => some (plains ["base", "exp"] ++ [.plain "mod" (some .none)])
  | "print" => some
    [⟨"args", .varPositional, none⟩, .named "sep" (some (.str .fresh " ")),
      .named "end" (some (.str .fresh "\n")), .named "file" (some .none),
      .named "flush" (some (.bool false))]
  | "round" => some [.plain "number" none, .plain "ndigits" (some .none)]
  | "sum" => some [.positional "iterable" none, .plain "start" (some (.int .fresh 0))]
  | "__import__" => some
    [.plain "name" none, .plain "globals" (some .none), .plain "locals" (some .none),
      .plain "fromlist" (some (.tuple .fresh [])), .plain "level" (some (.int .fresh 0))]
  | _ => none

/-- The parameters of a native function. -/
def nativeSignature? : Native → Option Signature
  | .len | .repr => some (positionals ["obj"])
  | .abs => some (positionals ["x"])
  | .sorted => some
    (positionals ["iterable"] ++
      [.named "key" (some .none), .named "reverse" (some (.bool false))])
  | .max => none
  | .builtin name => builtinParams? name
  | .contextMethod | .abstractMethod => some (plains ["self", "context"])
  | .method owner name => some (plains ["self"] ++ writtenParams owner name)
  | .merging _ => some (plains ["error", "context"])

/-! ## Members -/

/-- The parameters of a method that stands for a built-in use: they are the same for every class. -/
def slotParams? : String → Option Signature
  | "__del__" => none
  | "__abs__" | "__aiter__" | "__anext__" | "__await__" | "__bool__" | "__float__" | "__hash__"
  | "__index__" | "__int__" | "__invert__" | "__iter__" | "__len__" | "__neg__" | "__next__"
  | "__pos__" | "__repr__" | "__str__" => some []
  | "__call__" | "__init__" => some Signature.everything
  | "__contains__" | "__delitem__" | "__getitem__" => some (positionals ["key"])
  | "__setitem__" => some (positionals ["key", "value"])
  | "__delattr__" | "__getattribute__" => some (positionals ["name"])
  | "__setattr__" => some (positionals ["name", "value"])
  | "__get__" => some [.positional "instance" none, .positional "owner" (some .none)]
  | "__set__" => some (positionals ["instance", "value"])
  | "__delete__" => some (positionals ["instance"])
  | "__pow__" | "__rpow__" => some [.positional "value" none, .positional "mod" (some .none)]
  | _ => some (positionals ["value"])

/-- The parameters of a method of texts and of what holds bytes. -/
def textMethodParams? (owner : Standard) (name : String) : Option Signature :=
  let isText := owner = .str
  let blank : Value := if isText then .str .fresh " " else .bytes .fresh [' '.toNat]
  match name with
  | "capitalize" | "isalnum" | "isalpha" | "isascii" | "isdigit" | "islower" | "isspace"
  | "istitle" | "isupper" | "lower" | "swapcase" | "title" | "upper" =>
    if isText then some [] else none
  | "casefold" | "isdecimal" | "isidentifier" | "isnumeric" | "isprintable" | "__sizeof__"
  | "__bytes__" | "__reduce__" | "clear" | "copy" | "reverse" => some []
  | "__format__" => some (positionals ["format_spec"])
  | "__reduce_ex__" => some [.positional "proto" (some (.int .fresh 0))]
  | "append" => some (positionals ["item"])
  | "extend" => some (positionals ["iterable_of_ints"])
  | "insert" => some (positionals ["index", "item"])
  | "pop" => some [.positional "index" (some (.int .fresh (-1)))]
  | "remove" => some (positionals ["value"])
  | "center" | "ljust" | "rjust" => some
    [.positional "width" none, .positional "fillchar" (some blank)]
  | "encode" | "decode" => some
    [.plain "encoding" (some (.str .fresh "utf-8")), .plain "errors" (some (.str .fresh "strict"))]
  | "expandtabs" => some [.plain "tabsize" (some (.int .fresh 8))]
  | "join" => some (positionals [if isText then "iterable" else "iterable_of_bytes"])
  | "strip" | "lstrip" | "rstrip" => some
    [.positional (if isText then "chars" else "bytes") (some .none)]
  | "partition" | "rpartition" => some (positionals ["sep"])
  | "removeprefix" => some (positionals ["prefix"])
  | "removesuffix" => some (positionals ["suffix"])
  | "replace" => some
    (positionals ["old", "new"] ++ [.positional "count" (some (.int .fresh (-1)))])
  | "split" | "rsplit" => some
    [.plain "sep" (some .none), .plain "maxsplit" (some (.int .fresh (-1)))]
  | "splitlines" => some [.plain "keepends" (some (.bool false))]
  | "translate" => some
    (positionals ["table"] ++
      if isText then [] else [.plain "delete" (some (.bytes .fresh []))])
  | "zfill" => some (positionals ["width"])
  | _ => none

/-- The parameters of a method of a number. -/
def numberMethodParams? (owner : Standard) : String → Option Signature
  | "__format__" => some (positionals ["format_spec"])
  | "__getnewargs__" | "__complex__" | "__sizeof__" | "as_integer_ratio" | "bit_count"
  | "bit_length" | "hex" | "is_integer" => some []
  | "__ceil__" | "__floor__" | "__trunc__" | "conjugate" => if owner = .int then none else some []
  | "__round__" => if owner = .int then none else some [.positional "ndigits" (some .none)]
  | "to_bytes" => some
    [.plain "length" (some (.int .fresh 1)), .plain "byteorder" (some (.str .fresh "big")),
      .named "signed" (some (.bool false))]
  | _ => none

/-- The parameters of a method of a list or a tuple. -/
def sequenceMethodParams? : String → Option Signature
  | "__reversed__" | "__sizeof__" | "__getnewargs__" | "clear" | "copy" | "reverse" => some []
  | "append" => some (positionals ["object"])
  | "count" | "remove" => some (positionals ["value"])
  | "extend" => some (positionals ["iterable"])
  | "index" => some
    [.positional "value" none, .positional "start" (some (.int .fresh 0)),
      .positional "stop" (some (.int .fresh 9223372036854775807))]
  | "insert" => some (positionals ["index", "object"])
  | "pop" => some [.positional "index" (some (.int .fresh (-1)))]
  | "sort" => some [.named "key" (some .none), .named "reverse" (some (.bool false))]
  | _ => none

/-- The parameters of a method of a class that every program knows. -/
def methodParams? (owner : Standard) (name : String) : Option Signature :=
  match owner, name with
  | .str, _ | .bytes, _ | .byteArray, _ => textMethodParams? owner name
  | .int, _ | .float, _ | .complex, _ => numberMethodParams? owner name
  | .list, _ | .tuple, _ => sequenceMethodParams? name
  | .dict, "__contains__" => some (positionals ["key"])
  | .dict, "__reversed__" | .dict, "popitem" => some []
  | .dict, "get" | .dict, "setdefault" =>
    some [.positional "key" none, .positional "default" (some .none)]
  | .object, "__format__" => some (positionals ["format_spec"])
  | .object, "__reduce_ex__" => some (positionals ["protocol"])
  | .object, _ => some []
  | .type, "__instancecheck__" => some (positionals ["instance"])
  | .type, "__subclasscheck__" => some (positionals ["subclass"])
  | .type, _ => some []
  | .boundMethod, "__reduce__" => some []
  | .memoryView, "release" | .memoryView, "tolist" | .memoryView, "toreadonly" => some []
  | .memoryView, "tobytes" => some [.plain "order" (some (.str .fresh "C"))]
  | .set, "issubset" | .set, "issuperset" | .frozenSet, "issubset" | .frozenSet, "issuperset" =>
    some (positionals ["other"])
  | _, _ => none

/-- The parameters of a function of a class that is not called on its instances. -/
def classMethodParams? : String → Option Signature
  | "from_bytes" => some
    [.plain "bytes" none, .plain "byteorder" (some (.str .fresh "big")),
      .named "signed" (some (.bool false))]
  | "fromhex" => some (positionals ["string"])
  | "fromkeys" => some [.positional "iterable" none, .positional "value" (some .none)]
  | "__getformat__" => some (positionals ["typestr"])
  | _ => none

/-- The parameters of a member that a class has from the start, apart from what it is seen
through. -/
def memberParams? (owner : Standard) (name : String) : Option Signature :=
  match owner.memberKind? name with
  | some .method => methodParams? owner name
  | some .slot => slotParams? name
  | some .ofClass => classMethodParams? name
  | some .static =>
    if name = "__new__" then some Signature.everything
    else if owner = .str then none
    else some (positionals ["frm", "to"])
  | _ => none

/-- The parameters of such a member as the class holds it: what it would be seen through comes
first, unless it is called with nothing of the class. -/
def heldMemberParams? (owner : Standard) (name : String) : Option Signature :=
  (memberParams? owner name).map fun params =>
    match owner.memberKind? name with
    | some .static => params
    | some .ofClass => positionals ["type"] ++ params
    | _ => positionals ["self"] ++ params

/-- Whether the documentation of a member tries to give parameters, but cannot be read. -/
def isMisdocumented : Standard → String → Bool
  | .int, "__round__" | .memoryView, "cast" | .memoryView, "hex" | .bytes, "hex"
  | .byteArray, "hex" | .dict, "pop" | .str, "maketrans" => true
  | _, _ => false

/-! ## Classes -/

/-- The parameters that the documentation of a class gives. -/
def documented? : Class → Option Signature
  | .standard .list | .standard .tuple => some [.positional "iterable" (some (.tuple .fresh []))]
  | .standard .float => some [.positional "x" (some (.int .fresh 0))]
  | .standard .complex => some
    [.plain "real" (some (.int .fresh 0)), .plain "imag" (some (.int .fresh 0))]
  | .standard .enumerate => some [.plain "iterable" none, .plain "start" (some (.int .fresh 0))]
  | .standard .reversed => some (positionals ["sequence"])
  | .standard .memoryView => some (plains ["object"])
  | .standard .property => some
    [.plain "fget" (some .none), .plain "fset" (some .none), .plain "fdel" (some .none),
      .plain "doc" (some .none)]
  | .standard .function => some
    (plains ["code", "globals"] ++
      [.plain "name" (some .none), .plain "argdefs" (some .none), .plain "closure" (some .none)])
  | .standard .boundMethod => some (positionals ["function", "instance"])
  | _ => none

/-- Whether a class, taken by itself, makes instances by nothing but the most general initializer.
-/
def isPlainStandard : Standard → Bool
  | .object | .generic | .abstractBase | .wrapErr | .named | .unprintable | .counter | .callable
  | .nativeFunction | .coroutine | .generator | .asyncGenerator | .unionType | .methodDescriptor
  | .wrapperDescriptor | .methodWrapper | .getSetDescriptor | .memberDescriptor
  | .classMethodDescriptor | .listIterator | .tupleIterator | .textIterator | .bytesIterator
  | .setIterator | .rangeIterator | .keyIterator | .reverseListIterator | .callIterator
  | .siteHelper => true
  | _ => false

end Store
end FaultContext
