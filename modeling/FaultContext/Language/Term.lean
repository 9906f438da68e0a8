/-
# FaultContext.Language.Term -- the terms that programs are written in.

Four kinds of terms refer to one another.  A `Term` denotes a value and builds it anew each time it
is evaluated.  A `TypeTerm` denotes a type, or whatever stands where a type is expected.  A
`FunctionTerm` denotes a function with its parameters, annotations and surrounding layers.  An
`Expr` is the body of a function.

Terms are finite trees with no values in them, so everything that a program can say is said here,
and what a term means is said once, in the modules that evaluate it.
-/

namespace FaultContext

/-- How a parameter takes its argument. -/
inductive ParamKind where
  | positionalOnly
  | standard
  | varPositional
  | keywordOnly
  | varKeyword
  deriving DecidableEq, Repr

/-- What calling a function gives. -/
inductive Form where
  | direct
  | asynchronous
  | generator
  | asynchronousGenerator
  deriving DecidableEq, Repr

/-- One argument that a relaying layer passes on. -/
inductive PassedArgument where
  | positional (name : String)
  | spread (name : String)
  | spreadNamed (name : String)
  | named (keyword name : String)
  deriving DecidableEq, Repr

/-- Operations whose operands are all evaluated first, from left to right. -/
inductive Operation where
  | raise | raiseFrom | ok | err
  | floorDiv | add | sub | mul | eq | lt
  | len | index | text | repr | int | upper | sorted | list | tuple
  | format | contextError | report | note | setCause | unwrap
  deriving DecidableEq, Repr

mutual

/-- A term that denotes a value. -/
inductive Term where
  | none
  | bool (b : Bool)
  | int (n : Int)
  | str (s : String)
  | float (spelling : String)
  | list (items : List Term)
  | tuple (items : List Term)
  | dict (entries : List (Term × Term))
  | contextExpr (number : Term)
  | report (message : Term) (contexts : List Term)
  | named (name : String) (attributes : List (String × Term))
  | unprintable
  | ok (value : Term)
  | err (error : Term)
  | subErr (error : Term)
  | construct (cls : TypeTerm) (args : List Term) (cause : Option Term) (notes : List String)
  | contextError (context : Term) (source : Option Term)
  | type (type : TypeTerm)
  | function (function : FunctionTerm)
  | builtin (name : String)
  | counter (value : Term)
  | variable (name : String)
  | defined (name : String)

/-- A term that stands where a type is expected. -/
inductive TypeTerm where
  | name (name : String)
  | generic (head : String) (args : List TypeTerm)
  | union (members : List TypeTerm)
  | typeVar (name : String)
  | quoted (type : TypeTerm)
  | source (text : String)
  | value (value : Term)

/-- A parameter with its default and its annotation. -/
inductive ParamTerm where
  | mk (name : String) (kind : ParamKind) (default : Option Term) (hint : Option TypeTerm)

/-- A layer around a function: it adds arguments and calls the function. -/
inductive LayerTerm where
  | inject (args : List Term) (named : List (String × Term)) (asynchronous : Bool)
  | relay (params : List ParamTerm) (passed : List PassedArgument) (args : List Term)
      (named : List (String × Term)) (asynchronous : Bool := false)

/-- The shape in which a function is handed out. -/
inductive ShapeTerm where
  | plain
  | callable
  | applied (args : List Term) (named : List (String × Term))
  | static
  | ofClass

/-- A function. -/
inductive FunctionTerm where
  | mk (name : String) (params : List ParamTerm) (body : Option Expr) (form : Form)
      (doc : Option String) (attributes : List (String × Term)) (returns : Option TypeTerm)
      (layers : List LayerTerm) (shape : ShapeTerm) (awaits : Nat) (awaited : Option Expr)

/-- The body of a function. -/
inductive Expr where
  | value (term : Term)
  | argument (name : String)
  | locals
  | branch (condition whenTrue whenFalse : Expr)
  | sequence (items : List Expr)
  | log (tag : String) (rest : Expr)
  | construct (cls : TypeTerm) (args : List Expr)
  | call (function : String) (args : List Expr) (named : List (String × Expr))
  | attribute (object : Expr) (name : String)
  | operation (op : Operation) (operands : List Expr)

end

/-- The name under which a function term is handed out. -/
def FunctionTerm.name : FunctionTerm → String
  | .mk name .. => name

instance : Inhabited Term := ⟨.none⟩
instance : Inhabited TypeTerm := ⟨.name "object"⟩
instance : Inhabited Expr := ⟨.locals⟩
instance : Inhabited ParamTerm := ⟨.mk "" .standard none none⟩
instance : Inhabited LayerTerm := ⟨.inject [] [] false⟩
instance : Inhabited ShapeTerm := ⟨.plain⟩
instance : Inhabited FunctionTerm := ⟨.mk "" [] none .direct none [] none [] .plain 0 none⟩

end FaultContext
