/-
# FaultContext.Annotation.Phrase -- expressions that annotations are made of.

A phrase is an expression together with the line on which it starts; the line is needed only to say
where a problem is.  Phrases are finite trees with no values in them.
-/
import FaultContext.Language.Term
import FaultContext.Number.Binary64

namespace FaultContext.Annotation

open Number (Binary64)

/-- Operators between two operands. -/
inductive BinaryOperator where
  | or | xor | and | shiftLeft | shiftRight
  | add | sub | mul | matMul | div | floorDiv | mod | pow
  deriving DecidableEq, Repr

/-- Operators in front of one operand. -/
inductive UnaryOperator where
  | not | invert | plus | minus
  deriving DecidableEq, Repr

/-- Comparisons. -/
inductive Comparison where
  | eq | ne | lt | le | gt | ge | is | isNot | isIn | notIn
  deriving DecidableEq, Repr

/-- What a comprehension builds of single items. -/
inductive Collection where
  | list
  | set
  | generator
  deriving DecidableEq, Repr

/-- A constant. -/
inductive Constant where
  | none
  | bool (b : Bool)
  | ellipsis
  | int (n : Nat)
  | float (x : Binary64)
  | imaginary (x : Binary64)
  | text (s : String)
  | bytes (codes : List Nat)

mutual

/-- An expression and the line on which it starts. -/
inductive Phrase where
  | mk (line : Nat) (shape : Shape)

/-- What an expression is made of. -/
inductive Shape where
  | name (id : String)
  | constant (c : Constant)
  /-- A text with expressions in it. -/
  | joined (pieces : List Piece)
  | logical (isAnd : Bool) (items : List Phrase)
  | unary (op : UnaryOperator) (a : Phrase)
  | binary (op : BinaryOperator) (a b : Phrase)
  | compare (a : Phrase) (rest : List (Comparison × Phrase))
  | conditional (test whenTrue whenFalse : Phrase)
  | function (params : List Parameter) (body : Phrase)
  | call (f : Phrase) (args : List Argument)
  | attribute (a : Phrase) (id : String)
  | subscript (a index : Phrase)
  | slice (start stop step : Option Phrase)
  | starred (a : Phrase)
  | tuple (items : List Phrase)
  | list (items : List Phrase)
  | set (items : List Phrase)
  /-- A table; an entry without a key is a table that is spread. -/
  | dict (entries : List (Option Phrase × Phrase))
  | comprehension (kind : Collection) (element : Phrase) (clauses : List Clause)
  | dictComprehension (key value : Phrase) (clauses : List Clause)
  | assign (id : String) (value : Phrase)
  | yields (a : Option Phrase)
  | yieldsFrom (a : Phrase)
  | awaits (a : Phrase)

/-- A piece of a text with expressions in it. -/
inductive Piece where
  | text (s : String)
  | value (a : Phrase) (conversion : Option Char) (spec : Option (List Piece))

/-- A parameter of a function. -/
inductive Parameter where
  | mk (id : String) (kind : ParamKind) (default : Option Phrase)

/-- An argument of a call. -/
inductive Argument where
  | positional (a : Phrase)
  | spread (a : Phrase)
  | named (id : String) (a : Phrase)
  | spreadNamed (a : Phrase)

/-- A loop of a comprehension. -/
inductive Clause where
  | mk (target source : Phrase) (conditions : List Phrase) (asynchronous : Bool)

end

instance : Inhabited Phrase := ⟨.mk 0 (.constant .none)⟩

namespace Phrase

/-- The line on which a phrase starts. -/
def line : Phrase → Nat
  | .mk line _ => line

/-- What a phrase is made of. -/
def shape : Phrase → Shape
  | .mk _ shape => shape

/-- The kind of a phrase, as problems call it. -/
def kindName (p : Phrase) : String :=
  match p.shape with
  | .attribute .. => "attribute"
  | .subscript .. => "subscript"
  | .starred _ => "starred"
  | .name _ => "name"
  | .list _ => "list"
  | .tuple _ => "tuple"
  | .function .. => "lambda"
  | .call .. => "function call"
  | .logical .. | .binary .. | .unary .. | .slice .. => "expression"
  | .comprehension .generator _ _ => "generator expression"
  | .yields _ | .yieldsFrom _ => "yield expression"
  | .awaits _ => "await expression"
  | .comprehension .list _ _ => "list comprehension"
  | .comprehension .set _ _ => "set comprehension"
  | .dictComprehension .. => "dict comprehension"
  | .dict _ => "dict literal"
  | .set _ => "set display"
  | .joined _ => "f-string expression"
  | .constant .none => "None"
  | .constant (.bool true) => "True"
  | .constant (.bool false) => "False"
  | .constant .ellipsis => "ellipsis"
  | .constant _ => "literal"
  | .compare .. => "comparison"
  | .conditional .. => "conditional expression"
  | .assign .. => "named expression"

mutual

/-- The first part of a phrase that a loop cannot assign to.  What follows the word that ends a
target is read as a comparison and belongs to it. -/
def badTarget? : Phrase → Option Phrase
  | .mk line shape => badTargetShape? line shape

/-- The first part of something that a loop cannot assign to. -/
def badTargetShape? (line : Nat) : Shape → Option Phrase
  | .list items | .tuple items => badTargets? items
  | .starred a => badTarget? a
  | .compare a ((.isIn, _) :: _) => badTarget? a
  | .compare .. => none
  | .name _ | .subscript .. | .attribute .. => none
  | shape => some (.mk line shape)

/-- The first part of several phrases that a loop cannot assign to. -/
def badTargets? : List Phrase → Option Phrase
  | [] => none
  | p :: rest =>
    match badTarget? p with
    | some bad => some bad
    | none => badTargets? rest

end

end Phrase
end FaultContext.Annotation
