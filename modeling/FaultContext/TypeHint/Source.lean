/-
# FaultContext.TypeHint.Source -- types written as text.

An annotation may be given as text, to be read when it is needed.  A type term is written as an
annotation would write it; the terms inside it are written in turn, and a term that is itself a text
is put in quotes.
-/
import FaultContext.Language.Term
import FaultContext.Text.Quoted

namespace FaultContext.TypeHint

/-- A term for a plain value as an annotation would write it. -/
def termSource : Term → String
  | .none => "None"
  | .bool b => if b then "True" else "False"
  | .int n => toString n
  | .str t => Text.quoted t
  | _ => ""

mutual

/-- A type term as an annotation would write it. -/
def typeSource : TypeTerm → String
  | .name name => name
  | .generic head args => head ++ "[" ++ ", ".intercalate (typeSources args) ++ "]"
  | .union members => " | ".intercalate (typeSources members)
  | .typeVar name => name
  | .quoted type => Text.quoted (typeSource type)
  | .source text => text
  | .value term => termSource term

/-- Several type terms as annotations would write them. -/
def typeSources : List TypeTerm → List String
  | [] => []
  | type :: rest => typeSource type :: typeSources rest

end

end FaultContext.TypeHint
