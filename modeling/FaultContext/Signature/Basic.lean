/-
# FaultContext.Signature.Basic -- parameters.

A signature is the list of the parameters of something callable: positional-only ones first, then
those that take either kind of argument, a collector of positional arguments, keyword-only ones and
a collector of named arguments.
-/
import FaultContext.Language.Term
import FaultContext.Value.Basic

namespace FaultContext

/-- A parameter and its default. -/
structure Param where
  name : String
  kind : ParamKind
  default : Option Value

/-- The parameters of something callable. -/
abbrev Signature := List Param

namespace Param

/-- Whether a parameter collects arguments instead of taking one. -/
def isCollector (p : Param) : Bool :=
  p.kind == .varPositional || p.kind == .varKeyword

/-- Whether a positional argument can go to a parameter. -/
def takesPositional (p : Param) : Bool :=
  p.kind == .positionalOnly || p.kind == .standard

/-- Whether a named argument can go to a parameter. -/
def takesNamed (p : Param) : Bool :=
  p.kind == .standard || p.kind == .keywordOnly

end Param

namespace Signature

/-- The signature that takes whatever it is given. -/
def everything : Signature :=
  [⟨"args", .varPositional, none⟩, ⟨"kwargs", .varKeyword, none⟩]

/-- The names of the parameters. -/
def names (s : Signature) : List String := s.map Param.name

end Signature
end FaultContext
