/-
# FaultContext.Answer.Basic -- what a step answers.

An answer holds everything that can be seen of a step, and nothing of the world.  A step that
raises answers with a failure; a call answers with what was raised, for that is what it was made to
find out.
-/
import FaultContext.Answer.Shown
import FaultContext.World.Basic

namespace FaultContext

/-- The exception that ended a step, and the stage of the step in which it was raised. -/
structure ShownFailure where
  cls : String
  message : String
  detail : Option Shown
  stage : Option String

/-- A parameter. -/
structure ShownParam where
  name : String
  kind : ParamKind
  default : Option Shown

/-- A captured value. -/
structure ShownCapture where
  name : Option String
  source : Shown
  parameters : Option (List String)
  allArguments : Bool

/-- Where a context comes from. -/
inductive ShownSource where
  | template (format : String) (positional named : List ShownCapture)
  | value (value : Shown)
  | provider (passArguments : Bool)

/-- The layers of a failure: the class and text of each, of the last one, and all of them as text.
-/
structure ShownChain where
  layers : List (String × String)
  root : String × String
  report : String

/-- What can be asked about a function. -/
structure ShownFunction where
  name : Option String
  qualifiedName : Option String
  doc : Option String
  annotations : List (String × ShownType)
  kind : Option MethodKind
  params : List ShownParam
  ownParams : List ShownParam
  asynchronous : Bool
  attributes : List (String × Shown)

/-- A function as a guard sees it, and what it makes of some calls. -/
structure ShownDescriptor where
  name : String
  params : List String
  signature : List ShownParam
  callSignature : List ShownParam
  asynchronous : Bool
  kind : Option MethodKind
  hint : ShownType
  failureType : ShownType
  accepts : List Bool
  scopes : List (List (String × Shown))

/-- The outcome of a call. -/
structure ShownCall where
  raised : Bool
  value : Shown
  suspensions : Option Nat
  same : Option Bool

/-- What a step answers. -/
inductive Answer where
  | done
  | failed (failure : ShownFailure)
  | value (value : Shown)
  | valueSame (value : Shown) (same : Bool)
  | same (same : Bool)
  | truth (holds : Bool)
  | type (type : ShownType)
  | types (types : List ShownType)
  | fields (fields : List (String × Option Char))
  | source (source : ShownSource) (renders : List Answer)
  | results (results : List Answer)
  | shown (value : Shown) (text : String) (repr : Option String) (chain : Option ShownChain)
  | order (names : List String) (implementsContext : Bool)
  | binding (name : Option String)
  | described (descriptor : ShownDescriptor)
  | defined (function : ShownFunction)
  | methods (methods : List Answer)
  | called (call : ShownCall)
  | steps (steps : List (Answer × Observed))

end FaultContext
