import FaultContext.Annotation.Check
import FaultContext.Annotation.Evaluate
import FaultContext.Annotation.Grammar
import FaultContext.Annotation.Literal
import FaultContext.Annotation.Operator
import FaultContext.Annotation.Phrase
import FaultContext.Annotation.Reading
import FaultContext.Annotation.Scan
import FaultContext.Annotation.Token
import FaultContext.Answer.Basic
import FaultContext.Answer.Show
import FaultContext.Answer.Shown
import FaultContext.Binding.Answer
import FaultContext.Binding.Basic
import FaultContext.Binding.Cache
import FaultContext.Binding.Registry
import FaultContext.Binding.Resolution
import FaultContext.Call.Body
import FaultContext.Call.Builtin
import FaultContext.Call.Engine
import FaultContext.Call.Items
import FaultContext.Call.Method
import FaultContext.Call.Native
import FaultContext.Call.Outcome
import FaultContext.Call.TextMethod
import FaultContext.Chain
import FaultContext.Class.Linearization
import FaultContext.Class.Members
import FaultContext.Class.Standard
import FaultContext.Class.Summary
import FaultContext.Fault
import FaultContext.Format.Layout
import FaultContext.Format.Markup
import FaultContext.Format.Path
import FaultContext.Format.Percent
import FaultContext.Format.Render
import FaultContext.Format.Spec
import FaultContext.Guard.Attach
import FaultContext.Guard.Failure
import FaultContext.Language.Evaluate
import FaultContext.Language.Names
import FaultContext.Language.Term
import FaultContext.Number.Binary64
import FaultContext.Number.Decimal
import FaultContext.Number.Integer
import FaultContext.Number.Power
import FaultContext.Program.Declare
import FaultContext.Program.Run
import FaultContext.Program.Step
import FaultContext.Proofs.Accepting
import FaultContext.Proofs.Alike
import FaultContext.Proofs.ArgumentFidelity
import FaultContext.Proofs.Chaining
import FaultContext.Proofs.Traversal
import FaultContext.Proofs.Entering
import FaultContext.Proofs.EqualTypes
import FaultContext.Proofs.FailureBranch
import FaultContext.Proofs.FieldHeads
import FaultContext.Proofs.Filling
import FaultContext.Proofs.Hierarchy
import FaultContext.Proofs.InjectedArguments
import FaultContext.Proofs.Isolation
import FaultContext.Proofs.LayeredCalls
import FaultContext.Proofs.LayeredDecorations
import FaultContext.Proofs.Layering
import FaultContext.Proofs.Layers
import FaultContext.Proofs.Matching
import FaultContext.Proofs.Misfit
import FaultContext.Proofs.Overwriting
import FaultContext.Proofs.Placing
import FaultContext.Proofs.PlainCalls
import FaultContext.Proofs.RaisedFailure
import FaultContext.Proofs.Reach
import FaultContext.Proofs.Reachable
import FaultContext.Proofs.Recalling
import FaultContext.Proofs.Registering
import FaultContext.Proofs.Remembering
import FaultContext.Proofs.Rendering
import FaultContext.Proofs.Resolving
import FaultContext.Proofs.ReturnedFailure
import FaultContext.Proofs.Stack
import FaultContext.Proofs.Suspending
import FaultContext.Proofs.TextFlaws
import FaultContext.Proofs.Transparency
import FaultContext.Signature.Basic
import FaultContext.Signature.Binding
import FaultContext.Signature.Call
import FaultContext.Signature.Documented
import FaultContext.Signature.Reading
import FaultContext.Sorting.Gallop
import FaultContext.Sorting.Merge
import FaultContext.Sorting.Runs
import FaultContext.Store.Links
import FaultContext.Store.Object
import FaultContext.Template.Basic
import FaultContext.Template.Parse
import FaultContext.Template.Render
import FaultContext.Text.Blank
import FaultContext.Text.Identifier
import FaultContext.Text.Letter
import FaultContext.Text.LowerCase
import FaultContext.Text.Numeral
import FaultContext.Text.Printable
import FaultContext.Text.Quoted
import FaultContext.TypeHint.Build
import FaultContext.TypeHint.Query
import FaultContext.TypeHint.Resolve
import FaultContext.TypeHint.Source
import FaultContext.Value.Access
import FaultContext.Value.Arithmetic
import FaultContext.Value.Attribute
import FaultContext.Value.Basic
import FaultContext.Value.Equality
import FaultContext.Value.Operator
import FaultContext.Value.Text
import FaultContext.World.Assign
import FaultContext.World.Basic
import FaultContext.World.Construct
import FaultContext.World.Eval
import FaultContext.World.Initialize
import FaultContext.World.Keeps
import FaultContext.World.Session
import FaultContext.World.Steady
import FaultContext.Proofs.Answering
import FaultContext.Proofs.Descent
import FaultContext.Proofs.Lasting
import FaultContext.Proofs.Nearest
import FaultContext.Proofs.StandardResolution
import FaultContext.Proofs.EagerResolution
import FaultContext.Proofs.NotedDecorations
import FaultContext.Proofs.Redecorating
import FaultContext.Proofs.Acceptance
import FaultContext.Proofs.Refusing
import FaultContext.Proofs.SameAnswer
import FaultContext.Proofs.RegistrationFrame
import FaultContext.Proofs.ParameterAnnotations
import FaultContext.Proofs.UnhashableClasses
import FaultContext.Proofs.CaptureOrder
import FaultContext.Proofs.UnrenderedContext
import FaultContext.Proofs.CapturedFunctions
import FaultContext.Proofs.ChainWalk
import FaultContext.Proofs.RootCause
import FaultContext.Proofs.FailureTypes
import FaultContext.Proofs.FormatTexts
import FaultContext.Proofs.Escaping
import FaultContext.Proofs.FieldReading
