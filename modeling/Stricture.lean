import Stricture.Alias
import Stricture.Check
import Stricture.Comparison.Bounds
import Stricture.Evaluation
import Stricture.Finding
import Stricture.Grouping
import Stricture.Listing
import Stricture.Name.Access
import Stricture.Name.Builtin
import Stricture.Name.Quality
import Stricture.Number.Amount
import Stricture.Number.Double
import Stricture.Number.Shortest
import Stricture.Options
import Stricture.Proofs.Call.Forwarding
import Stricture.Proofs.Comparison.Bounds
import Stricture.Proofs.Evaluation.Agreement
import Stricture.Proofs.Options.Relaxation
import Stricture.Proofs.Place.Checks
import Stricture.Proofs.Scope.AfterBlock
import Stricture.Proofs.Scope.Binders
import Stricture.Proofs.Scope.Clash
import Stricture.Proofs.Scope.Isolation
import Stricture.Proofs.Token.Brackets
import Stricture.Proofs.Tree.Ancestry
import Stricture.Proofs.Tree.Containment
import Stricture.Proofs.Tree.Links
import Stricture.Proofs.Tree.Parts
import Stricture.Proofs.Tree.Walk
import Stricture.Rendering
import Stricture.Rendering.Line
import Stricture.Rendering.Precedence
import Stricture.Rules.Arithmetic
import Stricture.Rules.Assignment
import Stricture.Rules.Attribute
import Stricture.Rules.Binding
import Stricture.Rules.Body
import Stricture.Rules.Call
import Stricture.Rules.Class
import Stricture.Rules.Comment
import Stricture.Rules.Comparison
import Stricture.Rules.Condition
import Stricture.Rules.Count
import Stricture.Rules.Display
import Stricture.Rules.Function
import Stricture.Rules.FunctionSize
import Stricture.Rules.Import
import Stricture.Rules.Keyword
import Stricture.Rules.Layout
import Stricture.Rules.LineComplexity
import Stricture.Rules.Literal
import Stricture.Rules.Loop
import Stricture.Rules.Module
import Stricture.Rules.Naming
import Stricture.Rules.Nesting
import Stricture.Rules.NumberText
import Stricture.Rules.Overuse
import Stricture.Rules.Returning
import Stricture.Rules.StringText
import Stricture.Rules.TokenLayout
import Stricture.Rules.TryBlock
import Stricture.Scope
import Stricture.Subject
import Stricture.Text.Blank
import Stricture.Text.Digit
import Stricture.Text.Identifier
import Stricture.Text.Printable
import Stricture.Text.Quoted
import Stricture.Text.Ranges
import Stricture.Text.Uppercase
import Stricture.Text.Word
import Stricture.Token.Basic
import Stricture.Token.Docstring
import Stricture.Token.Text
import Stricture.Tree.Block
import Stricture.Tree.Induction
import Stricture.Tree.Kind
import Stricture.Tree.Literal
import Stricture.Tree.Method
import Stricture.Tree.Node
import Stricture.Tree.Operator
import Stricture.Tree.Program
import Stricture.Tree.Settle
import Stricture.Tree.Shape
import Stricture.Tree.Signature
import Stricture.Tree.Site
import Stricture.Tree.Target
import Stricture.Tree.Unwrap
import Stricture.Value
import Stricture.Violation
import Stricture.Proofs.Display.Duplicates
import Stricture.Proofs.Branch.Chains
import Stricture.Proofs.Loop.Breaks
import Stricture.Proofs.Comparison.Order
import Stricture.Proofs.Returning.Consistency
import Stricture.Proofs.Returning.Variables
import Stricture.Proofs.Comparison.Lengths
import Stricture.Proofs.Evaluation.Outcomes
import Stricture.Proofs.Comparison.Completion
import Stricture.Proofs.Display.Completion
import Stricture.Proofs.Body.Statements
import Stricture.Proofs.Condition.Repetition
import Stricture.Proofs.Layout.Lines
import Stricture.Proofs.Class.MethodOrder
import Stricture.Proofs.Function.Mentions
import Stricture.Proofs.Assignment.Alignment
import Stricture.Proofs.Function.Locals
import Stricture.Proofs.Overuse.Hints
import Stricture.Proofs.Exception.Duplicates
import Stricture.Proofs.Line.Complexity
import Stricture.Proofs.Line.Hints
import Stricture.Proofs.Token.Concatenation
import Stricture.Proofs.Token.Indentation
import Stricture.Proofs.Token.Opening
import Stricture.Proofs.Token.Escapes
import Stricture.Proofs.Listing.Headings
import Stricture.Proofs.Listing.Statistics
import Stricture.Proofs.Alias.Names
import Stricture.Proofs.Place.Tuples
import Stricture.Proofs.Assignment.Targets
import Stricture.Proofs.Tree.Signs
