import Stricture.Finding
import Stricture.Name.Access
import Stricture.Options
import Stricture.Tree.Signature

/-!
# Rules for the size of functions

What is counted in a function, and the limits for it. Inner functions count for the outer ones.
-/

namespace Stricture.Rules

/-- All sites in the body of a function, statement by statement. -/
def bodySites (s : Site) : List Site :=
  s.node.body.flatMap fun statement => (s.under statement).walk

/-- The name that is stored at a site, unless a comprehension binds it. -/
def storedName? (s : Site) : Option String :=
  match s.node.shape with
  | .name id (some .store) =>
    if Name.isUnused id || s.parentIsAny [.comprehension] then none else some id
  | _ => none

/-- The local variables of a function. -/
def localVariables (s : Site) : List String :=
  ((bodySites s).filterMap storedName?).eraseDups

/-- What is counted in a function. -/
inductive FunctionMeasure where
  | arguments
  | returns
  | awaits
  | asserts
  | locals
  | expressions
  deriving DecidableEq

namespace FunctionMeasure

/-- The measures in the order in which they are reported. -/
def all : List FunctionMeasure :=
  [arguments, returns, awaits, asserts, locals, expressions]

/-- How many nodes of a kind stand in the body of a function. -/
def countKind (s : Site) (kind : Kind) : Nat :=
  (bodySites s).countP fun t => t.node.kind == kind

/-- The count of a function. A lambda has arguments only. -/
def count (s : Site) : FunctionMeasure → Nat
  | arguments => ((s.node.signature?.map Signature.all).getD []).length
  | returns => countKind s .returned
  | awaits => countKind s .awaited
  | asserts => countKind s .assertion
  | locals => (localVariables s).length
  | expressions => countKind s .expression

/-- The limit of a count. -/
def limit (o : Options) : FunctionMeasure → Limit
  | arguments => o.maxArguments
  | returns => o.maxReturns
  | awaits => o.maxAwaits
  | asserts => o.maxAsserts
  | locals => o.maxLocalVariables
  | expressions => o.maxExpressions

/-- The violation of a count that is too high. -/
def violation : FunctionMeasure → Violation
  | arguments => .tooManyArguments
  | returns => .tooManyReturns
  | awaits => .tooManyAwaits
  | asserts => .tooManyAsserts
  | locals => .tooManyLocals
  | expressions => .tooManyExpressions

/-- The functions to which a measure applies. -/
def applies (s : Site) : FunctionMeasure → Bool
  | arguments => s.node.isFunction || s.node.kind == .lambda
  | _ => s.node.isFunction

end FunctionMeasure

/-- A count that is over its limit. -/
def overLimit (v : Violation) (limit : Limit) (n : Node) (count : Nat) : List Finding :=
  reportIf (limit.isExceededBy count) (v.atNode n (toString count))

/-- The size of functions, measure by measure. -/
def functionSizes (o : Options) (sites : List Site) : List Finding :=
  FunctionMeasure.all.flatMap fun m =>
    (sites.filter fun s => m.applies s).flatMap fun s =>
      overLimit m.violation (m.limit o) s.node (m.count s)

end Stricture.Rules
