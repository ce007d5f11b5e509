import Stricture.Subject
import Stricture.Tree.Signature

/-!
# Rules for calls

Functions that should not be called, truth values without a name, and calls of the parent class and
of type tests.
-/

namespace Stricture.Rules

/-- The functions that should not be called. -/
def unwantedFunctions : List String := [
  "eval", "exec", "compile", "exit", "quit", "globals", "locals", "vars", "dir", "input",
  "breakpoint", "hasattr", "delattr", "copyright", "help", "credits", "__import__", "staticmethod"]

/-- Truth values among the positional arguments. -/
def booleanArguments (c : CallParts) : List Finding :=
  c.args.flatMap fun a =>
    match a.literal? with
    | some (.bool b) =>
      [Violation.booleanPositionalArgument.atNode a (if b then "True" else "False")]
    | _ => []

/-- The context of the site is a function, and the context of that is a class. -/
def isInMethod (s : Site) : Bool :=
  match s.contexts with
  | function :: cls :: _ => function.isFunction && cls.kind == .classDef
  | _ => false

/-- A call of the parent class is made inside of a method and without arguments. -/
def parentCalls (s : Site) (c : CallParts) : List Finding :=
  reportIf (!isInMethod s) (Violation.wrongSuperCall.atNode s.node "not inside method")
    ++ reportIf (!(c.args.isEmpty && c.keywords.isEmpty))
      (Violation.wrongSuperCall.atNode s.node "remove arguments")

/-- A type test against a tuple of one type. -/
def isSingleTypeTest (c : CallParts) : Bool :=
  match c.args with
  | [_, types] =>
    match types.shape with
    | .tuple [_] _ => true
    | _ => false
  | _ => false

/-- The findings for a call of the function with a name. -/
def callFindings (s : Site) (name : String) (c : CallParts) : List Finding :=
  reportIf (unwantedFunctions.contains name) (Violation.wrongFunctionCall.atNode s.node name)
    ++ booleanArguments c
    ++ (if name = "super" then parentCalls s c else [])
    ++ reportIf (name == "isinstance" && isSingleTypeTest c)
      (Violation.wrongIsinstanceWithTuple.atNode s.node)

/-- Calls, which are known by the text of what is called. -/
def calls : RenderingRule := fun seen s =>
  match s.node.call? with
  | some c =>
    RenderingRule.requiring seen [s.under c.func] []
      (.ofFindings (callFindings s (seen.calledName s) c), seen.mark (s.under c.func))
  | none => (.empty, seen)

end Stricture.Rules
