import Stricture.Rendering.Line
import Stricture.Text.Blank

/-!
# Rendering expressions

An expression is rendered as one line of text. Brackets are decided by comparing two precedences:
that of the expression and that of the slot in which it stands. The slot of a node is known once
its parent has been rendered, and is remembered from then on; until then the node is taken to stand
in the tightest slot, so a sum rendered on its own comes out in brackets.

What is remembered is which nodes were rendered on their own (`Rendered`). A node stands in the slot
that its parent gives it exactly when the parent was rendered before, on its own or as a part of
something else.

Checks do not depend on how expressions are rendered: they take any printer (`Printer`), and
`Node.render` is the one that they take if no other is given.
-/

namespace Stricture

open Rendering Line

mutual

/-- The text of an expression that stands in the given slot. `leads` says that nothing was written
before it. -/
def Node.render (leads : Bool) (slot : Nat) : Node → Line
  | .mk _ _ (.name id _) => id
  | .mk _ _ (.attr value attr _) =>
    value.render leads Precedence.tightest ++ "." ++ attr
  | .mk _ _ (.subscript value index _) =>
    value.render leads Precedence.tightest ++ "[" ++ index.render false Precedence.index ++ "]"
  | .mk _ _ (.starred value _) => "*" ++ value.render false Precedence.tightest
  | .mk _ _ (.constant value kind) => constant leads slot value kind
  | .mk _ _ (.tuple [] _) => "()"
  | .mk _ _ (.tuple [element] _) =>
    delimit Precedence.tuple slot (element.render false Precedence.comma ++ ",")
  | .mk _ _ (.tuple elements _) =>
    delimit Precedence.tuple slot (join ", " (renderAll Precedence.comma elements))
  | .mk _ _ (.list elements _) =>
    "[" ++ join ", " (renderAll Precedence.comma elements) ++ "]"
  | .mk _ _ (.setOf elements) => setElements (renderAll Precedence.comma elements)
  | .mk _ _ (.dict keys values) =>
    "\x7b" ++ join ", "
      (entries (renderOptions Precedence.tightest keys) (renderAll Precedence.comma values))
      ++ "\x7d"
  | .mk _ _ (.binary left op right) =>
    delimit (Precedence.ofBinary op) slot
      (left.render false (Precedence.leftOperand op) ++ " " ++ binarySign op ++ " "
        ++ right.render false (Precedence.rightOperand op))
  | .mk _ _ (.boolean op values) =>
    delimit (Precedence.ofBoolean op) slot
      (join (" " ++ booleanSign op ++ " ") (renderAll (Precedence.ofBoolean op + 1) values))
  | .mk _ _ (.unary op operand) =>
    delimit (Precedence.ofUnary op) slot
      (unarySign op ++ operand.render false (Precedence.ofUnary op))
  | .mk _ _ (.compare left ops comparators) =>
    delimit Precedence.comparison slot
      (chain (left.render false (Precedence.comparison + 1)) ops
        (renderAll (Precedence.comparison + 1) comparators))
  | .mk _ _ (.conditional test body orelse) =>
    delimit Precedence.conditional slot
      (body.render false (Precedence.conditional + 1) ++ " if "
        ++ test.render false (Precedence.conditional + 1) ++ " else "
        ++ orelse.render false Precedence.conditional)
  | .mk _ _ (.lambda params body) =>
    delimit Precedence.conditional slot
      ("lambda " ++ params.render false Precedence.tightest ++ ": "
        ++ body.render false Precedence.conditional)
  | .mk _ _ (.params positionalOnly positional variadic keywordOnly keywordDefaults
      variadicKeyword defaults) =>
    parameters (renderAll Precedence.tightest positionalOnly)
      (renderAll Precedence.tightest positional) (renderOption Precedence.tightest variadic)
      (renderAll Precedence.tightest keywordOnly)
      (renderOptions Precedence.comma keywordDefaults)
      (renderOption Precedence.tightest variadicKeyword) (renderAll Precedence.comma defaults)
  | .mk _ _ (.param name hint) => name ++ after ": " (renderOption Precedence.tightest hint)
  | .mk _ _ (.walrus target value) =>
    "(" ++ target.render false Precedence.named ++ " := "
      ++ value.render false (Precedence.named + 1) ++ ")"
  | .mk _ _ (.call func args keywords) =>
    func.render leads Precedence.tightest ++ "("
      ++ join ", " (renderAll (Precedence.argument args keywords) args
        ++ renderAll Precedence.tightest keywords) ++ ")"
  | .mk _ _ (.keyword name value) =>
    keywordSign name ++ value.render false Precedence.comma
  | .mk _ _ (.awaited value) =>
    delimit Precedence.awaited slot ("await " ++ value.render false Precedence.tightest)
  | .mk _ _ (.yielded value) =>
    delimit Precedence.yielded slot
      ("yield" ++ after " " (renderOption (Precedence.yielded + 1) value))
  | .mk _ _ (.yieldFrom value) =>
    delimit Precedence.yielded slot ("yield from " ++ value.render false Precedence.tightest)
  | .mk _ _ (.listComp element generators) =>
    "[" ++ element.render false Precedence.tightest
      ++ join "" (renderAll Precedence.tightest generators) ++ "]"
  | .mk _ _ (.setComp element generators) =>
    "\x7b" ++ element.render false Precedence.tightest
      ++ join "" (renderAll Precedence.tightest generators) ++ "\x7d"
  | .mk _ _ (.dictComp key value generators) =>
    "\x7b" ++ key.render false Precedence.tightest ++ ": "
      ++ value.render false Precedence.tightest
      ++ join "" (renderAll Precedence.tightest generators) ++ "\x7d"
  | .mk _ _ (.generator element generators) =>
    let line := element.render false Precedence.comma
      ++ join "" (renderAll Precedence.tightest generators)
    if slot = Precedence.onlyArgument then line else delimit Precedence.generator slot line
  | .mk _ _ (.comprehension target iter conditions mode) =>
    (if mode = .async then " async for " else " for ")
      ++ target.render false Precedence.tuple ++ " in " ++ iter.render false Precedence.clause
      ++ join "" ((renderAll Precedence.clause conditions).map fun (line : Line) => " if " ++ line)
  | .mk _ _ (.joined parts) =>
    (join "" (renderParts parts)).map fun inner => "f" ++ text leads inner
  | .mk _ _ (.slice lower upper step) =>
    slice (renderOption Precedence.index lower) (renderOption Precedence.index upper)
      (renderOption Precedence.index step)
  | .mk _ _ (.assertion test message) =>
    "assert " ++ test.render false Precedence.named
      ++ after ", " (renderOption Precedence.named message)
  | _ => .error .notExpression

/-- The texts of several expressions that stand in equal slots. -/
def renderAll (slot : Nat) : List Node → List Line
  | [] => []
  | n :: rest => n.render false slot :: renderAll slot rest

/-- The text of an expression that may be missing. -/
def renderOption (slot : Nat) : Option Node → Option Line
  | none => none
  | some n => some (n.render false slot)

/-- The texts of several expressions that may be missing. -/
def renderOptions (slot : Nat) : List (Option Node) → List (Option Line)
  | [] => []
  | none :: rest => none :: renderOptions slot rest
  | some n :: rest => some (n.render false slot) :: renderOptions slot rest

/-- The parts of a formatted text. -/
def renderParts : List Node → List Line
  | [] => []
  | n :: rest => n.renderPart :: renderParts rest

/-- One part of a formatted text: plain text, or a value in braces. -/
def Node.renderPart : Node → Line
  | .mk _ _ (.constant (.text s) _) => doubleBraces s
  | .mk _ _ (.formatted value code none) =>
    "\x7b" ++ value.render false Precedence.tuple ++ conversion code ++ "\x7d"
  | .mk _ _ (.formatted value code (some (.mk _ _ (.joined parts)))) =>
    "\x7b" ++ value.render false Precedence.tuple ++ conversion code ++ ":"
      ++ join "" (renderParts parts) ++ "\x7d"
  | .mk _ _ (.formatted value code (some _)) =>
    "\x7b" ++ value.render false Precedence.tuple ++ conversion code
      ++ (.error .notExpression : Line)
  | _ => .error .wrongPart

end

/-! ### Printers -/

/-- How expressions and values become texts. -/
structure Printer where
  /-- The text of an expression that stands in the given slot. -/
  node : Nat → Node → Line := Node.render true
  /-- The text of a value, if it has one. -/
  value : Value → Option String := Value.written?

/-- The expression has a text, whatever stands around it. -/
def Printer.Writes (printer : Printer) (n : Node) : Prop :=
  ∀ slot, ∃ line, printer.node slot n = .ok line

/-- A name is written as its identifier. -/
def Printer.WritesNames (printer : Printer) : Prop :=
  ∀ slot n id, n.name? = some id → printer.node slot n = .ok id

theorem Printer.writesNames_default : ({} : Printer).WritesNames := by
  intro slot n id h
  obtain ⟨i, position, shape⟩ := n
  cases shape with
  | name id' usage =>
    obtain rfl : id' = id := Option.some.inj h
    rfl
  | _ => cases h

/-! ### What was rendered -/

/-- The nodes that were rendered on their own so far, by identity, and the printer that does it. -/
structure Rendered where
  ids : List Nat := []
  printer : Printer := {}

namespace Rendered

/-- Remembers that a node was rendered. -/
def mark (seen : Rendered) (s : Site) : Rendered :=
  { seen with ids := s.node.id :: seen.ids }

/-- Remembers that several nodes were rendered. -/
def markAll (seen : Rendered) (sites : List Site) : Rendered :=
  sites.foldl mark seen

@[simp]
theorem printer_mark (seen : Rendered) (s : Site) : (seen.mark s).printer = seen.printer := rfl

@[simp]
theorem printer_markAll (seen : Rendered) (sites : List Site) :
    (seen.markAll sites).printer = seen.printer := by
  induction sites generalizing seen with
  | nil => rfl
  | cons s rest ih => exact ih (seen.mark s)

/-- The first node of a path to the root was rendered: on its own, or as a part of the next one. -/
def reaches (seen : Rendered) : List Node → Bool
  | [] => false
  | [n] => seen.ids.contains n.id
  | n :: parent :: rest =>
    seen.ids.contains n.id || (parent.shows n && seen.reaches (parent :: rest))

/-- The slot of a node: known if its parent was rendered. -/
def slot (seen : Rendered) (s : Site) : Nat :=
  match s.above with
  | [] => Precedence.tightest
  | p :: _ => if seen.reaches s.above then p.slot s.node else Precedence.tightest

/-- A node rendered on its own. -/
def line (seen : Rendered) (s : Site) : Line :=
  seen.printer.node (seen.slot s) s.node

/-- The text of a node rendered on its own; nothing if it has no text. -/
def text (seen : Rendered) (s : Site) : String :=
  (seen.line s).toOption.getD ""

/-- Why a node has no text. -/
def error? (seen : Rendered) (s : Site) : Option RenderingError :=
  match seen.line s with
  | .ok _ => none
  | .error e => some e

/-- The first reason why one of several nodes has no text. -/
def firstError? (seen : Rendered) (sites : List Site) : Option RenderingError :=
  sites.findSome? seen.error?

/-- What is called at a site, as text; nothing if the site is no call. -/
def calledName (seen : Rendered) (s : Site) : String :=
  match s.node.shape with
  | .call func _ _ => Text.strip (seen.text (s.under func))
  | _ => ""

end Rendered

end Stricture
