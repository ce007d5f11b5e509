import Stricture.Evaluation
import Stricture.Grouping
import Stricture.Subject
import Stricture.Tree.Unwrap

/-!
# Rules for sets and dictionaries

The members of a set and the keys of a dictionary differ, and can be members and keys at all. Items
are compared twice: by their texts, and by their values as far as these are known. Signs are left
out of both comparisons.
-/

namespace Stricture.Rules

/-- A constant or a name: what is compared by its text. -/
def isSimpleItem (n : Node) : Bool :=
  n.isText || n.isBytes || n.isNumber || n.isNamedConstant || n.kind == .name

/-- What is compared by its value. -/
def isValuedItem (n : Node) : Bool :=
  isSimpleItem n || n.isAny [.tuple, .list, .setOf, .dict, .binary]

/-- The items of a set or a dictionary. An entry that spreads another dictionary has no key. -/
def displayItems (s : Site) : List (Option Site) :=
  match s.node.shape with
  | .setOf elements => elements.map fun e => some (s.under e)
  | .dict keys _ => keys.map fun key => key.map s.under
  | _ => []

/-- A text without blanks and brackets at its ends. -/
def bareText (text : String) : String :=
  Text.stripChar ')' (Text.stripChar '(' (Text.strip text))

/-- The text by which an item is compared: nothing for one that is not compared by its text. -/
def itemText (line : Site → Line) (item : Option Site) : Except RenderingError (Option String) :=
  match item with
  | none => .ok none
  | some s =>
    if isSimpleItem s.node.unwrapUnary then (line s).map fun text => some (bareText text)
    else .ok none

/-- The value by which an item is compared: nothing for one whose value is not known. -/
def itemValue (item : Option Site) : Except EvaluationError (Option Value) :=
  match item with
  | none => .ok (some .none)
  | some s =>
    let n := s.node.unwrapUnary.unwrapStarred
    if isValuedItem n then
      match n.namedValue with
      | .ok v => .ok (some v)
      | .error .tooLarge => .error .tooLarge
      | .error _ => .ok none
    else .ok none

/-- What is read from an item: its text and its value. -/
def readItem (line : Site → Line) (item : Option Site) :
    Except Fault (Option String × Option Value) := do
  let text ← (itemText line item).mapError .rendering
  let value ← (itemValue item).mapError .evaluation
  return (text, value)

/-- The texts and the values of all items, or the first failure. -/
def readItems (line : Site → Line) : List (Option Site) → Except Fault (List String × List Value)
  | [] => .ok ([], [])
  | item :: rest => do
    let (text, value) ← readItem line item
    let (texts, values) ← readItems line rest
    return (text.toList ++ texts, value.toList ++ values)

/-- What represents a value in comparisons: the value itself, or its text if it may change. -/
def comparedValue (write : Value → Option String) (v : Value) : Option Value :=
  if v.isMutable then (write v).map .text else some v

/-- The values that equal an earlier one. A value that holds what may change cannot be compared, and
neither can one that may change and has no text. -/
def repeatedValues (write : Value → Option String) (n : Node) : List Value → List Value → Report
  | _, [] => .empty
  | seen, v :: rest =>
    match comparedValue write v with
    | none => .stopped (.rendering .wrongConversion)
    | some key =>
      if key.isKey then
        (Report.ofFindings (reportIf (seen.any key.same)
          (Violation.nonUniqueItemsInHash.atNode n v.display))).andThen
          (repeatedValues write n (seen ++ [key]) rest)
      else .stopped .notKey

/-- Items that occur more than once: the first text that does or, if there is none, all values. -/
def repeatedItems (seen : Rendered) (s : Site) : Report :=
  match readItems seen.line (displayItems s) with
  | .error fault => .stopped fault
  | .ok (texts, values) =>
    match (repeated texts).head? with
    | some t => .ofFindings [Violation.nonUniqueItemsInHash.atNode s.node t]
    | none => repeatedValues seen.printer.value s.node [] values

/-- Items that can be neither members nor keys. -/
def changingItems (s : Site) : List Finding :=
  ((displayItems s).filterMap fun item => item).flatMap fun t =>
    reportIf (t.node.isAny [.list, .listComp, .setOf, .setComp, .dict, .dictComp, .generator])
      (Violation.unhashableTypeInHash.atNode t.node)

/-- The items up to and including the first one that cannot be read. -/
def visitedItems (line : Site → Line) : List (Option Site) → List (Option Site)
  | [] => []
  | item :: rest =>
    match readItem line item with
    | .error _ => [item]
    | .ok _ => item :: visitedItems line rest

/-- Sets and dictionaries. -/
def displays : RenderingRule := fun seen s =>
  let visited := (visitedItems seen.line (displayItems s)).filterMap fun item => item
  let rendered := visited.filter fun t => isSimpleItem t.node.unwrapUnary
  ((repeatedItems seen s).andThen (.ofFindings (changingItems s)), seen.markAll rendered)

end Stricture.Rules
