import Stricture.Tree.Kind

/-!
# Bounds

Comparisons joined by a condition may put one expression between two others: `a < x and x < b` has
`x` on the greater side of the first comparison and on the smaller side of the second. Such
comparisons should be one chain. Expressions are the same if their texts are.
-/

namespace Stricture

/-- An ordering link: the expression on the smaller side and the one on the greater side. -/
structure OrderingLink where
  smaller : Site
  greater : Site

/-- The link that an operator makes between its two operands. -/
def OrderingLink.ofOperator? (op : CompareOp) (left right : Site) : Option OrderingLink :=
  match op with
  | .lt | .ltE => some ⟨left, right⟩
  | .gt | .gtE => some ⟨right, left⟩
  | _ => none

namespace Site

/-- The operands of a comparison in order. -/
def operands (s : Site) : List Site :=
  match s.node.shape with
  | .compare left _ comparators => (left :: comparators).map s.under
  | _ => []

/-- The operators of a comparison in order. -/
def compareOps (s : Site) : List CompareOp :=
  match s.node.shape with
  | .compare _ ops _ => ops
  | _ => []

/-- The operands of a comparison that stand beside one of its operators. -/
def linkedOperands (s : Site) : List Site :=
  match s.compareOps.zip (s.operands.drop 1) with
  | [] => []
  | pairs => s.operands.take (pairs.length + 1)

/-- The ordering links of a comparison, each operator with the operands beside it. -/
def orderingLinks (s : Site) : List OrderingLink :=
  (s.compareOps.zip (s.operands.zip (s.operands.drop 1))).filterMap fun (op, left, right) =>
    OrderingLink.ofOperator? op left right

/-- The comparisons among the values of a condition. -/
def joinedCompares (s : Site) : List Site :=
  match s.node.shape with
  | .boolean _ values => (values.map s.under).filter fun v => v.node.kind == .compare
  | _ => []

/-- The comparison has the text on the smaller side of a link. -/
def hasLower (text : Site → String) (compare : Site) (t : String) : Bool :=
  compare.orderingLinks.any fun l => text l.smaller == t

/-- The comparison has the text on the greater side of a link. -/
def hasUpper (text : Site → String) (compare : Site) (t : String) : Bool :=
  compare.orderingLinks.any fun l => text l.greater == t

/-- The texts that are bounded by a comparison. -/
def boundedTexts (text : Site → String) (compare : Site) : List String :=
  compare.orderingLinks.flatMap fun l => [text l.smaller, text l.greater]

/-- A text is fine if the comparisons that have it on both sides are all those that have it on the
smaller side, or all those that have it on the greater side. -/
def isFineBound (text : Site → String) (compares : List Site) (t : String) : Bool :=
  let lower := compares.filter fun c => c.hasLower text t
  let upper := compares.filter fun c => c.hasUpper text t
  let shared := compares.filter fun c => c.hasLower text t && c.hasUpper text t
  !(shared.length < lower.length && shared.length < upper.length)

/-- No expression of a condition is bounded from two sides by different comparisons. -/
def boundsAreFine (text : Site → String) (s : Site) : Bool :=
  (s.joinedCompares.flatMap (boundedTexts text)).all (isFineBound text s.joinedCompares)

end Site

end Stricture
