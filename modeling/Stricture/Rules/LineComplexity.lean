import Stricture.Finding
import Stricture.Grouping
import Stricture.Options
import Stricture.Tree.Block

/-!
# Rules for the complexity of lines

A line counts the nodes that start on it. The score of a module is the median of the counts of its
lines.
-/

namespace Stricture.Rules

/-- What was collected so far: the nodes that count for each line, and the nodes that are left out.
The lines are in the order in which they were reached. -/
structure LineRun where
  lines : List (Int × List Site) := []
  ignored : List Node := []

namespace LineRun

/-- The hint of a declaration, which is left out. -/
def hintsOf (n : Node) : List Node :=
  if n.kind = .annAssign then n.hint?.toList else []

/-- One more site. It counts for its line, unless it is a definition or is left out. The hint of a
declaration is left out from now on, if the declaration has a line. -/
def step (run : LineRun) (s : Site) : LineRun :=
  match s.node.line? with
  | none => run
  | some l =>
    if s.node.isAny [.classDef, .functionDef, .asyncFunctionDef] then run
    else
      let ignored := run.ignored ++ hintsOf s.node
      if ignored.any s.node.is then { run with ignored }
      else ⟨enterGroup l s run.lines, ignored⟩

end LineRun

/-- The lines of a program with their nodes, in the order in which they are reached. -/
def linesOf (sites : List Site) : List (Int × List Site) :=
  (sites.foldl LineRun.step {}).lines

/-- A median: twice its value, and whether it is the mean of two counts. -/
structure Median where
  double : Nat
  isMean : Bool

/-- The median of some counts. -/
def median (counts : List Nat) : Median :=
  let sorted := counts.mergeSort
  let middle := sorted.length / 2
  if counts.isEmpty then ⟨0, false⟩
  else if sorted.length % 2 = 1 then ⟨2 * sorted.getD middle 0, false⟩
  else ⟨sorted.getD (middle - 1) 0 + sorted.getD middle 0, true⟩

/-- A median as text: a mean has one decimal. -/
def Median.display (m : Median) : String :=
  toString (m.double / 2)
    ++ if m.isMean then (if m.double % 2 = 0 then ".0" else ".5") else ""

/-- Lines with too many nodes. -/
def lineCounts (o : Options) (sites : List Site) : List Finding :=
  (linesOf sites).flatMap fun (_, line) =>
    line.head?.toList.flatMap fun first =>
      reportIf (o.maxLineComplexity.isExceededBy line.length)
        (Violation.lineComplexity.atNode first.node (toString line.length))

/-- The score of a module. -/
def moduleScore (sites : List Site) : Median :=
  median ((linesOf sites).map fun line => line.2.length)

/-- Complex lines, and a score that is too high. -/
def lineComplexity (o : Options) (sites : List Site) : List Finding :=
  let score := moduleScore sites
  lineCounts o sites
    ++ reportIf (o.maxJonesScore.amount < .half score.double)
      (Violation.jonesScore.atFile score.display)

end Stricture.Rules
