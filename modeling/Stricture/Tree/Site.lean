import Stricture.Tree.Node

/-!
# Sites

A site is a node seen from above: the node together with its ancestors, the nearest first. Looking
up from a node is a search in that list, so it ends, and the list tells apart the places that equal
nodes may have in a tree.

The two orders in which rules see a tree are `Site.visit`, parents before children and one branch
after the other, and `Site.walk`, level by level.
-/

namespace Stricture

/-- A node and its ancestors, the nearest first. -/
structure Site where
  node : Node
  above : List Node

/-- Joins two lists of levels: level by level, those of the first before those of the second. -/
def joinLevels {α : Type} : List (List α) → List (List α) → List (List α)
  | [], ys => ys
  | xs, [] => xs
  | x :: xs, y :: ys => (x ++ y) :: joinLevels xs ys

mutual

/-- The sites of a tree that hangs under the given ancestors, every parent before its children. -/
def Outline.sites (above : List Node) : Outline → List Site
  | .mk node branches => ⟨node, above⟩ :: branchSites (node :: above) branches

/-- The sites of the branches, one branch after the other. -/
def branchSites (above : List Node) : List Outline → List Site
  | [] => []
  | branch :: rest => branch.sites above ++ branchSites above rest

end

mutual

/-- The sites of a tree that hangs under the given ancestors, level by level. -/
def Outline.levels (above : List Node) : Outline → List (List Site)
  | .mk node branches => [⟨node, above⟩] :: branchLevels (node :: above) branches

/-- The levels of the branches joined. -/
def branchLevels (above : List Node) : List Outline → List (List Site)
  | [] => []
  | branch :: rest => joinLevels (branch.levels above) (branchLevels above rest)

end

/-- The top of a tree. -/
def Node.top (root : Node) : Site :=
  ⟨root, []⟩

namespace Site

/-- The child `c` of the node. -/
def under (s : Site) (c : Node) : Site :=
  ⟨c, s.node :: s.above⟩

/-- The children in reading order. -/
def children (s : Site) : List Site :=
  s.node.children.map s.under

/-- The site and everything below it, every parent before its children. -/
def visit (s : Site) : List Site :=
  s.node.outline.sites s.above

/-- The site and everything below it, level by level. -/
def walk (s : Site) : List Site :=
  (s.node.outline.levels s.above).flatten

/-- The parent. -/
def parent? (s : Site) : Option Site :=
  match s.above with
  | [] => none
  | p :: rest => some ⟨p, rest⟩

/-- The nearest ancestor that passes the test. -/
def closest? (test : Node → Bool) (s : Site) : Option Node :=
  s.above.find? test

/-- The site stands strictly below the given node. -/
def isInside (s : Site) (container : Node) : Bool :=
  s.above.any fun a => a.is container

end Site

/-- The node and everything below it, level by level. -/
def Node.walk (n : Node) : List Node :=
  n.top.walk.map Site.node

/-- The identities of the node and of everything below it. -/
def Node.ids (n : Node) : List Nat :=
  n.top.visit.map fun s => s.node.id

end Stricture
