import Stricture.Tree.Program

/-!
# What correcting positions leaves alone

A correction moves nodes and changes nothing else: every node keeps its kind, and so a module stays
a module.
-/

namespace Stricture

theorem shapeReposition_kind (place : Option Position → Node → Option Position)
    (parent : Option Position) (s : Shape Node) :
    (shapeReposition place parent s).kind = s.kind := by
  cases s with
  | functionDef mode | forLoop mode | withBlock mode =>
    rw [shapeReposition]
    cases mode <;> rfl
  | _ => simp only [shapeReposition, Shape.kind]

theorem Node.reposition_kind (place : Option Position → Node → Option Position)
    (parent : Option Position) (n : Node) : (n.reposition place parent).kind = n.kind := by
  cases n with
  | mk id position shape => rw [Node.reposition]; exact shapeReposition_kind _ _ shape

theorem Node.settle_kind (n : Node) : n.settle.kind = n.kind := by
  rw [Node.settle, Node.settleLines, Node.settleColumns, Node.reposition_kind,
    Node.reposition_kind]

/-- The children of a corrected node have the kinds of its children. -/
theorem Node.settle_children_kinds (n : Node) :
    n.settle.children.map Node.kind = n.children.map Node.kind := by
  rw [Node.settle, Node.settleLines, Node.settleColumns, Node.reposition_children,
    Node.reposition_children, List.map_map, List.map_map]
  refine List.map_congr_left fun c _ => ?_
  simp only [Function.comp_apply, Node.reposition_kind]

/-- A module as the grammar has it: a file that is made of statements. -/
def Node.IsModule (n : Node) : Prop :=
  n.kind = .file ∧ ∀ k ∈ n.children.map Node.kind, k.family = .statement

instance (n : Node) : Decidable n.IsModule :=
  inferInstanceAs (Decidable (_ ∧ _))

theorem Node.IsModule.settle {n : Node} (h : n.IsModule) : n.settle.IsModule := by
  rwa [Node.IsModule, Node.settle_kind, Node.settle_children_kinds]

end Stricture
