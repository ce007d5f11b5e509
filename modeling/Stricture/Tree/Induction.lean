import Stricture.Tree.Node

/-!
# Induction over syntax trees

A child is smaller than its parent, so a property that passes from the children of a node to the
node holds of every node.
-/

namespace Stricture

theorem Shape.sizeOf_lt_of_mem_children {α : Type} [SizeOf α] {s : Shape α} {a : α}
    (h : a ∈ s.children) : sizeOf a < sizeOf s := by
  have list {as : List α} (h : a ∈ as) : sizeOf a < sizeOf as := List.sizeOf_lt_of_mem h
  have option {o : Option α} (h : o = some a) : sizeOf a < sizeOf o := by subst h; simp
  have keys {os : List (Option α)} (h : some a ∈ os) : sizeOf a < sizeOf os := by
    have := List.sizeOf_lt_of_mem h
    simp at this; omega
  cases s <;> simp [Shape.children] at h <;> simp <;> grind

theorem Node.sizeOf_lt_of_mem_children {n c : Node} (h : c ∈ n.children) :
    sizeOf c < sizeOf n := by
  have := Shape.sizeOf_lt_of_mem_children h
  cases n
  simp only [Node.shape, Node.mk.sizeOf_spec] at *
  omega

/-- Induction from the children of a node to the node. -/
theorem Node.childInduction {P : Node → Prop} (step : ∀ n, (∀ c ∈ n.children, P c) → P n)
    (n : Node) : P n := by
  induction h : sizeOf n using Nat.strongRecOn generalizing n with
  | ind size ih =>
    exact step n fun c hc => ih _ (h ▸ Node.sizeOf_lt_of_mem_children hc) c rfl

end Stricture
