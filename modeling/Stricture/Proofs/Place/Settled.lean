import Stricture.Proofs.Tree.Ancestry
import Stricture.Proofs.Tree.Settle

/-!
# Where corrected nodes stand

Correcting positions takes six columns off asynchronous statements and one line off tuples. A line
never gets lost: a tuple only moves towards a parent that stands on an earlier line, so it is still
on the first line or below it (`Node.IsPlaced.settle_line`). Columns are not guarded like that. A
statement that does not start at a multiple of four columns is taken to stand behind its word
`async`, even if there is no room for the word to the left of it; exactly these statements
end up left of the margin (`Node.IsPlaced.settle_column`).

Both follow from one lemma on trees that are moved, parents first: every node of the moved tree is
a node of the tree, moved by what `place` says (`Node.exists_of_mem_walk_reposition`).
-/

namespace Stricture

namespace Node

/-! ### Moved nodes -/

theorem reposition_position (place : Option Position → Node → Option Position)
    (parent : Option Position) (n : Node) :
    (n.reposition place parent).position = place parent n := by
  cases n; rw [reposition]; rfl

/-- A node of a moved tree is a node of the tree, moved. What is known about the position above the
tree, and passes from each new position to the next, is known about the position above the node. -/
theorem exists_of_mem_walk_reposition {place : Option Position → Node → Option Position}
    {P : Option Position → Prop} {parent : Option Position} {root m : Node} (hparent : P parent)
    (hstep : ∀ above, ∀ n ∈ root.walk, P above → P (place above n))
    (hm : m ∈ (root.reposition place parent).walk) :
    ∃ n ∈ root.walk, ∃ above, P above ∧ m = n.reposition place above := by
  rw [mem_walk_iff] at hm
  induction hm with
  | refl => exact ⟨root, mem_walk_iff.mpr .refl, parent, hparent, rfl⟩
  | tail _ hc ih =>
    obtain ⟨n, hn, above, habove, rfl⟩ := ih
    rw [HasChild, reposition_children] at hc
    obtain ⟨c, hchild, rfl⟩ := List.mem_map.mp hc
    have hcw : c ∈ root.walk := mem_walk_iff.mpr ((mem_walk_iff.mp hn).tail hchild)
    exact ⟨c, hcw, place above n, hstep above n hn habove, rfl⟩

/-! ### Placed trees -/

/-- Lines are counted from one, and columns from zero. Nodes without a position do not matter. -/
def IsPlaced (root : Node) : Prop :=
  ∀ n ∈ root.walk, ∀ p ∈ n.position, 1 ≤ p.line ∧ 0 ≤ p.column

instance (root : Node) : Decidable root.IsPlaced :=
  inferInstanceAs (Decidable (∀ n ∈ root.walk, ∀ p ∈ n.position, 1 ≤ p.line ∧ 0 ≤ p.column))

/-- An asynchronous statement that is taken to stand behind its word `async`, although there is no
room for the word on its left. -/
def LacksRoom (n : Node) : Prop :=
  n.isAsync = true ∧ ∃ p ∈ n.position, p.column % 4 ≠ 0 ∧ p.column < 6

/-- After the correction of columns: a node stands where it stood, or it is asynchronous and was
taken to stand behind its word. -/
theorem settleColumns_cases {root m : Node} (hm : m ∈ root.settleColumns.walk) :
    ∃ n ∈ root.walk, m.kind = n.kind ∧
      (m.position = n.position ∨
        ∃ p ∈ n.position, n.isAsync = true ∧ p.column % 4 ≠ 0 ∧
          m.position = some ⟨p.line, p.column - 6⟩) := by
  obtain ⟨n, hn, above, -, rfl⟩ :=
    exists_of_mem_walk_reposition (P := fun _ => True) trivial (fun _ _ _ _ => trivial) hm
  refine ⟨n, hn, reposition_kind _ _ _, ?_⟩
  rw [reposition_position, asyncPosition]
  cases hp : n.position with
  | none => exact Or.inl rfl
  | some p =>
    rw [Option.map_some]
    by_cases h : n.isAsync = true ∧ p.column % 4 ≠ 0
    · rw [if_pos h]
      exact Or.inr ⟨p, rfl, h.1, h.2, rfl⟩
    · rw [if_neg h]
      exact Or.inl rfl

/-- One node of the correction of lines: if lines are counted from one above it and at it, they
still are after it has moved. -/
theorem one_le_line_tuplePosition {above : Option Position} {n : Node}
    (habove : ∀ q ∈ above, 1 ≤ q.line) (hn : ∀ p ∈ n.position, 1 ≤ p.line) :
    ∀ p ∈ tuplePosition above n, 1 ≤ p.line := by
  intro p hp
  rw [tuplePosition] at hp
  obtain ⟨r, hr, rfl⟩ := Option.map_eq_some_iff.mp hp
  have hline := hn r hr
  cases above with
  | none => exact hline
  | some q =>
    have hq := habove q rfl
    dsimp only
    split
    case isTrue h => exact Int.le_sub_one_of_lt (Int.lt_of_le_of_lt hq h.2.2)
    case isFalse => exact hline

/-- After the correction of lines: a node keeps its column, and its line too unless it is a tuple.
Lines are still counted from one. -/
theorem settleLines_cases {root m : Node} (h : ∀ n ∈ root.walk, ∀ p ∈ n.position, 1 ≤ p.line)
    (hm : m ∈ root.settleLines.walk) :
    ∃ n ∈ root.walk, ∀ p ∈ m.position,
      1 ≤ p.line ∧ ∃ r ∈ n.position, r.column = p.column ∧ (n.kind ≠ .tuple → r.line = p.line) := by
  have hstep : ∀ above, ∀ n ∈ root.walk, (∀ q ∈ above, 1 ≤ q.line) →
      ∀ p ∈ tuplePosition above n, 1 ≤ p.line :=
    fun above n hn habove => one_le_line_tuplePosition habove (h n hn)
  have hnone : ∀ q ∈ (none : Option Position), 1 ≤ q.line := fun q hq => by cases hq
  obtain ⟨n, hn, above, habove, rfl⟩ := exists_of_mem_walk_reposition hnone hstep hm
  refine ⟨n, hn, fun p hp => ?_⟩
  rw [reposition_position] at hp
  refine ⟨hstep above n hn habove p hp, ?_⟩
  rw [tuplePosition] at hp
  obtain ⟨r, hr, rfl⟩ := Option.map_eq_some_iff.mp hp
  refine ⟨r, hr, ?_⟩
  cases above with
  | none => exact ⟨rfl, fun _ => rfl⟩
  | some q =>
    dsimp only
    split
    case isTrue hmoved => exact ⟨rfl, fun hkind => absurd hmoved.1 hkind⟩
    case isFalse => exact ⟨rfl, fun _ => rfl⟩

/-! ### Corrected trees -/

namespace IsPlaced

variable {root : Node}

theorem settleColumns_line (h : root.IsPlaced) :
    ∀ n ∈ root.settleColumns.walk, ∀ p ∈ n.position, 1 ≤ p.line := by
  intro m hm p hp
  obtain ⟨n, hn, -, heq | ⟨r, hr, -, -, hmoved⟩⟩ := settleColumns_cases hm
  · rw [heq] at hp
    exact (h n hn p hp).1
  · rw [hmoved] at hp
    obtain rfl := Option.some.inj hp
    exact (h n hn r hr).1

/-- **No correction loses a line**: lines of the corrected tree are counted from one. -/
theorem settle_line (h : root.IsPlaced) :
    ∀ n ∈ root.settle.walk, ∀ p ∈ n.position, 1 ≤ p.line := by
  intro m hm p hp
  obtain ⟨n, -, hn⟩ := settleLines_cases h.settleColumns_line hm
  exact (hn p hp).1

/-- **A column is lost only where there is no room**: if a node of the corrected tree stands left of
the margin, it is an asynchronous statement that lacked the room, six columns off its place. -/
theorem settle_column (h : root.IsPlaced) :
    ∀ m ∈ root.settle.walk, ∀ p ∈ m.position, 0 ≤ p.column ∨
      ∃ n ∈ root.walk, n.LacksRoom ∧ n.position = some ⟨p.line, p.column + 6⟩ := by
  intro m hm p hp
  obtain ⟨k, hk, hlines⟩ := settleLines_cases h.settleColumns_line hm
  obtain ⟨-, r, hr, hcolumn, hline⟩ := hlines p hp
  rw [← hcolumn]
  obtain ⟨n, hn, hkind, heq | ⟨q, hq, hasync, hodd, hmoved⟩⟩ := settleColumns_cases hk
  · rw [heq] at hr
    exact Or.inl (h n hn r hr).2
  · -- an asynchronous statement is no tuple, so its line is the one it had
    have hnt : k.kind ≠ .tuple := by
      rw [hkind]
      intro htuple
      rw [isAsync, isAny, htuple] at hasync
      exact absurd hasync (by decide)
    rw [hmoved] at hr
    obtain rfl := Option.some.inj hr
    by_cases hroom : q.column < 6
    · refine Or.inr ⟨n, hn, ⟨hasync, q, hq, hodd, hroom⟩, ?_⟩
      rw [hq, ← hline hnt, Int.sub_add_cancel]
    · exact Or.inl (Int.sub_nonneg_of_le (Int.not_lt.mp hroom))

end IsPlaced

end Node

end Stricture
