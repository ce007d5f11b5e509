import Stricture.Proofs.Place.Located
import Stricture.Proofs.Tree.Order

/-!
# The order of compared operands

What can only be known when the program runs should stand on the left of a comparison. Both sides
may be nested operations, and then their operands decide (`Node.leaves`): the left side is searched
as a whole (`hasVariablePart_iff`).

The right side is not. The search through its operands ends with the first operation that it meets,
whatever comes after it. So it overlooks a variable operand behind an operation on constants, as in
`1 == 2 + 3 + x` (`Node.Overlooks`), and agrees with the other search everywhere else
(`hasVariableRight_iff`).
-/

namespace Stricture

open Rules

namespace Node

/-- The operands of nested operations, from the left to the right. -/
def leaves : Node → List Node
  | .mk _ _ (.binary left _ right) => left.leaves ++ right.leaves
  | n => [n]

/-- Some operand of the nested operations is a name, a call, an attribute, a subscript or something
that is awaited. -/
def HoldsVariable (n : Node) : Prop :=
  ∃ l ∈ n.leaves, l.kind ∈ [Kind.name, .call, .attr, .subscript, .awaited]

/-- An operation that holds nothing variable stands on the left of the first variable operand. The
search for that operand goes to the left if an operation stands there, and to the right past an
operand that is not variable. -/
inductive Overlooks : Node → Prop
  | here {n left right : Node} {op : BinaryOp} (h : n.shape = .binary left op right)
      (hoperation : left.kind = .binary) (hleft : ¬ left.HoldsVariable)
      (hright : right.HoldsVariable) : Overlooks n
  | onLeft {n left right : Node} {op : BinaryOp} (h : n.shape = .binary left op right)
      (hleft : Overlooks left) : Overlooks n
  | onRight {n left right : Node} {op : BinaryOp} (h : n.shape = .binary left op right)
      (hoperand : left.kind ≠ .binary) (hleft : ¬ left.HoldsVariable)
      (hright : Overlooks right) : Overlooks n

variable {n left right : Node} {op : BinaryOp}

theorem leaves_of_binary (h : n.shape = .binary left op right) :
    n.leaves = left.leaves ++ right.leaves := by
  obtain ⟨id, position, shape⟩ := n
  obtain rfl : shape = .binary left op right := h
  rw [leaves]

theorem leaves_of_ne_binary (h : n.kind ≠ .binary) : n.leaves = [n] := by
  unfold leaves
  split
  case h_1 => exact absurd rfl h
  case h_2 => rfl

theorem holdsVariable_of_binary (h : n.shape = .binary left op right) :
    n.HoldsVariable ↔ left.HoldsVariable ∨ right.HoldsVariable := by
  simp only [HoldsVariable, leaves_of_binary h, List.mem_append, or_and_right, exists_or]

theorem holdsVariable_of_ne_binary (h : n.kind ≠ .binary) :
    n.HoldsVariable ↔ isVariablePart n = true := by
  rw [HoldsVariable, leaves_of_ne_binary h, isVariablePart, isAny, List.contains_iff_mem]
  simp only [List.mem_singleton, exists_eq_left]

theorem kind_of_binary (h : n.shape = .binary left op right) : n.kind = .binary := by
  rw [kind, h]
  rfl

theorem exists_binary (h : n.kind = .binary) :
    ∃ left op right, n.shape = .binary left op right := by
  obtain ⟨id, position, shape⟩ := n
  cases shape with
  | binary left op right => exact ⟨left, op, right, rfl⟩
  | functionDef mode | forLoop mode | withBlock mode => cases mode <;> cases h
  | _ => cases h

/-- What is overlooked is there. -/
theorem Overlooks.holdsVariable (h : n.Overlooks) : n.HoldsVariable := by
  induction h with
  | here h _ _ hright => exact (holdsVariable_of_binary h).mpr (.inr hright)
  | onLeft h _ ih => exact (holdsVariable_of_binary h).mpr (.inl ih)
  | onRight h _ _ _ ih => exact (holdsVariable_of_binary h).mpr (.inr ih)

theorem Overlooks.kind_eq (h : n.Overlooks) : n.kind = .binary := by
  cases h with
  | here h | onLeft h | onRight h => exact kind_of_binary h

/-- After an operation on the left, the right operand is not looked at. -/
theorem overlooks_of_operation (h : n.shape = .binary left op right) (hkind : left.kind = .binary) :
    n.Overlooks ↔ left.Overlooks ∨ ¬ left.HoldsVariable ∧ right.HoldsVariable := by
  constructor
  · intro hn
    cases hn with
    | here h' _ hleft hright =>
      obtain ⟨rfl, -, rfl⟩ := Shape.binary.inj (h.symm.trans h')
      exact .inr ⟨hleft, hright⟩
    | onLeft h' hleft =>
      obtain ⟨rfl, -, rfl⟩ := Shape.binary.inj (h.symm.trans h')
      exact .inl hleft
    | onRight h' hoperand =>
      obtain ⟨rfl, -, rfl⟩ := Shape.binary.inj (h.symm.trans h')
      exact absurd hkind hoperand
  · rintro (hleft | ⟨hleft, hright⟩)
    · exact .onLeft h hleft
    · exact .here h hkind hleft hright

/-- After an operand on the left that is not variable, the search goes on with the right one. -/
theorem overlooks_of_operand (h : n.shape = .binary left op right) (hkind : left.kind ≠ .binary) :
    n.Overlooks ↔ ¬ left.HoldsVariable ∧ right.Overlooks := by
  constructor
  · intro hn
    cases hn with
    | here h' hoperation =>
      obtain ⟨rfl, -, rfl⟩ := Shape.binary.inj (h.symm.trans h')
      exact absurd hoperation hkind
    | onLeft h' hleft =>
      obtain ⟨rfl, -, rfl⟩ := Shape.binary.inj (h.symm.trans h')
      exact absurd hleft.kind_eq hkind
    | onRight h' _ hleft hright =>
      obtain ⟨rfl, -, rfl⟩ := Shape.binary.inj (h.symm.trans h')
      exact ⟨hleft, hright⟩
  · rintro ⟨hleft, hright⟩
    exact .onRight h hkind hleft hright

end Node

/-! ### Both searches -/

section Searches

variable {n left right : Node} {op : BinaryOp}

/-- The search on the left sees every operand. -/
theorem hasVariablePart_iff : hasVariablePart n = true ↔ n.HoldsVariable := by
  induction n using Node.childInduction with
  | step n ih =>
    by_cases hkind : n.kind = .binary
    · obtain ⟨left, op, right, hshape⟩ := Node.exists_binary hkind
      have hleft := ih left (Node.mem_children_of_shape hshape List.mem_cons_self)
      have hright := ih right
        (Node.mem_children_of_shape hshape (List.mem_cons_of_mem _ List.mem_cons_self))
      rw [Node.holdsVariable_of_binary hshape, ← hleft, ← hright, ← Bool.or_eq_true]
      obtain ⟨id, position, shape⟩ := n
      obtain rfl : shape = .binary left op right := hshape
      rw [hasVariablePart]
    · rw [Node.holdsVariable_of_ne_binary hkind]
      unfold hasVariablePart
      split
      case h_1 => exact absurd rfl hkind
      case h_2 => rfl

theorem hasVariableRight_singleton (n : Node) :
    hasVariableRight [n] = (rightVerdict? n).getD false := by
  rw [hasVariableRight, List.findSome?_singleton]

theorem rightVerdict?_of_ne_binary (h : n.kind ≠ .binary) :
    rightVerdict? n = if isVariablePart n then some true else none := by
  unfold rightVerdict?
  split
  case h_1 => exact absurd rfl h
  case h_2 => rfl

theorem rightVerdict?_of_binary (h : n.shape = .binary left op right) :
    rightVerdict? n = some ((rightVerdict? left).getD (hasVariableRight [right])) := by
  obtain ⟨id, position, shape⟩ := n
  obtain rfl : shape = .binary left op right := h
  rw [rightVerdict?, hasVariableRight_singleton]

/-- An operation on the left speaks for both operands. -/
theorem hasVariableRight_of_operation (h : n.shape = .binary left op right)
    (hkind : left.kind = .binary) : hasVariableRight [n] = hasVariableRight [left] := by
  obtain ⟨l, o, r, hshape⟩ := Node.exists_binary hkind
  rw [hasVariableRight_singleton, hasVariableRight_singleton, rightVerdict?_of_binary h,
    rightVerdict?_of_binary hshape]
  rfl

/-- Any other operand on the left does so if it is variable. -/
theorem hasVariableRight_of_operand (h : n.shape = .binary left op right)
    (hkind : left.kind ≠ .binary) :
    hasVariableRight [n] = (isVariablePart left || hasVariableRight [right]) := by
  rw [hasVariableRight_singleton, rightVerdict?_of_binary h, rightVerdict?_of_ne_binary hkind]
  cases isVariablePart left <;> rfl

/-- **The search on the right** sees every operand unless it overlooks one. -/
theorem hasVariableRight_iff :
    hasVariableRight [n] = true ↔ n.HoldsVariable ∧ ¬ n.Overlooks := by
  induction n using Node.childInduction with
  | step n ih =>
    by_cases hkind : n.kind = .binary
    · obtain ⟨left, op, right, hshape⟩ := Node.exists_binary hkind
      have hleft := ih left (Node.mem_children_of_shape hshape List.mem_cons_self)
      have hright := ih right
        (Node.mem_children_of_shape hshape (List.mem_cons_of_mem _ List.mem_cons_self))
      by_cases hoperation : left.kind = .binary
      · rw [hasVariableRight_of_operation hshape hoperation, hleft,
          Node.holdsVariable_of_binary hshape, Node.overlooks_of_operation hshape hoperation]
        constructor
        · rintro ⟨hholds, hnot⟩
          exact ⟨.inl hholds, fun h => h.elim hnot fun hhere => hhere.1 hholds⟩
        · rintro ⟨heither, hnot⟩
          have hholds : left.HoldsVariable := by
            by_contra hnone
            exact hnot (.inr ⟨hnone, heither.resolve_left hnone⟩)
          exact ⟨hholds, fun h => hnot (.inl h)⟩
      · rw [hasVariableRight_of_operand hshape hoperation, Bool.or_eq_true, hright,
          ← Node.holdsVariable_of_ne_binary hoperation, Node.holdsVariable_of_binary hshape,
          Node.overlooks_of_operand hshape hoperation]
        constructor
        · rintro (hholds | ⟨hholds, hnot⟩)
          · exact ⟨.inl hholds, fun h => h.1 hholds⟩
          · exact ⟨.inr hholds, fun h => hnot h.2⟩
        · rintro ⟨heither, hnot⟩
          by_cases hholds : left.HoldsVariable
          · exact .inl hholds
          · exact .inr ⟨heither.resolve_left hholds, fun h => hnot ⟨hholds, h⟩⟩
    · have hnot : ¬ n.Overlooks := fun h => hkind h.kind_eq
      rw [hasVariableRight_singleton, rightVerdict?_of_ne_binary hkind,
        Node.holdsVariable_of_ne_binary hkind, and_iff_left hnot]
      cases isVariablePart n <;> simp

/-- The two searches differ exactly where something is overlooked. -/
theorem hasVariableRight_eq_hasVariablePart_iff :
    hasVariableRight [n] = hasVariablePart n ↔ ¬ n.Overlooks := by
  rw [Bool.eq_iff_iff, hasVariableRight_iff, hasVariablePart_iff, and_iff_left_iff_imp]
  exact ⟨fun h hover => h hover.holdsVariable hover, fun h _ => h⟩

end Searches

/-! ### Comparisons -/

/-- A comparison has an operator, and as many operators as operands after the first. -/
def Node.hasWholeChain (n : Node) : Bool :=
  match n.shape with
  | .compare _ ops rights => !ops.isEmpty && ops.length == rights.length
  | _ => true

theorem Node.length_eq_of_hasWholeChain {n left : Node} {ops : List CompareOp}
    {rights : List Node} (hwhole : n.hasWholeChain = true)
    (h : n.shape = .compare left ops rights) : ops ≠ [] ∧ ops.length = rights.length := by
  unfold hasWholeChain at hwhole
  rw [h] at hwhole
  simpa using hwhole

/-- A comparison by one operator, with nothing variable on the left and something on the right, as
far as the search there can tell. -/
def isReversed (s : Site) : Bool :=
  match s.node.shape with
  | .compare left [op] [right] =>
    !hasVariablePart left && !op.isMembership && hasVariableRight [right]
  | _ => false

theorem exists_of_isReversed {s : Site} (h : isReversed s = true) :
    ∃ left op right, s.node.shape = .compare left [op] [right] ∧ op.isMembership = false := by
  unfold isReversed at h
  split at h
  case h_1 left op right hshape =>
    simp only [Bool.and_eq_true, Bool.not_eq_true'] at h
    exact ⟨left, op, right, hshape, h.1.2⟩
  case h_2 => cases h

theorem isReversed_iff {s : Site} {left right : Node} {op : CompareOp}
    (h : s.node.shape = .compare left [op] [right]) (hop : op.isMembership = false) :
    isReversed s = true ↔ ¬ left.HoldsVariable ∧ right.HoldsVariable ∧ ¬ right.Overlooks := by
  rw [isReversed, h]
  simp only [hop, Bool.not_false, Bool.and_true, Bool.and_eq_true, Bool.not_eq_true']
  rw [hasVariableRight_iff, ← Bool.not_eq_true, hasVariablePart_iff]

/-- With whole chains there is always an operator to look at. -/
theorem compareOrder_eq {s : Site} (h : s.node.hasWholeChain = true) :
    compareOrder s =
      .ofFindings (reportIf (isReversed s) (Violation.compareOrder.atNode s.node)) := by
  unfold compareOrder isReversed
  cases hshape : s.node.shape with
  | compare left ops rights =>
    obtain ⟨hne, hlength⟩ := Node.length_eq_of_hasWholeChain h hshape
    match ops, rights, hne, hlength with
    | [op], [right], _, _ =>
      cases hleft : hasVariablePart left <;> cases hop : op.isMembership <;>
        simp [hleft, hop, reportIf, Report.ofFindings, Report.empty]
    | op :: _ :: _, _ :: _ :: _, _, _ =>
      -- a longer chain is never reported
      cases hleft : hasVariablePart left <;>
        simp [hleft, reportIf, Report.ofFindings, Report.empty]
  | _ => rfl

/-- **The order of compared operands.** If all chains are whole, the check comes to its end. What it
reports, once each and in the order in which they are visited, are comparisons by one operator other
than a membership test: those with nothing variable on the left and something variable on the right
that is not overlooked. The search on the right agrees with the one on the left on every expression
in which nothing is overlooked, and on no other. -/
theorem compareOrder_reports_reversed (subject : Subject) (memory : Memory)
    (hwhole : ∀ n ∈ subject.program.root.walk, n.hasWholeChain = true) :
    (∃ reversed : List Site, reversed.Sublist subject.program.sites ∧ reversed.Nodup ∧
      (∀ s ∈ reversed, ∃ left op right,
        s.node.shape = .compare left [op] [right] ∧ op.isMembership = false) ∧
      (∀ s ∈ subject.program.sites, ∀ left op right,
        s.node.shape = .compare left [op] [right] → op.isMembership = false →
          (s ∈ reversed ↔ ¬ left.HoldsVariable ∧ right.HoldsVariable ∧ ¬ right.Overlooks)) ∧
      (Check.compareOrder.judge subject memory).1 =
        .ofFindings (reversed.map fun s => Violation.compareOrder.atNode s.node)) ∧
    ∀ e : Node, hasVariableRight [e] = hasVariablePart e ↔ ¬ e.Overlooks := by
  have hrule (s : Site) (hs : s ∈ subject.program.sites) := compareOrder_eq
    (hwhole s.node (Program.node_mem_walk_of_mem_sites hs))
  have hreport : (Check.compareOrder.judge subject memory).1 =
      .ofFindings ((subject.program.sites.filter isReversed).map fun s =>
        Violation.compareOrder.atNode s.node) := by
    have hfault : ∀ r ∈ subject.program.sites.map compareOrder, r.fault = none := by
      intro r hr
      obtain ⟨s, hs, rfl⟩ := List.mem_map.mp hr
      rw [hrule s hs]
      rfl
    have hsequence : (Check.compareOrder.judge subject memory).1 =
        .ofFindings ((subject.program.sites.map compareOrder).flatMap Report.findings) :=
      Report.sequence_eq_ofFindings hfault
    rw [hsequence, List.flatMap_map, ← flatMap_reportIf]
    congr 1
    refine List.flatMap_congr fun s hs => ?_
    rw [hrule s hs]
    rfl
  refine ⟨⟨subject.program.sites.filter isReversed, List.filter_sublist,
    subject.program.sites_nodup.filter _, fun s hs => ?_, fun s hs left op right hshape hop => ?_,
    hreport⟩, fun e => hasVariableRight_eq_hasVariablePart_iff⟩
  · exact exists_of_isReversed (List.mem_filter.mp hs).2
  · rw [List.mem_filter, and_iff_right hs, isReversed_iff hshape hop]

/-- A constant. -/
def digit (id : Nat) (n : Int) : Node :=
  .mk id none (.constant (.int n) none)

/-- The sum `1 + (2 + x)`, in which nothing is overlooked. -/
def lateSum : Node :=
  .mk 4 none (.binary (digit 5 1) .add
    (.mk 6 none (.binary (digit 7 2) .add (.mk 8 none (.name "x" (some .load))))))

/-- The sum `2 + 3 + x`, whose first operand is a sum of constants. -/
def hiddenSum : Node :=
  .mk 4 none (.binary (.mk 5 none (.binary (digit 6 2) .add (digit 7 3))) .add
    (.mk 8 none (.name "x" (some .load))))

/-- The comparison of a constant with a sum. -/
def sumTest (sum : Node) : Node :=
  .mk 2 (some ⟨1, 0⟩) (.compare (digit 3 1) [.eq] [sum])

/-- A file with one expression. -/
def expressionFile (value : Node) : Node :=
  .mk 0 none (.file [.mk 1 (some ⟨1, 0⟩) (.expression value)])

/-- A file with two expressions. -/
def twoExpressions (first second : Node) : Node :=
  .mk 0 none (.file [.mk 1 (some ⟨1, 0⟩) (.expression first),
    .mk 9 (some ⟨2, 0⟩) (.expression second)])

theorem mem_walk_twoExpressions {first second : Node} :
    second ∈ (twoExpressions first second).walk := by
  refine Node.mem_walk_of_mem_children (List.mem_cons_of_mem _ List.mem_cons_self) ?_
  exact Node.mem_walk_of_mem_children List.mem_cons_self second.mem_walk_self

/-- `1 == 1 + (2 + x)` as a subject. -/
def lateSubject : Subject :=
  ⟨{ root := expressionFile (sumTest lateSum), distinct := by decide }, [], "sums.py", .initial⟩

/-- `1 == 2 + 3 + x` as a subject. -/
def hiddenSubject : Subject :=
  ⟨{ root := expressionFile (sumTest hiddenSum), distinct := by decide }, [], "sums.py", .initial⟩

theorem compareOrder_reports_reversed_lateSubject :
    (∀ n ∈ lateSubject.program.root.walk, n.hasWholeChain = true) ∧
    (∃ reversed : List Site, reversed.Sublist lateSubject.program.sites ∧ reversed.Nodup ∧
      (∀ s ∈ reversed, ∃ left op right,
        s.node.shape = .compare left [op] [right] ∧ op.isMembership = false) ∧
      (∀ s ∈ lateSubject.program.sites, ∀ left op right,
        s.node.shape = .compare left [op] [right] → op.isMembership = false →
          (s ∈ reversed ↔ ¬ left.HoldsVariable ∧ right.HoldsVariable ∧ ¬ right.Overlooks)) ∧
      (Check.compareOrder.judge lateSubject {}).1 =
        .ofFindings (reversed.map fun s => Violation.compareOrder.atNode s.node)) ∧
    (¬ (digit 3 1).HoldsVariable ∧ lateSum.HoldsVariable ∧ ¬ lateSum.Overlooks) := by
  have hwhole : ∀ n ∈ lateSubject.program.root.walk, n.hasWholeChain = true := by decide
  obtain ⟨hreport, hsearches⟩ := compareOrder_reports_reversed lateSubject {} hwhole
  refine ⟨hwhole, hreport, ?_, ?_, ?_⟩
  · rw [← hasVariablePart_iff]
    decide
  · rw [← hasVariablePart_iff]
    decide
  · rw [← hsearches]
    decide

/-- **An operand is overlooked.** Nothing variable stands on the left of `1 == 2 + 3 + x` and
something variable on the right, but the comparison is not reported, because the two searches give
different answers for the sum. -/
theorem compareOrder_overlooks_operand :
    ¬ (digit 3 1).HoldsVariable ∧ hiddenSum.HoldsVariable ∧
      hasVariableRight [hiddenSum] ≠ hasVariablePart hiddenSum ∧
      (Check.compareOrder.judge hiddenSubject {}).1 = .ofFindings [] := by
  refine ⟨?_, ?_, by decide, rfl⟩
  · rw [← hasVariablePart_iff]
    decide
  · rw [← hasVariablePart_iff]
    decide

end Stricture
