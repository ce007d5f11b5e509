import Stricture.Proofs.Place.Located
import Stricture.Proofs.Tree.Order

/-!
# Statements out of reach and without effect

Statements stand in lists: the main block of a node, the one that is run otherwise, and the one that
is run in the end. A statement is out of reach if an earlier one of its list leaves the list. An
expression is idle if it does nothing, unless it is a text that documents what it comes first in.

The check goes over the lists of every site. They are parts of the children, and the children of
different sites differ, so no statement is looked at twice (`Program.nodup_picked`). What is
reported of one list does not depend on anything outside of it, except that a text can be
documentation only in the main block of a definition or a file (`Node.blocks_of_documented`).
-/

namespace Stricture

open Rules

/-! ### Lists of statements -/

/-- The lists of statements that hang on a node. -/
def Node.blocks (n : Node) : List (List Node) :=
  [n.body, n.orelse, n.finalBody]

namespace Node

variable {n : Node}

theorem isAny_iff {kinds : List Kind} : n.isAny kinds = true ↔ n.kind ∈ kinds := by
  rw [isAny, List.contains_iff_mem]

/-- The lists of statements are parts of the children, in the same order. -/
theorem flatten_blocks_sublist (n : Node) : n.blocks.flatten.Sublist n.children := by
  obtain ⟨id, position, shape⟩ := n
  cases shape with
  | classDef name bases keywords body decorators =>
    have hbody : body.Sublist (bases ++ keywords ++ body ++ decorators) :=
      (List.sublist_append_right _ body).trans (List.sublist_append_left _ decorators)
    simpa [blocks, Node.body, orelse, finalBody, children, Node.shape, Shape.children] using hbody
  | _ => simp [blocks, body, orelse, finalBody, children, Node.shape, Shape.children]

/-- Where the check does not look, there is nothing to look at, apart from the cases of a match and
groups of handlers. -/
theorem blocks_of_not_isAny_blockKinds (h : n.isAny blockKinds = false)
    (hother : n.isAny [.matchCase, .tryGroup] = false) : n.blocks = [[], [], []] := by
  obtain ⟨id, position, shape⟩ := n
  cases shape with
  | functionDef mode | forLoop mode | withBlock mode => cases mode <;> cases h
  | file | classDef | whileLoop | branch | tryBlock | handler => cases h
  | tryGroup | matchCase => cases hother
  | _ => rfl

/-- Definitions and files have a main block only. -/
theorem blocks_of_documented (h : n.isAny documentedKinds = true) :
    n.blocks = [n.body, [], []] := by
  obtain ⟨id, position, shape⟩ := n
  cases shape with
  | file | functionDef | classDef => rfl
  | forLoop mode | withBlock mode => cases mode <;> cases h
  | _ => cases h

end Node

/-! ### What is picked from the lists -/

section Picking

variable {q : Program} {pick : Bool → List Node → List Node}

/-- What is picked from the lists of a program, site by site. The choice knows whether a text at the
start of the list may be documentation. -/
def Program.picked (q : Program) (pick : Bool → List Node → List Node) : List Node :=
  q.sites.flatMap fun s => s.node.blocks.flatMap (pick (s.node.isAny documentedKinds))

theorem Program.mem_picked_iff {m : Node} :
    m ∈ q.picked pick ↔ ∃ n ∈ q.root.walk, ∃ block ∈ n.blocks,
      m ∈ pick (n.isAny documentedKinds) block := by
  simp only [picked, List.mem_flatMap]
  constructor
  · rintro ⟨s, hs, block, hblock, hm⟩
    exact ⟨s.node, node_mem_walk_of_mem_sites hs, block, hblock, hm⟩
  · rintro ⟨n, hn, block, hblock, hm⟩
    obtain ⟨s, hs, rfl⟩ := exists_site hn
    exact ⟨s, mem_walk_iff_mem_sites.mp hs, block, hblock, hm⟩

/-- **No statement is picked twice.** -/
theorem Program.nodup_picked (hpick : ∀ documents block, (pick documents block).Sublist block) :
    (q.picked pick).Nodup := by
  have hpart (n : Node) :
      (n.blocks.flatMap (pick (n.isAny documentedKinds))).Sublist n.children := by
    refine List.Sublist.trans ?_ n.flatten_blocks_sublist
    simp only [Node.blocks, List.flatMap_cons, List.flatMap_nil, List.flatten_cons,
      List.flatten_nil]
    exact (hpick _ _).append ((hpick _ _).append ((hpick _ _).append .slnil))
  refine List.nodup_flatMap.mpr ⟨fun s hs => ?_, ?_⟩
  · exact (hpart s.node).nodup (nodup_children (mem_walk_iff_mem_sites.mpr hs))
  · -- what two sites have in common is a child of both, so that they are one site
    refine q.sites_nodup.imp_of_mem fun {s t} hs ht hne m hm hm' => hne ?_
    have hnode := eq_of_mem_children (node_mem_walk_of_mem_sites hs)
      (node_mem_walk_of_mem_sites ht) ((hpart s.node).subset hm) ((hpart t.node).subset hm')
    exact eq_of_node_eq (mem_walk_iff_mem_sites.mpr hs) (mem_walk_iff_mem_sites.mpr ht) hnode

/-- What is reported of the lists of a site is reported of each of them. -/
theorem filter_statementLists {s : Site} {v : Violation}
    (hlist : ∀ documents block, (statementList documents true false block).filter
      (fun f => f.violation = v) = (pick documents block).map fun n => v.atNode n)
    (hv : Violation.uselessNode ≠ v) (hother : s.node.isAny [.matchCase, .tryGroup] = false) :
    (statementLists s).filter (fun f => f.violation = v) =
      (s.node.blocks.flatMap (pick (s.node.isAny documentedKinds))).map fun n => v.atNode n := by
  unfold statementLists
  dsimp only
  split
  case isTrue =>
    rw [List.filter_append, List.filter_append, List.filter_append, hlist, hlist, hlist,
      filter_reportIf, if_neg hv]
    simp [Node.blocks]
  case isFalse hnot =>
    have hnil : pick (s.node.isAny documentedKinds) [] = [] :=
      List.map_eq_nil_iff.mp (hlist _ []).symm
    rw [Node.blocks_of_not_isAny_blockKinds (Bool.eq_false_iff.mpr hnot) hother]
    simp [hnil]

/-- What the check reports are the statements that are picked. -/
theorem filter_judge_statementLists {subject : Subject} {memory : Memory} {v : Violation}
    (hlist : ∀ documents block, (statementList documents true false block).filter
      (fun f => f.violation = v) = (pick documents block).map fun n => v.atNode n)
    (hv : Violation.uselessNode ≠ v)
    (hother : ∀ n ∈ subject.program.root.walk, n.isAny [.matchCase, .tryGroup] = false) :
    (Check.statementLists.judge subject memory).1.findings.filter (fun f => f.violation = v) =
      (subject.program.picked pick).map fun n => v.atNode n := by
  have hreport : (Check.statementLists.judge subject memory).1.findings =
      subject.program.sites.flatMap statementLists := rfl
  rw [hreport, List.filter_flatMap, Program.picked, List.map_flatMap]
  refine List.flatMap_congr fun s hs => ?_
  exact filter_statementLists hlist hv (hother _ (Program.node_mem_walk_of_mem_sites hs))

end Picking

/-! ### Statements out of reach -/

/-- An earlier statement of the same list leaves the list: it raises, returns, breaks or
continues. -/
def Program.IsUnreachable (q : Program) (m : Node) : Prop :=
  ∃ n ∈ q.root.walk, ∃ block ∈ n.blocks, ∃ earlier, [earlier, m].Sublist block ∧
    earlier.kind ∈ [.raised, .returned, .broken, .continued]

/-- The statements after the first one that leaves the list. -/
def unreachableIn (block : List Node) : List Node :=
  (block.dropWhile fun n => !closes n).tail

section Unreachable

variable {block : List Node}

theorem mem_unreachableIn_iff {m : Node} :
    m ∈ unreachableIn block ↔ ∃ earlier, [earlier, m].Sublist block ∧ closes earlier = true := by
  unfold unreachableIn
  induction block with
  | nil => simp
  | cons n rest ih =>
    cases hcloses : closes n with
    | true =>
      rw [List.dropWhile_cons_of_neg (by simp [hcloses]), List.tail_cons]
      constructor
      · intro hm
        exact ⟨n, (List.singleton_sublist.mpr hm).cons_cons n, hcloses⟩
      · rintro ⟨earlier, hpair, -⟩
        exact List.singleton_sublist.mp hpair.of_cons_cons
    | false =>
      rw [List.dropWhile_cons_of_pos (by simp [hcloses]), ih]
      refine exists_congr fun earlier => and_congr_left fun hearlier => ?_
      -- the first statement does not leave the list, so it is not the earlier one
      have hne : earlier ≠ n := by
        rintro rfl
        rw [hcloses] at hearlier
        cases hearlier
      refine ⟨fun h => h.cons n, fun h => ?_⟩
      rcases List.sublist_cons_iff.mp h with hrest | ⟨_, heq, -⟩
      · exact hrest
      · exact absurd (List.cons.inj heq).1 hne

theorem unreachableIn_sublist : (unreachableIn block).Sublist block :=
  (List.tail_sublist _).trans (List.dropWhile_sublist _)

/-- What is reported as out of reach in one list, of which an earlier part may have been left. -/
theorem filter_unreachable_statementList {documents isFirst closed : Bool} :
    (statementList documents isFirst closed block).filter
      (fun f => f.violation = .unreachableCode) =
        (if closed then block else unreachableIn block).map fun n =>
          Violation.unreachableCode.atNode n := by
  induction block generalizing isFirst closed with
  | nil => cases closed <;> rfl
  | cons n rest ih =>
    rw [statementList, List.filter_append, List.filter_append, ih, filter_reportIf, filter_reportIf,
      if_pos rfl, if_neg (by decide), List.append_nil]
    cases closed with
    | true => rfl
    | false =>
      cases hcloses : closes n <;> simp [reportIf, unreachableIn, hcloses]

end Unreachable

/-! ### Expressions without effect -/

/-- The statement is a text that comes first in the body of a function, a class or a file. -/
def Program.IsDocumentation (q : Program) (m : Node) : Prop :=
  ∃ n ∈ q.root.walk, n.kind ∈ [.functionDef, .asyncFunctionDef, .classDef, .file] ∧
    n.body.head? = some m ∧ ∃ value, m.shape = .expression value ∧ value.isText = true

/-- A statement that does nothing: an expression of none of the kinds with an effect, which is no
documentation. -/
structure Program.IsIdle (q : Program) (m : Node) : Prop where
  listed : ∃ n ∈ q.root.walk, ∃ block ∈ n.blocks, m ∈ block
  effectless : ∃ value, m.shape = .expression value ∧ value.kind ∉
    [.call, .awaited, .yielded, .yieldFrom, .returned, .raised, .broken, .continued, .nonlocal,
      .global, .delete, .passed, .assertion]
  undocumented : ¬ q.IsDocumentation m

/-- The idle statements of one list. -/
def idleIn (documents : Bool) : List Node → List Node
  | [] => []
  | n :: rest => [n].filter (isIdle documents true) ++ rest.filter (isIdle documents false)

section Idle

variable {documents isFirst closed : Bool} {block : List Node} {m : Node}

theorem idleIn_sublist : (idleIn documents block).Sublist block := by
  cases block with
  | nil => exact .slnil
  | cons n rest => exact List.filter_sublist.append List.filter_sublist

theorem isIdle_iff :
    isIdle documents isFirst m = true ↔ ∃ value, m.shape = .expression value ∧
      hasEffect value = false ∧ ¬ (isFirst = true ∧ documents = true ∧ value.isText = true) := by
  unfold isIdle
  split
  case h_1 value hshape =>
    simp only [hshape, Shape.expression.injEq, exists_eq_left', Bool.and_eq_true,
      Bool.not_eq_true', Bool.and_eq_false_iff, not_and_or, Bool.not_eq_true]
    tauto
  case h_2 hother =>
    refine iff_of_false Bool.false_ne_true ?_
    rintro ⟨value, hshape, -⟩
    exact hother value hshape

/-- In a list in which no statement occurs twice, only the one at its start comes first. -/
theorem mem_idleIn_iff (hnodup : block.Nodup) :
    m ∈ idleIn documents block ↔ m ∈ block ∧ ∃ value, m.shape = .expression value ∧
      hasEffect value = false ∧
        ¬ (block.head? = some m ∧ documents = true ∧ value.isText = true) := by
  cases block with
  | nil => simp [idleIn]
  | cons n rest =>
    have hn : n ∉ rest := (List.nodup_cons.mp hnodup).1
    rw [idleIn, List.mem_append, List.mem_filter, List.mem_filter, List.mem_singleton, isIdle_iff,
      isIdle_iff, List.mem_cons, or_and_right, List.head?_cons]
    refine or_congr (and_congr_right ?_) (and_congr_right ?_)
    · rintro rfl
      simp
    · intro hm
      have hne : n ≠ m := fun heq => hn (heq ▸ hm)
      simp [hne]

theorem filter_idle_statementList_rest :
    (statementList documents false closed block).filter
      (fun f => f.violation = .statementHasNoEffect) =
        (block.filter (isIdle documents false)).map fun n =>
          Violation.statementHasNoEffect.atNode n := by
  induction block generalizing closed with
  | nil => rfl
  | cons n rest ih =>
    rw [statementList, List.filter_append, List.filter_append, ih, filter_reportIf, filter_reportIf,
      if_neg (by decide), if_pos rfl, List.nil_append, List.filter_cons]
    cases isIdle documents false n <;> rfl

/-- What is reported as idle in one list. -/
theorem filter_idle_statementList :
    (statementList documents true closed block).filter
      (fun f => f.violation = .statementHasNoEffect) =
        (idleIn documents block).map fun n => Violation.statementHasNoEffect.atNode n := by
  cases block with
  | nil => rfl
  | cons n rest =>
    rw [statementList, List.filter_append, List.filter_append, filter_idle_statementList_rest,
      filter_reportIf, filter_reportIf, if_neg (by decide), if_pos rfl, List.nil_append, idleIn,
      List.map_append, List.filter_singleton]
    cases isIdle documents true n <;> rfl

end Idle

namespace Program

variable {q : Program} {n m : Node} {block : List Node}

theorem mem_children_of_mem_blocks (hblock : block ∈ n.blocks) (hm : m ∈ block) :
    m ∈ n.children :=
  n.flatten_blocks_sublist.subset (List.mem_flatten_of_mem hblock hm)

theorem nodup_of_mem_blocks (hn : n ∈ q.root.walk) (hblock : block ∈ n.blocks) : block.Nodup := by
  obtain ⟨s, hs, rfl⟩ := exists_site hn
  exact ((List.sublist_flatten_of_mem hblock).trans s.node.flatten_blocks_sublist).nodup
    (nodup_children hs)

/-- A statement of a definition or a file stands in its main block. -/
theorem eq_body_of_documented (h : n.isAny documentedKinds = true) (hblock : block ∈ n.blocks)
    (hm : m ∈ block) : block = n.body := by
  rw [Node.blocks_of_documented h] at hblock
  rcases List.mem_cons.mp hblock with rfl | hrest
  · rfl
  · obtain rfl : block = [] := by simpa using hrest
    cases hm

theorem mem_picked_unreachableIn_iff :
    m ∈ q.picked (fun _ => unreachableIn) ↔ q.IsUnreachable m := by
  rw [mem_picked_iff]
  refine exists_congr fun n => and_congr_right fun _ => exists_congr fun block =>
    and_congr_right fun _ => ?_
  rw [mem_unreachableIn_iff]
  exact exists_congr fun earlier => and_congr_right fun _ => Node.isAny_iff

theorem mem_picked_idleIn_iff : m ∈ q.picked idleIn ↔ q.IsIdle m := by
  rw [mem_picked_iff]
  constructor
  · rintro ⟨n, hn, block, hblock, hm⟩
    obtain ⟨hlisted, value, hshape, heffect, hnot⟩ :=
      (mem_idleIn_iff (nodup_of_mem_blocks hn hblock)).mp hm
    refine ⟨⟨n, hn, block, hblock, hlisted⟩, ⟨value, hshape, ?_⟩, ?_⟩
    · rwa [← Node.isAny_iff, Bool.not_eq_true]
    · rintro ⟨n', hn', hkind, hhead, value', hshape', htext⟩
      obtain rfl := Shape.expression.inj (hshape.symm.trans hshape')
      -- what the statement comes first in is what it was found in
      obtain rfl := eq_of_mem_children hn hn' (mem_children_of_mem_blocks hblock hlisted)
        (Node.mem_children_of_mem_body (List.mem_of_mem_head? hhead))
      have hdocumented : n.isAny documentedKinds = true := Node.isAny_iff.mpr hkind
      rw [← eq_body_of_documented hdocumented hblock hlisted] at hhead
      exact hnot ⟨hhead, hdocumented, htext⟩
  · rintro ⟨⟨n, hn, block, hblock, hlisted⟩, ⟨value, hshape, heffect⟩, hundocumented⟩
    refine ⟨n, hn, block, hblock, (mem_idleIn_iff (nodup_of_mem_blocks hn hblock)).mpr
      ⟨hlisted, value, hshape, ?_, ?_⟩⟩
    · rwa [hasEffect, ← Bool.not_eq_true, Node.isAny_iff]
    · rintro ⟨hhead, hdocumented, htext⟩
      rw [eq_body_of_documented hdocumented hblock hlisted] at hhead
      exact hundocumented ⟨n, hn, Node.isAny_iff.mp hdocumented, hhead, value, hshape, htext⟩

end Program

/-! ### The whole check -/

/-- **Statements out of reach and idle statements** are reported, once each, and nothing else is
reported as one of them. The cases of a match and groups of handlers are not looked into, so there
must be none. -/
theorem statementLists_reports_unreachable_and_idle (subject : Subject) (memory : Memory)
    (hother : ∀ n ∈ subject.program.root.walk, n.isAny [.matchCase, .tryGroup] = false) :
    (Check.statementLists.judge subject memory).1.fault = none ∧
    (∃ unreachable : List Node, unreachable.Nodup ∧
      (∀ m, m ∈ unreachable ↔ subject.program.IsUnreachable m) ∧
      (Check.statementLists.judge subject memory).1.findings.filter
        (fun f => f.violation = .unreachableCode) =
          unreachable.map fun m => Violation.unreachableCode.atNode m) ∧
    ∃ idle : List Node, idle.Nodup ∧ (∀ m, m ∈ idle ↔ subject.program.IsIdle m) ∧
      (Check.statementLists.judge subject memory).1.findings.filter
        (fun f => f.violation = .statementHasNoEffect) =
          idle.map fun m => Violation.statementHasNoEffect.atNode m := by
  refine ⟨rfl, ⟨_, Program.nodup_picked fun _ _ => unreachableIn_sublist,
    fun m => Program.mem_picked_unreachableIn_iff, ?_⟩,
    ⟨_, Program.nodup_picked fun _ _ => idleIn_sublist, fun m => Program.mem_picked_idleIn_iff, ?_⟩⟩
  · exact filter_judge_statementLists (fun _ _ => filter_unreachable_statementList) (by decide)
      hother
  · exact filter_judge_statementLists (fun _ _ => filter_idle_statementList) (by decide) hother

/-- A text behind a break. -/
def lateText : Node :=
  .mk 8 (some ⟨5, 8⟩) (.expression (.mk 9 none (.constant (.text "late") none)))

/-- A documented function with a loop that is left before its end. -/
def waitFunction : Node :=
  .mk 1 (some ⟨1, 0⟩) (.functionDef .plain "wait" (.mk 2 none (.params [] [] none [] [] none []))
    [.mk 3 (some ⟨2, 4⟩) (.expression (.mk 4 none (.constant (.text "Waits.") none))),
      .mk 5 (some ⟨3, 4⟩) (.whileLoop (.mk 6 none (.constant (.bool true) none))
        [.mk 7 (some ⟨4, 8⟩) .broken, lateText] [])] [] none)

/-- The function as a subject. -/
def waitSubject : Subject :=
  ⟨{ root := .mk 0 none (.file [waitFunction]), distinct := by decide }, [], "wait.py", .initial⟩

theorem statementLists_reports_unreachable_and_idle_waitSubject :
    (∀ n ∈ waitSubject.program.root.walk, n.isAny [.matchCase, .tryGroup] = false) ∧
    (∃ unreachable : List Node, unreachable.Nodup ∧
      (∀ m, m ∈ unreachable ↔ waitSubject.program.IsUnreachable m) ∧
      [Violation.unreachableCode.atNode lateText] =
        unreachable.map fun m => Violation.unreachableCode.atNode m) ∧
    ∃ idle : List Node, idle.Nodup ∧ (∀ m, m ∈ idle ↔ waitSubject.program.IsIdle m) ∧
      [Violation.statementHasNoEffect.atNode lateText] =
        idle.map fun m => Violation.statementHasNoEffect.atNode m := by
  have hother : ∀ n ∈ waitSubject.program.root.walk,
      n.isAny [.matchCase, .tryGroup] = false := by decide
  exact ⟨hother, (statementLists_reports_unreachable_and_idle waitSubject {} hother).2⟩

end Stricture
