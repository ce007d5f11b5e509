import Stricture.Proofs.Place.Settled
import Stricture.Proofs.Tree.Links
import Stricture.Proofs.Tree.Replacement

/-!
# Lines of tuples

`Node.settleLines` hands the new position of every parent down to its children. The same correction
can be made in place: one walk, breadth first, changes the line of one tuple after the other, and
looks up the line that its parent has at that moment (`Program.correctLines`).

* `Program.settledLines_eq`: the new line of a node depends on the node and on the new line of its
  parent.
* `LineTable.exists_correct`: what the correction in place does at one node.
* `LineTable.Records`: during the walk the nodes behind have their new lines and those ahead have
  their old ones. A walk meets parents before children, so what is looked up is the new line.
* `LineTable.Records.movesTuples`: at each moment of the walk, tuples have moved up by one line at
  most, and no node has been left above its parent.
-/

namespace Stricture

/-! ### Trees that are moved alike -/

theorem Shape.map_congr_of_mem {α β : Type} {f g : α → β} {s : Shape α}
    (h : ∀ a ∈ s.children, f a = g a) : s.map f = s.map g := by
  have option (o : Option α) : o.map f = o.map g ↔ ∀ a, o = some a → f a = g a := by
    cases o <;> simp
  cases s <;> simp_all [Shape.map, Shape.children, Functor.map] <;> grind

theorem shapeReposition_eq_map (place : Option Position → Node → Option Position)
    (parent : Option Position) (s : Shape Node) :
    shapeReposition place parent s = s.map (Node.reposition place parent) := by
  cases s <;>
    simp only [shapeReposition, Shape.map, listReposition_eq_map, optionReposition_eq_map,
      keyReposition_eq_map] <;>
    rfl

/-- The new position of the first of some nodes, each of which is a child of the next one. -/
def newPosition (place : Option Position → Node → Option Position) (chain : List Node) :
    Option Position :=
  chain.foldr (fun n parent => place parent n) none

/-- Two ways to move a tree that agree at every site give the same tree. -/
theorem Site.reposition_congr {place place' : Option Position → Node → Option Position} {s : Site}
    (h : ∀ t ∈ s.visit,
      newPosition place (t.node :: t.above) = newPosition place' (t.node :: t.above)) :
    s.node.reposition place (newPosition place s.above) =
      s.node.reposition place' (newPosition place' s.above) := by
  induction s using Site.childInduction with
  | step s ih =>
    have htop : place (newPosition place s.above) s.node =
        place' (newPosition place' s.above) s.node := h s s.mem_visit_self
    have hchildren : ∀ c ∈ s.node.shape.children,
        c.reposition place (place (newPosition place s.above) s.node) =
          c.reposition place' (place' (newPosition place' s.above) s.node) := by
      intro c hc
      refine ih (s.under c) (under_mem_children hc) fun t ht => h t ?_
      rw [visit_eq]
      exact List.mem_cons_of_mem _ (List.mem_flatMap.mpr ⟨_, under_mem_children hc, ht⟩)
    obtain ⟨⟨id, position, shape⟩, above⟩ := s
    rw [Node.reposition, Node.reposition, shapeReposition_eq_map, shapeReposition_eq_map]
    dsimp only at htop hchildren ⊢
    rw [htop] at hchildren ⊢
    exact congrArg _ (Shape.map_congr_of_mem hchildren)

/-! ### Lines by identity -/

/-- A table from identities to lines. -/
abbrev LineTable := Nat → Option Int

/-- The tree with the lines of a table. A node that has no position gets none. -/
def Node.withLines (table : LineTable) (root : Node) : Node :=
  root.reposition
    (fun _ n => n.position.map fun p => { p with line := (table n.id).getD p.line }) none

/-- The line that the correction gives to a node whose parent has the given line. -/
def Node.lineBelow (above : Option Int) (n : Node) : Option Int :=
  n.line?.map fun line =>
    if n.kind = .tuple ∧ ∃ k ∈ above, k ≠ 0 ∧ k < line then line - 1 else line

theorem map_line_tuplePosition (parent : Option Position) (n : Node) :
    (tuplePosition parent n).map Position.line = n.lineBelow (parent.map Position.line) := by
  rw [tuplePosition, Node.lineBelow, Node.line?, Option.map_map, Option.map_map]
  refine Option.map_congr fun p _ => ?_
  cases parent with
  | none => simp
  | some q =>
    by_cases h : n.kind = .tuple ∧ q.line ≠ 0 ∧ q.line < p.line
    · simp [h]
    · simp [h]

/-- The correction of a line leaves the column alone. -/
theorem tuplePosition_eq_map (parent : Option Position) (n : Node) :
    tuplePosition parent n = n.position.map fun p =>
      { p with line := ((tuplePosition parent n).map Position.line).getD p.line } := by
  cases hp : n.position with
  | none => rw [tuplePosition, hp]; rfl
  | some p =>
    have hsome : ∃ l, tuplePosition parent n = some { p with line := l } := by
      rw [tuplePosition, hp, Option.map_some]
      cases parent with
      | none => exact ⟨p.line, rfl⟩
      | some q =>
        dsimp only
        split
        case isTrue => exact ⟨p.line - 1, rfl⟩
        case isFalse => exact ⟨p.line, rfl⟩
    obtain ⟨l, hl⟩ := hsome
    rw [hl]
    rfl

namespace Program

variable {q : Program} {s t : Site} {m n : Node}

/-- The lines as the tree has them. -/
def lineTable (q : Program) : LineTable :=
  fun i => (q.root.walk.find? fun n => n.id == i).bind Node.line?

/-- The program with the lines of tuples corrected. -/
def settleLines (q : Program) : Program :=
  ⟨q.root.settleLines, by rw [Node.settleLines, Node.reposition_ids]; exact q.distinct⟩

/-- The corrected lines. -/
def settledLines (q : Program) : LineTable :=
  q.settleLines.lineTable

theorem lineTable_eq (hn : n ∈ q.root.walk) : q.lineTable n.id = n.line? := by
  have hfind : (q.root.walk.find? fun m => m.id == n.id) = some n := by
    cases h : q.root.walk.find? fun m => m.id == n.id with
    | none =>
      have hnone := List.find?_eq_none.mp h n hn
      exact absurd (beq_self_eq_true n.id) hnone
    | some m =>
      have hid : m.id = n.id :=
        beq_iff_eq.mp (List.find?_some (p := fun k : Node => k.id == n.id) h)
      rw [node_eq_of_id_eq (List.mem_of_find?_eq_some h) hn hid]
  rw [lineTable, hfind]
  rfl

theorem lineTable_eq_none {i : Nat} (hi : i ∉ q.root.ids) : q.lineTable i = none := by
  have hfind : (q.root.walk.find? fun m => m.id == i) = none := by
    refine List.find?_eq_none.mpr fun m hm hid => hi ?_
    exact beq_iff_eq.mp hid ▸ id_mem_ids hm
  rw [lineTable, hfind]
  rfl

theorem settledLines_eq_none {i : Nat} (hi : i ∉ q.root.ids) : q.settledLines i = none := by
  have hids : q.settleLines.root.ids = q.root.ids := Node.reposition_ids _ _ _
  exact lineTable_eq_none (hids ▸ hi)

/-- Every site has its node, moved, in the moved tree. -/
theorem reposition_mem_walk (place : Option Position → Node → Option Position) (hs : s ∈ q.walk) :
    s.node.reposition place (newPosition place s.above) ∈ (q.root.reposition place none).walk := by
  obtain ⟨n, above⟩ := s
  induction above generalizing n with
  | nil =>
    obtain rfl := eq_root_of_above_nil hs
    exact Node.mem_walk_self _
  | cons m rest ih =>
    obtain ⟨hm, hn⟩ := parent_mem_walk hs
    have hparent := ih m hm
    rw [Node.mem_walk_iff] at hparent ⊢
    refine hparent.tail ?_
    rw [Node.HasChild, Node.reposition_children]
    exact List.mem_map_of_mem hn

theorem settledLines_eq_newPosition (hs : s ∈ q.walk) :
    q.settledLines s.node.id =
      (newPosition tuplePosition (s.node :: s.above)).map Position.line := by
  have hmem := reposition_mem_walk tuplePosition hs
  have hline := lineTable_eq (q := q.settleLines) hmem
  rw [Node.reposition_id, Node.line?, Node.reposition_position] at hline
  exact hline

/-- **The new line of a node** depends on the node and on the new line of its parent. -/
theorem settledLines_eq (hs : s ∈ q.walk) :
    q.settledLines s.node.id =
      s.node.lineBelow ((q.notedParent? s.node).bind fun m => q.settledLines m.id) := by
  have hnoted : q.notedParent? s.node = s.parent?.map Site.node := notedParent?_eq hs
  rw [settledLines_eq_newPosition hs, hnoted]
  obtain ⟨n, above⟩ := s
  cases above with
  | nil => exact map_line_tuplePosition none n
  | cons m rest =>
    have hparent := settledLines_eq_newPosition (parent_mem_walk hs).1
    rw [Site.parent?, Option.map_some, Option.bind_some, hparent]
    exact map_line_tuplePosition _ n

/-- **Nothing but lines changes**: the corrected tree is the tree with the corrected lines. -/
theorem root_settleLines_eq (q : Program) :
    q.root.settleLines = q.root.withLines q.settledLines := by
  refine Site.reposition_congr (s := q.root.top) fun t ht => ?_
  have hline := settledLines_eq_newPosition (mem_walk_iff_mem_sites.mpr ht)
  have hplace : newPosition tuplePosition (t.node :: t.above) =
      tuplePosition (newPosition tuplePosition t.above) t.node := rfl
  rw [hplace, tuplePosition_eq_map, ← hplace, ← hline]
  rfl

end Program

/-! ### The correction in place -/

/-- A tuple that the correction cannot move: it has no line, and its parent has one. -/
def Node.IsStuckBelow (above : Option Int) (n : Node) : Prop :=
  n.kind = .tuple ∧ n.line? = none ∧ ∃ k ∈ above, k ≠ 0

namespace LineTable

variable {q : Program} {table : LineTable} {n : Node}

/-- The line that the parent of a node has in the table. -/
def above (q : Program) (table : LineTable) (n : Node) : Option Int :=
  (q.notedParent? n).bind fun m => table m.id

/-- The correction at one node. A tuple moves up if its parent has an earlier line by now, and the
correction stops at a tuple that has no line. -/
def correct (q : Program) (table : LineTable) (n : Node) :
    Except Program.SettleError LineTable :=
  if n.kind = .tuple ∧ ∃ k ∈ table.above q n, k ≠ 0 then
    match table n.id with
    | none => .error .tuple
    | some line =>
      .ok (if ∃ k ∈ table.above q n, k < line then Function.update table n.id (some (line - 1))
        else table)
  else .ok table

/-- The correction at some sites, one after the other. -/
def correctAll (q : Program) (table : LineTable) (sites : List Site) :
    Except Program.SettleError LineTable :=
  sites.foldlM (fun table s => table.correct q s.node) table

theorem correctAll_cons (s : Site) (sites : List Site) :
    table.correctAll q (s :: sites) =
      (table.correct q s.node >>= fun table' => table'.correctAll q sites) :=
  rfl

theorem correct_of_isStuckBelow (hline : table n.id = n.line?)
    (h : n.IsStuckBelow (table.above q n)) : table.correct q n = .error .tuple := by
  obtain ⟨htuple, hnone, habove⟩ := h
  rw [correct, if_pos ⟨htuple, habove⟩, hline, hnone]

/-- **One node of the correction**: unless it is stuck, it gets the line that belongs below the
line of its parent, and no other line changes. -/
theorem exists_correct (hline : table n.id = n.line?) (h : ¬ n.IsStuckBelow (table.above q n)) :
    ∃ table', table.correct q n = .ok table' ∧ table' n.id = n.lineBelow (table.above q n) ∧
      ∀ i, i ≠ n.id → table' i = table i := by
  unfold correct
  by_cases htuple : n.kind = .tuple ∧ ∃ k ∈ table.above q n, k ≠ 0
  · obtain ⟨hkind, k, hk, hzero⟩ := htuple
    cases hn : n.line? with
    | none => exact absurd ⟨hkind, hn, k, hk, hzero⟩ h
    | some line =>
      rw [if_pos ⟨hkind, k, hk, hzero⟩, hline, hn, Option.mem_def.mp hk]
      refine ⟨_, rfl, ?_, fun i hi => ?_⟩
      · by_cases hlt : k < line
        · simp [Node.lineBelow, hn, hkind, hzero, hlt]
        · simp [Node.lineBelow, hn, hline, hlt]
      · split
        case isTrue => exact Function.update_of_ne hi _ _
        case isFalse => rfl
  · rw [if_neg htuple]
    refine ⟨table, rfl, ?_, fun _ _ => rfl⟩
    have hstays (line : Int) :
        ¬ (n.kind = .tuple ∧ ∃ k ∈ table.above q n, k ≠ 0 ∧ k < line) := by
      rintro ⟨hkind, k, hk, hzero, -⟩
      exact htuple ⟨hkind, k, hk, hzero⟩
    simp only [Node.lineBelow, hstays, if_false, Option.map_id', hline]

end LineTable

/-- The correction of the lines cannot move the node. -/
def Program.IsStuck (q : Program) (n : Node) : Prop :=
  n.IsStuckBelow (q.settledLines.above q n)

namespace LineTable

/-- The table in the middle of the walk: what is behind has its new line, what is ahead has its
old one. -/
structure Records (q : Program) (past : List Site) (table : LineTable) : Prop where
  done : ∀ s ∈ past, table s.node.id = q.settledLines s.node.id
  waiting : ∀ s ∈ q.walk, s ∉ past → table s.node.id = s.node.line?
  outside : ∀ i, i ∉ q.root.ids → table i = none

variable {q : Program} {table : LineTable} {past rest : List Site} {s : Site}

/-- A walk meets the parent of a site before the site. -/
theorem parent_mem_past {t : Site} (hwalk : q.walk = past ++ s :: rest) (ht : s.parent? = some t) :
    t ∈ past := by
  have hs : s ∈ q.walk := by rw [hwalk]; simp
  obtain ⟨n, above⟩ := s
  cases above with
  | nil => cases ht
  | cons m far =>
    obtain rfl := Option.some.inj ht
    obtain ⟨hm, hn⟩ := Program.parent_mem_walk hs
    have hchild : Site.HasChild ⟨m, far⟩ ⟨n, m :: far⟩ := Site.under_mem_children (s := ⟨m, far⟩) hn
    have hpair : [⟨m, far⟩, ⟨n, m :: far⟩].Sublist q.walk :=
      Site.pair_sublist_walk hm (.single hchild)
    have hnodup : q.walk.Nodup := Program.nodup_walk (Program.mem_walk_iff.mpr .refl)
    rw [hwalk] at hpair hnodup
    exact (pair_sublist_append_cons_iff hnodup).mp hpair

theorem records_lineTable (q : Program) : Records q [] q.lineTable where
  done _ hs := absurd hs List.not_mem_nil
  waiting _ hs _ := Program.lineTable_eq (Program.node_mem_walk hs)
  outside _ := Program.lineTable_eq_none

theorem records_settledLines (q : Program) : Records q q.walk q.settledLines where
  done _ _ := rfl
  waiting _ hs hnot := absurd hs hnot
  outside _ := Program.settledLines_eq_none

namespace Records

/-- Once every node is behind, the table has the new lines. -/
theorem eq_settledLines (h : Records q q.walk table) : table = q.settledLines := by
  funext i
  by_cases hi : i ∈ q.root.ids
  · obtain ⟨s, hs, rfl⟩ := List.mem_map.mp hi
    exact h.done s (Program.mem_walk_iff_mem_sites.mpr hs)
  · rw [h.outside i hi, Program.settledLines_eq_none hi]

/-- What the table has for the parent of the next site is its new line. -/
theorem above_eq (h : Records q past table) (hwalk : q.walk = past ++ s :: rest) :
    table.above q s.node = q.settledLines.above q s.node := by
  have hs : s ∈ q.walk := by rw [hwalk]; simp
  have hnoted : q.notedParent? s.node = s.parent?.map Site.node := Program.notedParent?_eq hs
  rw [above, above, hnoted]
  cases ht : s.parent? with
  | none => rfl
  | some t => exact h.done t (parent_mem_past hwalk ht)

/-- **One step of the walk**: it stops at a stuck tuple, and puts any other node behind. -/
theorem step (h : Records q past table) (hwalk : q.walk = past ++ s :: rest) :
    (q.IsStuck s.node ∧ table.correct q s.node = .error .tuple) ∨
      (¬ q.IsStuck s.node ∧
        ∃ table', table.correct q s.node = .ok table' ∧ Records q (past ++ [s]) table') := by
  have hs : s ∈ q.walk := by rw [hwalk]; simp
  have hnodup : q.walk.Nodup := Program.nodup_walk (Program.mem_walk_iff.mpr .refl)
  have hnew : s ∉ past := by
    rw [hwalk, List.nodup_append] at hnodup
    exact fun hpast => hnodup.2.2 s hpast s List.mem_cons_self rfl
  have hline := h.waiting s hs hnew
  rw [Program.IsStuck, ← h.above_eq hwalk]
  by_cases hstuck : s.node.IsStuckBelow (table.above q s.node)
  · exact Or.inl ⟨hstuck, correct_of_isStuckBelow hline hstuck⟩
  · obtain ⟨table', hcorrect, hself, hothers⟩ := exists_correct hline hstuck
    have hkept {t : Site} (ht : t ∈ q.walk) (hne : t ≠ s) : table' t.node.id = table t.node.id :=
      hothers _ fun hid => hne (Program.eq_of_id_eq ht hs hid)
    refine Or.inr ⟨hstuck, table', hcorrect, ?_, ?_, ?_⟩
    · intro t ht
      rcases List.mem_append.mp ht with hpast | hlast
      · have htwalk : t ∈ q.walk := by rw [hwalk]; exact List.mem_append_left _ hpast
        rw [hkept htwalk fun heq => hnew (heq ▸ hpast), h.done t hpast]
      · obtain rfl := List.mem_singleton.mp hlast
        rw [hself, h.above_eq hwalk, Program.settledLines_eq hs]
        rfl
    · intro t ht hnot
      rw [List.mem_append, List.mem_singleton, not_or] at hnot
      rw [hkept ht hnot.2, h.waiting t ht hnot.1]
    · intro i hi
      have hid : s.node.id ∈ q.root.ids := Program.id_mem_ids (Program.node_mem_walk hs)
      rw [hothers i fun heq => hi (heq ▸ hid), h.outside i hi]

/-- **A part of the walk**: it is stopped exactly by a stuck tuple. -/
theorem run {part : List Site} (h : Records q past table)
    (hwalk : q.walk = past ++ (part ++ rest)) :
    ((∃ s ∈ part, q.IsStuck s.node) ∧ table.correctAll q part = .error .tuple) ∨
      ((∀ s ∈ part, ¬ q.IsStuck s.node) ∧
        ∃ table', table.correctAll q part = .ok table' ∧ Records q (past ++ part) table') := by
  induction part generalizing past table with
  | nil =>
    exact Or.inr ⟨fun s hs => absurd hs List.not_mem_nil, table, rfl, by rwa [List.append_nil]⟩
  | cons s part ih =>
    rcases h.step hwalk with ⟨hstuck, herror⟩ | ⟨hfree, table', hok, hnext⟩
    · refine Or.inl ⟨⟨s, List.mem_cons_self, hstuck⟩, ?_⟩
      rw [correctAll_cons, herror]
      rfl
    · have hwalk' : q.walk = (past ++ [s]) ++ (part ++ rest) := by
        rw [hwalk, List.append_assoc, List.singleton_append, List.cons_append]
      have hcons : table.correctAll q (s :: part) = table'.correctAll q part := by
        rw [correctAll_cons, hok]
        rfl
      rw [hcons]
      rcases ih hnext hwalk' with ⟨⟨t, ht, hstuck⟩, herror⟩ | ⟨hrest, table'', hok', hdone⟩
      · exact Or.inl ⟨⟨t, List.mem_cons_of_mem s ht, hstuck⟩, herror⟩
      · refine Or.inr ⟨List.forall_mem_cons.mpr ⟨hfree, hrest⟩, table'', hok', ?_⟩
        rwa [List.append_assoc, List.singleton_append] at hdone

end Records

end LineTable

/-! ### What moves, and how far -/

/-- Lines that differ from those of the tree by the moves of tuples. -/
structure Program.MovesTuples (q : Program) (table : LineTable) : Prop where
  /-- Only tuples move, and by one line. -/
  moved : ∀ n ∈ q.root.walk, table n.id = n.line? ∨
    n.kind = .tuple ∧ ∃ l, n.line? = some l ∧ table n.id = some (l - 1)
  /-- A node that did not start above its parent does not start above it now. -/
  ordered : ∀ m ∈ q.root.walk, ∀ n ∈ m.children, ∀ k l, m.line? = some k → n.line? = some l →
    k ≤ l → ∃ k' l', table m.id = some k' ∧ table n.id = some l' ∧ k' ≤ l'

namespace Node

variable {above : Option Int} {n : Node} {k l : Int}

theorem lineBelow_cases (above : Option Int) (n : Node) : n.lineBelow above = n.line? ∨
    n.kind = .tuple ∧ ∃ l, n.line? = some l ∧ n.lineBelow above = some (l - 1) := by
  rw [lineBelow]
  cases hn : n.line? with
  | none => exact Or.inl rfl
  | some l =>
    rw [Option.map_some]
    split
    case isTrue h => exact Or.inr ⟨h.1, l, rfl, rfl⟩
    case isFalse => exact Or.inl rfl

/-- A node is not moved past the line above it. -/
theorem exists_lineBelow (hn : n.line? = some l) (hle : k ≤ l) :
    ∃ l', n.lineBelow (some k) = some l' ∧ k ≤ l' := by
  rw [lineBelow, hn, Option.map_some]
  split
  case isTrue h =>
    obtain ⟨-, j, hj, -, hlt⟩ := h
    obtain rfl := Option.some.inj hj
    exact ⟨l - 1, rfl, Int.le_sub_one_of_lt hlt⟩
  case isFalse => exact ⟨l, rfl, hle⟩

end Node

namespace LineTable.Records

variable {q : Program} {table : LineTable} {past rest : List Site}

theorem cases (h : Records q past table) {s : Site} (hs : s ∈ q.walk) :
    table s.node.id = s.node.line? ∨
      s.node.kind = .tuple ∧ ∃ l, s.node.line? = some l ∧ table s.node.id = some (l - 1) := by
  by_cases hpast : s ∈ past
  · rw [h.done s hpast, Program.settledLines_eq hs]
    exact Node.lineBelow_cases _ _
  · exact Or.inl (h.waiting s hs hpast)

/-- A line in the table is the old one or the one before it. -/
theorem exists_le (h : Records q past table) {s : Site} (hs : s ∈ q.walk) {k : Int}
    (hk : s.node.line? = some k) : ∃ k', table s.node.id = some k' ∧ k' ≤ k := by
  rcases h.cases hs with hsame | ⟨-, l, hl, hmoved⟩
  · exact ⟨k, hsame.trans hk, Int.le_refl k⟩
  · obtain rfl := Option.some.inj (hk.symm.trans hl)
    exact ⟨k - 1, hmoved, by omega⟩

/-- **At each moment of the walk** tuples have moved by one line at most, and the order of lines
along the edges of the tree has been kept. -/
theorem movesTuples (h : Records q past table) (hwalk : q.walk = past ++ rest) :
    q.MovesTuples table where
  moved n hn := by
    obtain ⟨s, hs, rfl⟩ := Program.exists_site hn
    exact h.cases hs
  ordered m hm n hn k l hk hl hle := by
    obtain ⟨t, ht, rfl⟩ := Program.exists_site hm
    have hs : t.under n ∈ q.walk := Program.under_mem_walk ht hn
    obtain ⟨k', hk', hkk⟩ := h.exists_le ht hk
    refine ⟨k', ?_⟩
    by_cases hpast : t.under n ∈ past
    · -- the parent is behind as well, and the node was moved with a look at its new line
      obtain ⟨before, after, rfl⟩ := List.append_of_mem hpast
      rw [List.append_assoc, List.cons_append] at hwalk
      have htpast := parent_mem_past hwalk (t := t) rfl
      have hparent : q.notedParent? n = some t.node := Program.notedParent?_eq hs
      have hline : table n.id = n.lineBelow (some k') := calc
        table n.id = q.settledLines n.id := h.done _ hpast
        _ = n.lineBelow ((q.notedParent? n).bind fun m => q.settledLines m.id) :=
          Program.settledLines_eq hs
        _ = n.lineBelow (some k') := by
          rw [hparent, Option.bind_some, ← h.done t (List.mem_append_left _ htpast), hk']
      obtain ⟨l', hl', hle'⟩ := Node.exists_lineBelow hl (Int.le_trans hkk hle)
      exact ⟨l', hk', hline.trans hl', hle'⟩
    · exact ⟨l, hk', (h.waiting _ hs hpast).trans hl, Int.le_trans hkk hle⟩

end LineTable.Records

namespace Program

/-- The correction in place: one walk, breadth first, over the lines of the tree. -/
def correctLines (q : Program) : Except SettleError LineTable :=
  q.lineTable.correctAll q (queueWalk [q.root.top])

/-- **Correcting lines keeps their order.** Only lines of tuples change, each by one at most, and no
node that did not start above its parent starts above it afterwards. The correction in place gives
the same lines, unless it stops at a tuple without a line; and all of this holds at each moment of
its walk. -/
theorem settleLines_keeps_order (q : Program) :
    q.root.settleLines = q.root.withLines q.settledLines ∧ q.MovesTuples q.settledLines ∧
      ((∃ n ∈ q.root.walk, q.IsStuck n) → q.correctLines = .error .tuple) ∧
      ((∀ n ∈ q.root.walk, ¬ q.IsStuck n) → q.correctLines = .ok q.settledLines) ∧
      ∀ past rest table, queueWalk [q.root.top] = past ++ rest →
        q.lineTable.correctAll q past = .ok table → q.MovesTuples table := by
  have hqueue : queueWalk [q.root.top] = q.walk := queueWalk_eq_walk q.root.top
  have hlines : q.correctLines = q.lineTable.correctAll q q.walk := by rw [correctLines, hqueue]
  have hall : q.walk = [] ++ (q.walk ++ []) := by rw [List.append_nil, List.nil_append]
  have hwhole := (LineTable.records_lineTable q).run hall
  rw [List.nil_append, ← hlines] at hwhole
  refine ⟨root_settleLines_eq q, ?_, ?_, ?_, ?_⟩
  · exact (LineTable.records_settledLines q).movesTuples (List.append_nil _).symm
  · rintro ⟨n, hn, hstuck⟩
    obtain ⟨s, hs, rfl⟩ := exists_site hn
    rcases hwhole with ⟨-, herror⟩ | ⟨hfree, -⟩
    · exact herror
    · exact absurd hstuck (hfree s hs)
  · intro hfree
    rcases hwhole with ⟨⟨s, hs, hstuck⟩, -⟩ | ⟨-, table, hok, hdone⟩
    · exact absurd hstuck (hfree s.node (node_mem_walk hs))
    · rw [hok, hdone.eq_settledLines]
  · intro past rest table hwalk hok
    rw [hqueue] at hwalk
    rcases (LineTable.records_lineTable q).run hwalk with ⟨-, herror⟩ | ⟨-, table', hok', hnow⟩
    · cases hok.symm.trans herror
    · obtain rfl := Except.ok.inj (hok.symm.trans hok')
      exact hnow.movesTuples hwalk

/-- Three tuples, one inside of the other, that all start on the line below their call. -/
def nestedTuples : Program where
  root :=
    .mk 0 none (.file [
      .mk 1 (some ⟨6, 0⟩) (.expression
        (.mk 2 (some ⟨6, 0⟩) (.call (.mk 3 (some ⟨6, 0⟩) (.name "print" (some .load)))
          [.mk 4 (some ⟨7, 4⟩) (.tuple [
            .mk 5 (some ⟨7, 4⟩) (.tuple [
              .mk 6 (some ⟨7, 4⟩) (.tuple [] (some .load))] (some .load))] (some .load))] [])))])
  distinct := by decide

/-- The outer tuple moves, and so the others move after it. -/
theorem settleLines_keeps_order_nestedTuples :
    (∀ n ∈ nestedTuples.root.walk, ¬ nestedTuples.IsStuck n) ∧
      nestedTuples.correctLines = .ok nestedTuples.settledLines ∧
      [2, 4, 5, 6].map nestedTuples.settledLines = [some 6, some 6, some 6, some 6] := by
  have hfree : ∀ n ∈ nestedTuples.root.walk, ¬ nestedTuples.IsStuck n := by
    rintro n hn ⟨htuple, hline, -⟩
    revert n
    decide
  exact ⟨hfree, (settleLines_keeps_order nestedTuples).2.2.2.1 hfree, by decide⟩

end Program

end Stricture
