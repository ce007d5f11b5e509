import Stricture.Proofs.Scope.Binders
import Stricture.Proofs.Tree.Containment

/-!
# Names that are used after their block

A name that a block binds should not be used after the block. Blocks are noted while the program is
visited, the blocks that have items only when the items are reached; a name is compared with all
blocks noted so far. Still the answer depends on the program alone (`Program.UsedAfterBlock`): by
the time a site outside of a block is visited, everything below the block was visited too.
-/

namespace Stricture

open Rules

/-! ### Blocks and their items -/

/-- The children of a node apart from the items of a block. -/
def Node.childrenOffItems (n : Node) : List Node :=
  match n.shape with
  | .withBlock _ _ body => body
  | _ => n.children

/-- Items stand where the grammar has them, in the heads of blocks. -/
def Node.KeepsItems (root : Node) : Prop :=
  ∀ n ∈ root.walk, ∀ c ∈ n.childrenOffItems, c.kind ≠ .withItem

instance (root : Node) : Decidable root.KeepsItems :=
  inferInstanceAs (Decidable (∀ n ∈ root.walk, ∀ c ∈ n.childrenOffItems, c.kind ≠ .withItem))

theorem Node.KeepsItems.exists_withBlock {root n c : Node} (h : root.KeepsItems)
    (hn : n ∈ root.walk) (hc : c ∈ n.children) (hkind : c.kind = .withItem) :
    ∃ mode items body, n.shape = .withBlock mode items body ∧ c ∈ items := by
  have hoff : c ∉ n.childrenOffItems := fun hmem => h n hn c hmem hkind
  unfold childrenOffItems at hoff
  split at hoff
  case h_1 mode items body hshape =>
    rw [Node.children, hshape, Shape.children] at hc
    exact ⟨mode, items, body, hshape, (List.mem_append.mp hc).resolve_right hoff⟩
  case h_2 => exact absurd hc hoff

/-- The node at the site is a block that binds the name: an exception handler, a loop, or a block
with items. -/
inductive Site.BindsForBlock (b : Site) : String → Prop
  | handler {type name body} (h : b.node.shape = .handler type (some name) body)
      (hname : name ≠ "") : b.BindsForBlock name
  | forLoop {mode target iter body orelse name}
      (h : b.node.shape = .forLoop mode target iter body orelse)
      (hname : name ∈ target.variables) : b.BindsForBlock name
  | withBlock {mode items body item manager target name}
      (h : b.node.shape = .withBlock mode items body) (hitem : item ∈ items)
      (htarget : item.shape = .withItem manager (some target))
      (hname : name ∈ target.variables) : b.BindsForBlock name

/-- The name at the site is read, and a block of the same context has bound it that was visited
before and does not stand around the site. -/
def Program.UsedAfterBlock (q : Program) (s : Site) : Prop :=
  ∃ name, s.node.shape = .name name (some .load) ∧
    ∃ b, q.Precedes b s ∧ b.context? = s.context? ∧ b.BindsForBlock name ∧
      ¬ b.node.StandsAbove s.node

/-! ### What is noted about blocks -/

section Noted

variable {q : Program} {b w : Site}

/-- What a site notes about a block and a name. -/
def Site.noteOn (b : Site) (name : String) : BlockName :=
  ⟨Scopes.key b, name, b.node⟩

/-- A site notes names of a block: of itself, or of the block whose item it is. -/
theorem exists_of_mem_blockNames (hq : q.root.KeepsItems) (hw : w ∈ q.walk) {noted : BlockName}
    (h : noted ∈ blockNames w) :
    ∃ b ∈ q.walk, (b = w ∨ w ∈ b.children) ∧
      ∃ name, b.BindsForBlock name ∧ noted = b.noteOn name := by
  unfold blockNames at h
  split at h
  case h_1 hshape =>
    obtain ⟨x, hx, rfl⟩ := List.mem_map.mp h
    obtain ⟨rfl, hname⟩ := mem_ownName.mp hx
    exact ⟨w, hw, Or.inl rfl, x, .handler hshape hname, rfl⟩
  case h_2 hshape =>
    obtain ⟨x, hx, rfl⟩ := List.mem_map.mp h
    exact ⟨w, hw, Or.inl rfl, x, .forLoop hshape hx, rfl⟩
  case h_3 hshape =>
    obtain ⟨n, above⟩ := w
    cases above with
    | nil => exact absurd h List.not_mem_nil
    | cons m rest =>
      obtain ⟨x, hx, rfl⟩ := List.mem_map.mp h
      obtain ⟨hm, hn⟩ := Program.parent_mem_walk hw
      have hkind : n.kind = .withItem := by rw [Node.kind, hshape]; rfl
      obtain ⟨mode, items, body, hblock, hitem⟩ :=
        hq.exists_withBlock (Program.node_mem_walk hm) hn hkind
      exact ⟨⟨m, rest⟩, hm, Or.inr (Site.under_mem_children hn), x,
        .withBlock hblock hitem hshape hx, rfl⟩
  case h_4 => exact absurd h List.not_mem_nil

/-- Every name of a block is noted, at the block or right below it. -/
theorem Site.BindsForBlock.exists_mem_blockNames {name : String} (h : b.BindsForBlock name) :
    ∃ w ∈ b.visit, b.noteOn name ∈ blockNames w := by
  cases h with
  | handler h hname =>
    refine ⟨b, b.mem_visit_self, ?_⟩
    simp only [blockNames, h]
    exact List.mem_map.mpr ⟨name, mem_ownName.mpr ⟨rfl, hname⟩, rfl⟩
  | forLoop h hname =>
    refine ⟨b, b.mem_visit_self, ?_⟩
    simp only [blockNames, h]
    exact List.mem_map.mpr ⟨name, hname, rfl⟩
  | @withBlock mode items body item manager target _ h hitem htarget hname =>
    have hchild : item ∈ b.node.children := by
      rw [Node.children, h, Shape.children]
      exact List.mem_append_left _ hitem
    refine ⟨b.under item, Site.mem_visit_iff.mpr (.single (Site.under_mem_children hchild)), ?_⟩
    have hshape : (b.under item).node.shape = .withItem manager (some target) := htarget
    simp only [blockNames, hshape]
    exact List.mem_map.mpr ⟨name, hname, rfl⟩

/-- At any point, the notes show a name as used after its block exactly if it is. -/
theorem isUsedAfter_iff (hq : q.root.KeepsItems) {s : Site} {past rest : List Site}
    (h : q.sites = past ++ s :: rest) {name : String} :
    isUsedAfter (past.flatMap blockNames) s name = true ↔
      ∃ b, q.Precedes b s ∧ b.context? = s.context? ∧ b.BindsForBlock name ∧
        ¬ b.node.StandsAbove s.node := by
  have hs : s ∈ q.walk := Program.mem_walk_iff_mem_sites.mpr (h ▸ by simp)
  -- what the notes are compared with, for a note on the block `b`
  have hnote {b : Site} (hb : b ∈ q.walk) (x : String) :
      ((b.noteOn x).context == s.context?.map Node.id && (b.noteOn x).name == name &&
        !s.isInside (b.noteOn x).block) = true ↔
      b.context? = s.context? ∧ x = name ∧ ¬ b.node.StandsAbove s.node := by
    simp only [Site.noteOn, Bool.and_eq_true, beq_iff_eq, Bool.not_eq_true', and_assoc]
    rw [← Bool.not_eq_true, Program.isInside_iff_standsAbove hs hb]
    exact and_congr_left fun _ => Program.key_eq_key_iff hb hs
  rw [isUsedAfter, List.any_eq_true]
  constructor
  · rintro ⟨noted, hmem, htest⟩
    obtain ⟨w, hw, hnoted⟩ := List.mem_flatMap.mp hmem
    have hws : q.Precedes w s := (Program.precedes_iff_mem h).mpr hw
    have hwalk : w ∈ q.walk := Program.mem_walk_iff_mem_sites.mpr hws.mem_left
    obtain ⟨b, hb, hplace, x, hbinds, rfl⟩ := exists_of_mem_blockNames hq hwalk hnoted
    obtain ⟨hcontext, rfl, habove⟩ := (hnote hb x).mp htest
    have hbs : q.Precedes b s := by
      rcases hplace with rfl | hchild
      · exact hws
      · have hbw := Program.precedes_of_mem_children (Program.mem_walk_iff_mem_sites.mp hb) hchild
        exact hbw.trans hws
    exact ⟨b, hbs, hcontext, hbinds, habove⟩
  · rintro ⟨b, hbs, hcontext, hbinds, habove⟩
    -- the block is left behind, and with it the place where the name is noted
    obtain ⟨w, hw, hnoted⟩ := hbinds.exists_mem_blockNames
    have hpast := (Program.precedes_iff_mem h).mp (hbs.of_not_standsAbove habove hw)
    have hb : b ∈ q.walk := Program.mem_walk_iff_mem_sites.mpr hbs.mem_left
    exact ⟨b.noteOn name, List.mem_flatMap.mpr ⟨w, hpast, hnoted⟩,
      (hnote hb name).mpr ⟨hcontext, rfl, habove⟩⟩

end Noted

/-! ### Runs -/

/-- The finding at a name that is used after its block. -/
def afterBlockFinding (s : Site) : Finding :=
  Violation.controlVarUsedAfterBlock.atNode s.node s.node.name?

section Runs

variable {q : Program}

/-- One site that is not a name that is read: there is nothing to find. -/
theorem not_usedAfterBlock {s : Site} (hs : ∀ name, s.node.shape ≠ .name name (some .load)) :
    ¬ q.UsedAfterBlock s :=
  fun ⟨name, hname, _⟩ => hs name hname

/-- One site with a name that is read: the notes tell whether it is used after its block. -/
theorem usedAfterBlock_iff (hq : q.root.KeepsItems) {s : Site} {past rest : List Site}
    (h : q.sites = past ++ s :: rest) {name : String}
    (hname : s.node.shape = .name name (some .load)) :
    q.UsedAfterBlock s ↔ isUsedAfter (past.flatMap blockNames) s name = true := by
  rw [isUsedAfter_iff hq h, Program.UsedAfterBlock, hname]
  constructor
  · rintro ⟨x, hx, hblock⟩
    obtain ⟨rfl, -⟩ := Shape.name.inj hx
    exact hblock
  · intro hblock
    exact ⟨name, rfl, hblock⟩

open Classical in
/-- A whole run: findings are made at the names that are used after their block. -/
theorem usesAfterBlocks_eq (hq : q.root.KeepsItems) {past rest : List Site}
    (h : q.sites = past ++ rest) :
    usesAfterBlocks (past.flatMap blockNames) rest =
      (rest.filter fun s => q.UsedAfterBlock s).map afterBlockFinding := by
  -- the notes are those of the sites that are behind
  induction rest generalizing past with
  | nil => rfl
  | cons s rest ih =>
    have hnext : q.sites = (past ++ [s]) ++ rest := by rw [h, List.append_assoc]; rfl
    have hothers := ih hnext
    rw [List.flatMap_append, List.flatMap_singleton] at hothers
    rw [usesAfterBlocks, hothers, List.filter_cons]
    split
    case h_1 name hname =>
      have hiff := usedAfterBlock_iff hq h hname
      by_cases hused : q.UsedAfterBlock s
      · have hnotes := hiff.mp hused
        simp [reportIf, hnotes, hused, afterBlockFinding, Node.name?, hname]
      · have hnotes := Bool.eq_false_iff.mpr fun ht => hused (hiff.mpr ht)
        simp [reportIf, hnotes, hused]
    case h_2 hs => simp [not_usedAfterBlock hs]

end Runs

/-- **Names that are used after their block.** The check reports, each of them once and in the order
in which they are visited, the names that are used after a block that has bound them, and nothing
else. -/
theorem usesAfterBlocks_reports_used (subject : Subject) (memory : Memory)
    (hq : subject.program.root.KeepsItems) :
    ∃ used : List Site, used.Sublist subject.program.sites ∧ used.Nodup ∧
      (∀ s ∈ subject.program.sites, s ∈ used ↔ subject.program.UsedAfterBlock s) ∧
      (Check.usesAfterBlocks.judge subject memory).1 =
        .ofFindings (used.map afterBlockFinding) := by
  classical
  refine ⟨subject.program.sites.filter fun s => subject.program.UsedAfterBlock s,
    List.filter_sublist, subject.program.sites_nodup.filter _, ?_, ?_⟩
  · intro s hs
    rw [List.mem_filter, decide_eq_true_iff]
    exact and_iff_right hs
  · exact congrArg Report.ofFindings (usesAfterBlocks_eq hq (List.nil_append _).symm)

/-- A function that reads a name in the block that binds it, and once more after the block. -/
def readAfterClose : Program where
  root :=
    .mk 0 none (.file [
      .mk 1 (some ⟨1, 0⟩) (.functionDef .plain "load"
        (.mk 2 none (.params [] [] none [] [] none []))
        [.mk 3 (some ⟨2, 4⟩) (.withBlock .plain
          [.mk 4 none (.withItem (.mk 5 (some ⟨2, 9⟩) (.name "source" (some .load)))
            (some (.mk 6 (some ⟨2, 19⟩) (.name "lines" (some .store)))))]
          [.mk 7 (some ⟨3, 8⟩) (.expression (.mk 8 (some ⟨3, 8⟩) (.name "lines" (some .load))))]),
        .mk 9 (some ⟨4, 4⟩) (.returned (some (.mk 10 (some ⟨4, 11⟩) (.name "lines" (some .load)))))]
        [] none)])
  distinct := by decide

/-- The function as a subject. -/
def readingSubject : Subject :=
  ⟨readAfterClose, [], "lines.py", .initial⟩

theorem usesAfterBlocks_reports_used_readingSubject : readingSubject.program.root.KeepsItems ∧
    ∃ used : List Site, used.Sublist readingSubject.program.sites ∧ used.Nodup ∧
      (∀ s ∈ readingSubject.program.sites, s ∈ used ↔ readingSubject.program.UsedAfterBlock s) ∧
      (Check.usesAfterBlocks.judge readingSubject {}).1 =
        .ofFindings (used.map afterBlockFinding) := by
  have hq : readingSubject.program.root.KeepsItems := of_decide_eq_true rfl
  exact ⟨hq, usesAfterBlocks_reports_used readingSubject {} hq⟩

end Stricture
