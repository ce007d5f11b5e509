import Mathlib.Data.List.Sort
import Stricture.Proofs.Scope.Isolation
import Stricture.Proofs.Tree.Order

/-!
# What sites bind

Events say which names a site binds, how, and in which place. Here the same is said as a relation
(`Site.Binds`) with a case for every kind of node that binds names, and the two are shown to agree
(`binds_iff_exists`). Names in findings are listed each of them once, in some order: what such a
list says is which names are on it (`NameOrder.Lists`).
-/

namespace Stricture

open Rules

/-! ### Keys of contexts -/

namespace Program

variable {q : Program} {s t : Site}

theorem context_mem_walk (hs : s ∈ q.walk) {c : Node} (hc : s.context? = some c) :
    c ∈ q.root.walk :=
  ((closest?_eq_some_iff hs).mp hc).1

/-- Keys tell contexts apart. -/
theorem key_eq_key_iff (hs : s ∈ q.walk) (ht : t ∈ q.walk) :
    Scopes.key s = Scopes.key t ↔ s.context? = t.context? := by
  refine ⟨fun h => ?_, fun h => by rw [Scopes.key, Scopes.key, h]⟩
  unfold Scopes.key at h
  cases hc : s.context? with
  | none =>
    rw [hc] at h
    exact (Option.map_eq_none_iff.mp h.symm).symm
  | some c =>
    rw [hc] at h
    obtain ⟨d, hd, hid⟩ := Option.map_eq_some_iff.mp h.symm
    rw [hd, node_eq_of_id_eq (context_mem_walk ht hd) (context_mem_walk hs hc) hid]

end Program

/-! ### Names of underscores -/

/-- A name of one or more underscores and nothing else. A line break at the end of a text, where no
name has one, would not count. -/
def Name.IsUnderscores (name : String) : Prop :=
  ∃ n, name.toList = List.replicate (n + 1) '_' ∨
    name.toList = List.replicate (n + 1) '_' ++ ['\n']

theorem exists_eq_replicate_iff {α : Type} {a : α} {l : List α} :
    (∃ n, l = List.replicate (n + 1) a) ↔ l ≠ [] ∧ ∀ b ∈ l, b = a := by
  constructor
  · rintro ⟨n, rfl⟩
    exact ⟨by simp, fun b hb => List.eq_of_mem_replicate hb⟩
  · rintro ⟨hne, hall⟩
    have hlength := Nat.succ_pred_eq_of_pos (List.length_pos_iff.mpr hne)
    exact ⟨l.length.pred, List.eq_replicate_iff.mpr ⟨hlength.symm, hall⟩⟩

theorem Name.isUnused_iff {name : String} : Name.isUnused name = true ↔ IsUnderscores name := by
  have hall (cs : List Char) : (!cs.isEmpty && cs.all (· == '_')) = true ↔
      ∃ n, cs = List.replicate (n + 1) '_' := by
    rw [exists_eq_replicate_iff]
    simp
  simp only [isUnused, Text.beforeLastBreak, IsUnderscores, hall]
  split
  case isTrue h =>
    obtain ⟨front, hfront⟩ := List.getLast?_eq_some_iff.mp h
    rw [hfront, List.dropLast_concat]
    refine exists_congr fun n => ⟨fun heq => Or.inr (by rw [heq]), ?_⟩
    rintro (heq | heq)
    · -- the line break is no underscore
      have hbreak : '\n' ∈ List.replicate (n + 1) '_' := heq ▸ by simp
      exact absurd (List.eq_of_mem_replicate hbreak) (by decide)
    · exact List.append_cancel_right heq
  case isFalse h =>
    refine exists_congr fun n => ⟨Or.inl, fun heq => heq.resolve_right fun hbreak => h ?_⟩
    rw [hbreak, List.getLast?_concat]

theorem Name.isUnused_eq_false_iff {name : String} :
    Name.isUnused name = false ↔ ¬ IsUnderscores name := by
  rw [← isUnused_iff, Bool.not_eq_true]

/-! ### Listed names -/

/-- The names that have a property, each of them once. They are sorted if this is the order. -/
structure NameOrder.Lists (order : NameOrder) (names : List String) (S : String → Prop) : Prop where
  nodup : names.Nodup
  mem_iff (x : String) : x ∈ names ↔ S x
  sorted (h : order = .sorted) : names.Pairwise (· < ·)

/-- Without repetitions, a sorted list increases at every step. -/
theorem pairwise_lt_eraseDups {names : List String} (h : names.Pairwise (· ≤ ·)) :
    names.eraseDups.Pairwise (· < ·) := by
  induction hlength : names.length using Nat.strongRecOn generalizing names with
  | ind size ih =>
    cases names with
    | nil => exact List.Pairwise.nil
    | cons a rest =>
      obtain ⟨ha, hrest⟩ := List.pairwise_cons.mp h
      rw [List.eraseDups_cons, List.pairwise_cons]
      constructor
      · intro b hb
        rw [List.mem_eraseDups, List.mem_filter] at hb
        have hne : b ≠ a := by simpa using hb.2
        exact String.not_le.mp fun hle => hne (String.le_antisymm hle (ha b hb.1))
      · have hlt : (rest.filter fun b => !b == a).length < size := by
          have hle := List.length_filter_le (fun b => !b == a) rest
          rw [List.length_cons] at hlength
          omega
        exact ih _ hlt (hrest.filter _) rfl

theorem pairwise_lt_sortedNames (names : List String) : (sortedNames names).Pairwise (· < ·) := by
  have hle (a b : String) : (!decide (b < a)) = true ↔ a ≤ b := by
    rw [Bool.not_eq_true', decide_eq_false_iff_not, String.not_lt]
  refine pairwise_lt_eraseDups ((List.pairwise_mergeSort ?_ ?_ names).imp (hle _ _).mp)
  · intro a b c hab hbc
    exact (hle a c).mpr (String.le_trans ((hle a b).mp hab) ((hle b c).mp hbc))
  · intro a b
    rw [Bool.or_eq_true, hle, hle]
    exact String.le_total a b

/-- Whatever the order, what it lists are the names that it is given. -/
theorem NameOrder.lists_list (order : NameOrder) {names : List String} {S : String → Prop}
    (h : ∀ x, x ∈ names ↔ S x) : order.Lists (order.list names) S where
  nodup := order.nodup names
  mem_iff x := order.mem_iff.trans (h x)
  sorted := by
    rintro rfl
    exact pairwise_lt_sortedNames names

/-- One finding with all of the names, unless there are none. -/
def Violation.onNames (v : Violation) (n : Node) (names : List String) : List Finding :=
  if names = [] then [] else [v.atNode n (", ".intercalate names)]

theorem Rules.namesFinding_eq_onNames (order : NameOrder) (v : Violation) (n : Node)
    (names : List String) : namesFinding order v n names = v.onNames n (order.list names) := by
  have hempty : order.list names = [] ↔ names = [] := by
    simp only [List.eq_nil_iff_forall_not_mem, order.mem_iff]
  unfold namesFinding Violation.onNames
  by_cases h : names = []
  · rw [if_pos (hempty.mpr h), h]
    rfl
  · rw [if_neg (fun hnil => h (hempty.mp hnil))]
    simp [reportIf, h]

/-! ### Binders -/

/-- The site at which a name is bound: an imported name is bound by its import, and the target of
an item by the block that has the item. -/
def Site.binder (s : Site) : Site :=
  match s.node.shape with
  | .importedName .. | .withItem .. => s.parent?.getD s
  | _ => s

/-- The node at the site binds the name, for a block or in plain. -/
inductive Site.Binds (s : Site) : BindingMode → String → Prop
  | functionDef {mode name params body decorators returns}
      (h : s.node.shape = .functionDef mode name params body decorators returns)
      (hname : name ≠ "") : s.Binds .block name
  | classDef {name bases keywords body decorators}
      (h : s.node.shape = .classDef name bases keywords body decorators) (hname : name ≠ "") :
      s.Binds .block name
  | handler {type name body} (h : s.node.shape = .handler type (some name) body)
      (hname : name ≠ "") : s.Binds .block name
  | forLoop {mode target iter body orelse name}
      (h : s.node.shape = .forLoop mode target iter body orelse) (hname : name ∈ target.variables) :
      s.Binds .block name
  /-- An empty new name counts as none. -/
  | importedName {name asName} (h : s.node.shape = .importedName name asName)
      (hname : asName = none ∨ asName = some "") : s.Binds .block name
  | newName {name asName} (h : s.node.shape = .importedName name (some asName))
      (hname : asName ≠ "") : s.Binds .block asName
  | withItem {manager target name} (h : s.node.shape = .withItem manager (some target))
      (hname : name ∈ target.variables) : s.Binds .block name
  | assign {targets value target name} (h : s.node.shape = .assign targets value)
      (htarget : target ∈ targets) (hname : name ∈ target.variables) : s.Binds .plain name
  | annAssign {target hint value name} (h : s.node.shape = .annAssign target hint value)
      (hname : name ∈ target.variables) : s.Binds .plain name
  | param {name hint} (h : s.node.shape = .param name hint) : s.Binds .plain name

theorem Rules.mem_ownName {name x : String} : x ∈ ownName name ↔ x = name ∧ name ≠ "" := by
  unfold ownName
  split <;> simp_all

/-- The site of an event is its binder. -/
theorem Rules.site_eq_binder {s : Site} {e : BindingEvent} (h : bindingEvent? s = some e) :
    e.site = s.binder := by
  unfold bindingEvent? at h
  split at h
  case h_5 hshape | h_6 hshape =>
    obtain ⟨p, hp, rfl⟩ := Option.map_eq_some_iff.mp h
    simp [Site.binder, hshape, hp]
  case h_10 => cases h
  all_goals
    obtain rfl := Option.some.inj h
    simp_all [Site.binder]

/-- Whatever a site binds is part of its event. -/
theorem Site.Binds.exists_event {s : Site} {mode : BindingMode} {x : String} (h : s.Binds mode x)
    (hs : s.parent? = none → s.node.kind = .file) :
    ∃ e, bindingEvent? s = some e ∧ e.mode = mode ∧ x ∈ e.names := by
  -- a part of a statement has a parent, since it is no file
  have hparent (hk : s.node.kind ≠ .file) : ∃ p, s.parent? = some p :=
    Option.ne_none_iff_exists'.mp fun hnone => hk (hs hnone)
  cases h with
  | functionDef h hname | classDef h hname | handler h hname =>
    simp only [bindingEvent?, h]
    exact ⟨_, rfl, rfl, mem_ownName.mpr ⟨rfl, hname⟩⟩
  | forLoop h hname =>
    simp only [bindingEvent?, h]
    exact ⟨_, rfl, rfl, hname⟩
  | importedName h hname =>
    obtain ⟨p, hp⟩ := hparent (by simp [Node.kind, h, Shape.kind])
    simp only [bindingEvent?, h, hp]
    refine ⟨_, rfl, rfl, ?_⟩
    rcases hname with rfl | rfl <;> simp [Node.aliasName, h, Option.filter_some]
  | newName h hname =>
    obtain ⟨p, hp⟩ := hparent (by simp [Node.kind, h, Shape.kind])
    simp only [bindingEvent?, h, hp]
    exact ⟨_, rfl, rfl, by simp [Node.aliasName, h, hname, Option.filter_some]⟩
  | withItem h hname =>
    obtain ⟨p, hp⟩ := hparent (by simp [Node.kind, h, Shape.kind])
    simp only [bindingEvent?, h, hp]
    exact ⟨_, rfl, rfl, hname⟩
  | assign h htarget hname =>
    simp only [bindingEvent?, h]
    refine ⟨_, rfl, rfl, ?_⟩
    simp only [Node.assignedVariables, Node.targets, h]
    exact List.mem_flatMap.mpr ⟨_, htarget, hname⟩
  | annAssign h hname =>
    simp only [bindingEvent?, h]
    refine ⟨_, rfl, rfl, ?_⟩
    simpa [Node.assignedVariables, Node.targets, h] using hname
  | param h =>
    simp only [bindingEvent?, h]
    exact ⟨_, rfl, rfl, List.mem_singleton.mpr rfl⟩

/-- An event has names that its site binds. -/
theorem Site.binds_of_event {s : Site} {e : BindingEvent} {x : String}
    (he : bindingEvent? s = some e) (hx : x ∈ e.names) : s.Binds e.mode x := by
  unfold bindingEvent? at he
  split at he
  case h_1 h =>
    obtain rfl := Option.some.inj he
    obtain ⟨rfl, hname⟩ := mem_ownName.mp hx
    exact .functionDef h hname
  case h_2 h =>
    obtain rfl := Option.some.inj he
    obtain ⟨rfl, hname⟩ := mem_ownName.mp hx
    exact .classDef h hname
  case h_3 name _ h =>
    obtain rfl := Option.some.inj he
    cases name with
    | none => exact absurd hx List.not_mem_nil
    | some name =>
      obtain ⟨rfl, hname⟩ := mem_ownName.mp hx
      exact .handler h hname
  case h_4 h =>
    obtain rfl := Option.some.inj he
    exact .forLoop h hx
  case h_5 name asName h =>
    obtain ⟨p, _, rfl⟩ := Option.map_eq_some_iff.mp he
    obtain rfl := List.mem_singleton.mp hx
    simp only [Node.aliasName, h]
    cases asName with
    | none => exact .importedName h (Or.inl rfl)
    | some new =>
      by_cases hnew : new = ""
      · subst hnew
        exact .importedName h (Or.inr rfl)
      · rw [Option.filter_some_pos (by simpa using hnew)]
        exact .newName h hnew
  case h_6 h =>
    obtain ⟨p, _, rfl⟩ := Option.map_eq_some_iff.mp he
    exact .withItem h hx
  case h_7 h =>
    obtain rfl := Option.some.inj he
    simp only [Node.assignedVariables, Node.targets, h] at hx
    obtain ⟨target, htarget, hname⟩ := List.mem_flatMap.mp hx
    exact .assign h htarget hname
  case h_8 h =>
    obtain rfl := Option.some.inj he
    refine .annAssign h ?_
    simpa [Node.assignedVariables, Node.targets, h] using hx
  case h_9 h =>
    obtain rfl := Option.some.inj he
    obtain rfl := List.mem_singleton.mp hx
    exact .param h
  case h_10 => cases he

/-- **Events are what binds names**: in a file, the names of the event at a site are those that the
site binds. -/
theorem Program.binds_iff_exists {q : Program} {s : Site} (hroot : q.root.kind = .file)
    (hs : s ∈ q.walk) {mode : BindingMode} {x : String} :
    s.Binds mode x ↔ ∃ e, bindingEvent? s = some e ∧ e.mode = mode ∧ x ∈ e.names := by
  constructor
  · intro h
    refine h.exists_event fun hnone => ?_
    rw [(parent?_eq_none_iff hs).mp hnone, hroot]
  · rintro ⟨e, he, rfl, hx⟩
    exact Site.binds_of_event he hx

/-- The event has the place and the names of what the site binds. -/
structure Rules.BindingEvent.Describes (e : BindingEvent) (s : Site) : Prop where
  site_eq : e.site = s.binder
  binds_iff (mode : BindingMode) (x : String) : s.Binds mode x ↔ e.mode = mode ∧ x ∈ e.names

theorem Program.describes_of_event {q : Program} {s : Site} {e : BindingEvent}
    (hroot : q.root.kind = .file) (hs : s ∈ q.walk) (he : bindingEvent? s = some e) :
    e.Describes s where
  site_eq := site_eq_binder he
  binds_iff mode x := by
    rw [binds_iff_exists hroot hs, he]
    constructor
    · rintro ⟨e', he', hmode, hx⟩
      obtain rfl := Option.some.inj he'
      exact ⟨hmode, hx⟩
    · rintro ⟨hmode, hx⟩
      exact ⟨e, rfl, hmode, hx⟩

/-- A site binds all of its names in one way. -/
theorem Program.binds_mode_eq {q : Program} {s : Site} (hroot : q.root.kind = .file)
    (hs : s ∈ q.walk) {mode mode' : BindingMode} {x y : String} (h : s.Binds mode x)
    (h' : s.Binds mode' y) : mode = mode' := by
  obtain ⟨e, he, hmode, -⟩ := (binds_iff_exists hroot hs).mp h
  obtain ⟨e', he', hmode', -⟩ := (binds_iff_exists hroot hs).mp h'
  obtain rfl := Option.some.inj (he.symm.trans he')
  exact hmode.symm.trans hmode'

end Stricture
