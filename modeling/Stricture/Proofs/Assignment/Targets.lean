import Mathlib.Data.List.Flatten
import Stricture.Proofs.Assignment.Alignment
import Stricture.Proofs.Tree.Replacement
import Stricture.Rules.Binding

/-!
# Names that targets bind

A target binds the names that stand in it with nothing around them but stars, tuples and lists
(`Node.boundSites`). The rules ask for its variables instead. These are taken from tuples, to any
depth, and from behind a star that has a name right after it, but not from lists and not from behind
any other star. So some names are overlooked (`Site.IsOverlooked`), and the variables are the names
of all other sites, from left to right and as often as they are bound
(`Node.IsTarget.variables_eq`).

Both lists are taken from the visit of a target by what stands around a site (`Node.namesWhere`),
and one equation takes such a list apart into those of the children (`Node.namesWhere_eq`).
-/

namespace Stricture

open Rules

/-! ### Lists with members left out -/

section Lists

variable {α β : Type}

/-- If every member has a value, members that are left out are missed among the values. -/
theorem filterMap_filter_eq_iff {f : α → Option β} {p : α → Bool} {l : List α}
    (hf : ∀ a ∈ l, (f a).isSome = true) :
    (l.filter p).filterMap f = l.filterMap f ↔ ∀ a ∈ l, p a = true := by
  constructor
  · intro h
    have hlength {part : List α} (hpart : part ⊆ l) : (part.filterMap f).length = part.length := by
      rw [List.length_filterMap_eq_countP, List.countP_eq_length]
      exact fun a ha => hf a (hpart ha)
    rw [← List.length_filter_eq_length_iff, ← hlength (List.filter_subset_self l), h,
      hlength (List.Subset.refl l)]
  · intro h
    rw [List.filter_eq_self.mpr h]

/-- If each part of a list is shorter in one of two ways or the same, the lists are the same only if
all parts are. -/
theorem flatMap_eq_flatMap_iff {f g : α → List β} {l : List α}
    (h : ∀ a ∈ l, (f a).Sublist (g a)) : l.flatMap f = l.flatMap g ↔ ∀ a ∈ l, f a = g a := by
  refine ⟨fun heq => ?_, List.flatMap_congr⟩
  induction l with
  | nil => exact fun a ha => absurd ha List.not_mem_nil
  | cons a rest ih =>
    obtain ⟨ha, hrest⟩ := List.forall_mem_cons.mp h
    have hle := (List.Sublist.flatMap_right rest hrest).length_le
    have hlength := congrArg List.length heq
    rw [List.flatMap_cons, List.flatMap_cons] at heq
    rw [List.flatMap_cons, List.flatMap_cons, List.length_append, List.length_append] at hlength
    have hhead : (f a).length = (g a).length := by
      have := ha.length_le
      omega
    obtain ⟨hfa, htail⟩ := List.append_inj heq hhead
    exact List.forall_mem_cons.mpr ⟨hfa, ih hrest htail⟩

end Lists

/-! ### Targets -/

/-- What may be assigned to: a name, an attribute or an item of anything, and stars, tuples and
lists of targets. -/
inductive Node.IsTarget : Node → Prop
  | name {n : Node} {id usage} (h : n.shape = .name id usage) (hid : id ≠ "") : IsTarget n
  | attr {n : Node} {value attr usage} (h : n.shape = .attr value attr usage) : IsTarget n
  | subscript {n : Node} {value index usage} (h : n.shape = .subscript value index usage) :
      IsTarget n
  | starred {n : Node} {value usage} (h : n.shape = .starred value usage)
      (hvalue : IsTarget value) : IsTarget n
  | tuple {n : Node} {elements usage} (h : n.shape = .tuple elements usage)
      (helements : ∀ e ∈ elements, IsTarget e) : IsTarget n
  | list {n : Node} {elements usage} (h : n.shape = .list elements usage)
      (helements : ∀ e ∈ elements, IsTarget e) : IsTarget n

/-- A star, a tuple or a list: what is assigned to it is assigned to what stands in it. -/
def Node.Unpacks (n : Node) : Prop :=
  n.kind = .starred ∨ n.kind = .tuple ∨ n.kind = .list

instance (n : Node) : Decidable n.Unpacks :=
  inferInstanceAs (Decidable (_ ∨ _))

namespace Site

/-- What is assigned to the top is assigned to the site: nothing but stars, tuples and lists stand
above it. -/
def IsAssigned (s : Site) : Prop :=
  ∀ a ∈ s.above, a.Unpacks

/-- A list stands above the site, or a star that does not stand right in front of it. -/
def IsOverlooked (s : Site) : Prop :=
  (∃ a ∈ s.above, a.kind = .list) ∨ ∃ a ∈ s.above.tail, a.kind = .starred

instance (s : Site) : Decidable s.IsAssigned :=
  inferInstanceAs (Decidable (∀ a ∈ s.above, a.Unpacks))

instance (s : Site) : Decidable s.IsOverlooked :=
  inferInstanceAs (Decidable (_ ∨ _))

/-- The site with one more node on top. -/
def beneath (n : Node) (s : Site) : Site :=
  ⟨s.node, s.above ++ [n]⟩

theorem visit_append_above (n : Node) (above far : List Node) :
    (⟨n, above ++ far⟩ : Site).visit =
      (⟨n, above⟩ : Site).visit.map fun s => ⟨s.node, s.above ++ far⟩ := by
  induction n using Node.childInduction generalizing above with
  | step n ih =>
    rw [visit_eq_cons, visit_eq_cons, List.map_cons, visits, visits, List.map_flatMap]
    refine congrArg _ (List.flatMap_congr fun c hc => ?_)
    exact ih c hc (n :: above)

/-- A visit of a tree: the top, and then the visits of the children, seen from the top. -/
theorem visit_top (n : Node) :
    n.top.visit = n.top :: n.children.flatMap fun c => c.top.visit.map (beneath n) := by
  rw [Node.top, visit_eq_cons, visits]
  exact congrArg _ (List.flatMap_congr fun c _ => visit_append_above c [] [n])

end Site

namespace Node

/-- The sites of the names that a target binds, from left to right. -/
def boundSites (n : Node) : List Site :=
  n.top.visit.filter fun s => s.node.kind = .name ∧ s.IsAssigned

/-- The names that a target binds, from left to right and as often as it binds them. -/
def targetNames (n : Node) : List String :=
  n.boundSites.filterMap fun s => s.node.name?

/-- The names at the sites of a tree that pass a test. -/
def namesWhere (P : Site → Prop) [DecidablePred P] (n : Node) : List String :=
  (n.top.visit.filter fun s => P s).filterMap fun s => s.node.name?

section NamesWhere

variable {P Q : Site → Prop} [DecidablePred P] [DecidablePred Q] {n : Node}

theorem namesWhere_congr (h : ∀ s, P s ↔ Q s) (n : Node) : n.namesWhere P = n.namesWhere Q := by
  rw [namesWhere, namesWhere]
  simp only [h]

theorem namesWhere_eq_nil (h : ∀ s, ¬ P s) (n : Node) : n.namesWhere P = [] := by
  rw [namesWhere, List.filter_eq_nil_iff.mpr fun s _ => by simpa using h s]
  rfl

/-- The name at the top, and then those that the children have. -/
theorem namesWhere_eq (n : Node) :
    n.namesWhere P = (if P n.top then n.name?.toList else []) ++
      n.children.flatMap fun c => c.namesWhere fun s => P (s.beneath n) := by
  have hchild (c : Node) :
      ((c.top.visit.map (Site.beneath n)).filter fun s => P s).filterMap (fun s => s.node.name?) =
        c.namesWhere fun s => P (s.beneath n) := by
    rw [List.filter_map, List.filterMap_map]
    rfl
  rw [namesWhere, Site.visit_top, List.filter_cons, List.filter_flatMap]
  by_cases htop : P n.top
  · rw [if_pos (by simpa using htop), if_pos htop, List.filterMap_cons, List.filterMap_flatMap]
    simp only [hchild]
    cases h : n.name? with
    | none => simp [Node.top, h]
    | some x => simp [Node.top, h]
  · rw [if_neg (by simpa using htop), if_neg htop, List.filterMap_flatMap, List.nil_append]
    simp only [hchild]

/-- A tree that has no names below its top. -/
theorem namesWhere_of_forall_not (h : ∀ s : Site, ¬ P (s.beneath n)) :
    n.namesWhere P = if P n.top then n.name?.toList else [] := by
  have hchild (c : Node) : (c.namesWhere fun s => P (s.beneath n)) = [] := namesWhere_eq_nil h c
  rw [namesWhere_eq]
  simp [hchild]

/-- Only the name at the top. -/
theorem namesWhere_isEmpty (n : Node) :
    n.namesWhere (fun s => s.above.isEmpty = true) = n.name?.toList := by
  rw [namesWhere_of_forall_not fun s => by simp [Site.beneath]]
  exact if_pos rfl

/-- Sites of names alone give the same names. -/
theorem filterMap_name?_filter (n : Node) :
    (n.top.visit.filter fun s => s.node.kind = .name ∧ P s).filterMap (fun s => s.node.name?) =
      n.namesWhere P := by
  rw [namesWhere, List.filterMap_filter, List.filterMap_filter]
  refine List.filterMap_congr fun s _ => ?_
  by_cases hkind : s.node.kind = .name
  · simp [hkind]
  · have hnone : s.node.name? = none := by
      rwa [kind_eq_name_iff, Option.not_isSome_iff_eq_none] at hkind
    simp [hkind, hnone]

end NamesWhere

end Node

/-! ### What is overlooked -/

namespace Site

variable {n : Node} {s : Site}

theorem isAssigned_beneath : (s.beneath n).IsAssigned ↔ s.IsAssigned ∧ n.Unpacks := by
  simp only [IsAssigned, beneath, List.mem_append, List.mem_singleton, or_imp, forall_and,
    forall_eq]

theorem isOverlooked_beneath : (s.beneath n).IsOverlooked ↔
    s.IsOverlooked ∨ n.kind = .list ∨ n.kind = .starred ∧ s.above.isEmpty = false := by
  obtain ⟨m, above⟩ := s
  cases above with
  | nil => simp [IsOverlooked, beneath]
  | cons a far =>
    simp only [IsOverlooked, beneath, List.cons_append, List.tail_cons, List.isEmpty_cons,
      and_true, List.mem_cons, List.mem_append, List.not_mem_nil, or_false, or_and_right,
      exists_or, exists_eq_left]
    simp only [or_assoc, or_left_comm]

end Site

namespace Node

variable {n : Node}

theorem IsTarget.name_ne_empty (hn : n.IsTarget) {x : String} (hx : n.name? = some x) : x ≠ "" := by
  cases hn with
  | name h hid =>
    rw [name?, h] at hx
    exact Option.some.inj hx ▸ hid
  | attr h | subscript h | starred h _ | tuple h _ | list h _ =>
    rw [name?, h] at hx
    cases hx

/-- Nothing is seen below a node that does not unpack, or below a list. -/
theorem namesWhere_eq_toList (hkind : ¬ n.Unpacks ∨ n.kind = .list) :
    (n.namesWhere fun s => s.IsAssigned ∧ ¬ s.IsOverlooked) = n.name?.toList := by
  have hnot (s : Site) : ¬ ((s.beneath n).IsAssigned ∧ ¬ (s.beneath n).IsOverlooked) := by
    rw [Site.isAssigned_beneath, Site.isOverlooked_beneath]
    tauto
  rw [namesWhere_of_forall_not hnot]
  exact if_pos (by simp [Site.IsAssigned, Site.IsOverlooked, Node.top])

/-- Below a star, a name right after it is seen. -/
theorem namesWhere_of_starred {value : Node} {usage : Option Usage}
    (h : n.shape = .starred value usage) :
    (n.namesWhere fun s => s.IsAssigned ∧ ¬ s.IsOverlooked) = value.name?.toList := by
  have hkind : n.kind = .starred := by rw [kind, h, Shape.kind]
  have hafter (s : Site) : ((s.beneath n).IsAssigned ∧ ¬ (s.beneath n).IsOverlooked) ↔
      s.above.isEmpty = true := by
    rw [Site.isAssigned_beneath, Site.isOverlooked_beneath]
    obtain ⟨m, above⟩ := s
    cases above <;> simp [Site.IsAssigned, Site.IsOverlooked, Unpacks, hkind]
  rw [namesWhere_eq, children, name?, h]
  simp only [Shape.children, namesWhere_congr hafter, namesWhere_isEmpty, Option.toList_none,
    ite_self, List.nil_append, List.flatMap_singleton]

/-- Below a tuple, the names that its elements have are seen. -/
theorem namesWhere_of_tuple {elements : List Node} {usage : Option Usage}
    (h : n.shape = .tuple elements usage) :
    (n.namesWhere fun s => s.IsAssigned ∧ ¬ s.IsOverlooked) =
      elements.flatMap (namesWhere fun s => s.IsAssigned ∧ ¬ s.IsOverlooked) := by
  have hkind : n.kind = .tuple := by rw [kind, h, Shape.kind]
  have hsame (s : Site) : ((s.beneath n).IsAssigned ∧ ¬ (s.beneath n).IsOverlooked) ↔
      s.IsAssigned ∧ ¬ s.IsOverlooked := by
    simp [Site.isAssigned_beneath, Site.isOverlooked_beneath, Unpacks, hkind]
  rw [namesWhere_eq, children, name?, h]
  simp only [namesWhere_congr hsame, Option.toList_none, ite_self, List.nil_append]
  rfl

/-- **What the variables of a target are**: the names that it binds, apart from those that are
overlooked. -/
theorem IsTarget.variables_eq (hn : n.IsTarget) :
    n.variables = n.namesWhere fun s => s.IsAssigned ∧ ¬ s.IsOverlooked := by
  have hother {n : Node} (h : n.kind ≠ .tuple) : ¬ n.IsTuple := by
    rintro ⟨items, usage, hitems⟩
    exact h (by rw [kind, hitems, Shape.kind])
  induction hn with
  | @name n id usage h hid =>
    have hname : n.name? = some id := by rw [name?, h]
    have hkind : ¬ n.Unpacks := by simp [Unpacks, kind, h, Shape.kind]
    rw [namesWhere_eq_toList (.inl hkind), variables_of_name? hname hid, hname]
    rfl
  | @attr n _ _ _ h | @subscript n _ _ _ h =>
    have hkind : ¬ n.Unpacks := by simp [Unpacks, kind, h, Shape.kind]
    have htuple : n.kind ≠ .tuple := fun htuple => hkind (.inr (.inl htuple))
    rw [namesWhere_eq_toList (.inl hkind), variables_of_not_isTuple (hother htuple)]
    simp [givenName?, targetName?, name?, h]
  | @starred n value usage h hvalue _ =>
    have hkind : n.kind = .starred := by rw [kind, h, Shape.kind]
    have htarget : n.targetName? = value.name? := by rw [targetName?, h]
    rw [namesWhere_of_starred h, variables_of_not_isTuple (hother (by simp [hkind])), givenName?,
      htarget]
    cases hname : value.name? with
    | none => rfl
    | some x => rw [Option.filter_some_pos (by simpa using hvalue.name_ne_empty hname)]
  | @tuple n elements usage h _ ih =>
    rw [variables_of_tuple h, namesWhere_of_tuple h]
    exact List.flatMap_congr ih
  | @list n elements usage h _ _ =>
    have hkind : n.kind = .list := by rw [kind, h, Shape.kind]
    rw [namesWhere_eq_toList (.inr hkind), variables_of_not_isTuple (hother (by simp [hkind]))]
    simp [givenName?, targetName?, name?, h]

/-- The names that a target binds and that are not overlooked. -/
theorem filterMap_boundSites (n : Node) :
    (n.boundSites.filter fun s => ¬ s.IsOverlooked).filterMap (fun s => s.node.name?) =
      n.namesWhere fun s => s.IsAssigned ∧ ¬ s.IsOverlooked := by
  rw [← filterMap_name?_filter, boundSites, List.filter_filter]
  refine congrArg _ (List.filter_congr fun s _ => ?_)
  rw [← Bool.decide_and, decide_eq_decide]
  tauto

theorem isSome_name?_of_mem_boundSites {s : Site} (hs : s ∈ n.boundSites) :
    s.node.name?.isSome = true :=
  kind_eq_name_iff.mp (of_decide_eq_true (List.mem_filter.mp hs).2).1

theorem IsTarget.variables_sublist (hn : n.IsTarget) : n.variables.Sublist n.targetNames := by
  rw [hn.variables_eq, ← filterMap_boundSites]
  exact List.filter_sublist.filterMap _

/-- Variables are all names that a target binds exactly if none of them is overlooked. -/
theorem IsTarget.variables_eq_targetNames_iff (hn : n.IsTarget) :
    n.variables = n.targetNames ↔ ∀ s ∈ n.boundSites, ¬ s.IsOverlooked := by
  rw [hn.variables_eq, ← filterMap_boundSites, targetNames,
    filterMap_filter_eq_iff fun s hs => isSome_name?_of_mem_boundSites hs]
  simp only [decide_eq_true_eq]

/-- The targets of a statement, or of an item of one. -/
def bindingTargets (n : Node) : List Node :=
  match n.shape with
  | .forLoop _ target _ _ _ => [target]
  | .withItem _ target => target.toList
  | _ => n.targets

end Node

/-- What binds targets binds their variables. -/
theorem Rules.names_of_bindingTargets {s : Site} {e : BindingEvent} (he : bindingEvent? s = some e)
    (hs : s.node.bindingTargets ≠ []) : e.names = s.node.bindingTargets.flatMap Node.variables := by
  cases h : s.node.shape with
  | forLoop mode target iter body orelse =>
    simp only [bindingEvent?, h] at he
    obtain rfl := Option.some.inj he
    simp only [Node.bindingTargets, h, List.flatMap_singleton]
  | withItem manager target =>
    cases target with
    | none => exact absurd (by simp [Node.bindingTargets, h]) hs
    | some target =>
      simp only [bindingEvent?, h] at he
      obtain ⟨p, -, rfl⟩ := Option.map_eq_some_iff.mp he
      simp only [Node.bindingTargets, h, Option.toList_some, List.flatMap_singleton]
  | assign targets value | annAssign target hint value =>
    simp only [bindingEvent?, h] at he
    obtain rfl := Option.some.inj he
    simp only [Node.bindingTargets, Node.assignedVariables, h]
  | _ => exact absurd (by simp only [Node.bindingTargets, Node.targets, h]) hs

/-- **What the variables of targets are.** The variables of a target are the names that it binds,
from left to right and with repetitions, apart from those that are overlooked. So they are all the
names that it binds exactly if none is overlooked, and the same holds for what a statement with this
target, and maybe others, is taken to bind. -/
theorem variables_lists_names (n : Node) (hn : n.IsTarget) :
    n.variables =
        (n.boundSites.filter fun s => ¬ s.IsOverlooked).filterMap (fun s => s.node.name?) ∧
      (n.variables = n.targetNames ↔ ∀ s ∈ n.boundSites, ¬ s.IsOverlooked) ∧
      ∀ (s : Site) (e : BindingEvent), bindingEvent? s = some e → n ∈ s.node.bindingTargets →
        (∀ t ∈ s.node.bindingTargets, t.IsTarget) →
        (e.names = s.node.bindingTargets.flatMap Node.targetNames ↔
          ∀ t ∈ s.node.bindingTargets, ∀ b ∈ t.boundSites, ¬ b.IsOverlooked) := by
  refine ⟨?_, hn.variables_eq_targetNames_iff, fun s e he hmem htargets => ?_⟩
  · rw [hn.variables_eq, Node.filterMap_boundSites]
  · rw [names_of_bindingTargets he (List.ne_nil_of_mem hmem),
      flatMap_eq_flatMap_iff fun t ht => (htargets t ht).variables_sublist]
    exact forall₂_congr fun t ht => (htargets t ht).variables_eq_targetNames_iff

/-! ### Examples -/

/-- The target `(one, *two), three[one], two`. -/
def plainTarget : Node :=
  .mk 1 (some ⟨1, 4⟩) (.tuple [
    .mk 2 (some ⟨1, 4⟩) (.tuple [
      .mk 3 (some ⟨1, 5⟩) (.name "one" (some .store)),
      .mk 4 (some ⟨1, 10⟩)
        (.starred (.mk 5 (some ⟨1, 11⟩) (.name "two" (some .store))) (some .store))] (some .store)),
    .mk 6 (some ⟨1, 17⟩) (.subscript (.mk 7 (some ⟨1, 17⟩) (.name "three" (some .load)))
      (.mk 8 (some ⟨1, 23⟩) (.name "one" (some .load))) (some .store)),
    .mk 9 (some ⟨1, 29⟩) (.name "two" (some .store))] (some .store))

/-- A loop with this target. -/
def plainLoop : Site :=
  Node.top (.mk 0 (some ⟨1, 0⟩) (.forLoop .plain plainTarget
    (.mk 10 (some ⟨1, 36⟩) (.name "rows" (some .load))) [.mk 11 (some ⟨2, 4⟩) .passed] []))

theorem plainTarget_isTarget : plainTarget.IsTarget := by
  refine .tuple rfl (List.forall_mem_cons.mpr ⟨.tuple rfl (List.forall_mem_cons.mpr
    ⟨?_, List.forall_mem_singleton.mpr (.starred rfl ?_)⟩), List.forall_mem_cons.mpr
    ⟨.subscript rfl, List.forall_mem_singleton.mpr ?_⟩⟩)
  all_goals exact .name rfl (by decide)

theorem variables_lists_names_plainTarget :
    plainTarget.IsTarget ∧ (∀ s ∈ plainTarget.boundSites, ¬ s.IsOverlooked) ∧
      plainTarget.variables = plainTarget.targetNames ∧
      plainTarget.targetNames = ["one", "two", "two"] ∧
      ∃ e, bindingEvent? plainLoop = some e ∧
        e.names = plainLoop.node.bindingTargets.flatMap Node.targetNames := by
  have hseen : ∀ s ∈ plainTarget.boundSites, ¬ s.IsOverlooked := by decide
  obtain ⟨-, hnames, hloop⟩ := variables_lists_names plainTarget plainTarget_isTarget
  have hevent := hloop plainLoop _ rfl (List.mem_singleton.mpr rfl)
    (List.forall_mem_singleton.mpr plainTarget_isTarget)
  exact ⟨plainTarget_isTarget, hseen, hnames.mpr hseen, by decide,
    _, rfl, hevent.mpr (List.forall_mem_singleton.mpr hseen)⟩

/-- The target `*(first, second), last`. -/
def starredTarget : Node :=
  .mk 1 (some ⟨1, 0⟩) (.tuple [
    .mk 2 (some ⟨1, 0⟩) (.starred
      (.mk 3 (some ⟨1, 1⟩) (.tuple [
        .mk 4 (some ⟨1, 2⟩) (.name "first" (some .store)),
        .mk 5 (some ⟨1, 9⟩) (.name "second" (some .store))] (some .store))) (some .store)),
    .mk 6 (some ⟨1, 18⟩) (.name "last" (some .store))] (some .store))

/-- The target `[left, right]`. -/
def listTarget : Node :=
  .mk 2 (some ⟨1, 4⟩) (.list [
    .mk 3 (some ⟨1, 5⟩) (.name "left" (some .store)),
    .mk 4 (some ⟨1, 11⟩) (.name "right" (some .store))] (some .store))

/-- A loop over pairs that binds a list of names, one of which is read after the loop. -/
def listLoop : Program where
  root :=
    .mk 0 none (.file [
      .mk 1 (some ⟨1, 0⟩) (.forLoop .plain listTarget
        (.mk 5 (some ⟨1, 21⟩) (.name "pairs" (some .load))) [.mk 6 (some ⟨2, 4⟩) .passed] []),
      .mk 7 (some ⟨3, 0⟩) (.expression (.mk 8 (some ⟨3, 0⟩) (.name "left" (some .load))))])
  distinct := by decide

/-- **Some names are overlooked**: those behind a star in front of a tuple, and those in a list. A
name from a list can be used after its block, and nothing is reported. -/
theorem variables_overlooks_names :
    (starredTarget.IsTarget ∧ starredTarget.targetNames = ["first", "second", "last"] ∧
        starredTarget.variables = ["last"]) ∧
      (listTarget.IsTarget ∧ listTarget.targetNames = ["left", "right"] ∧
        listTarget.variables = []) ∧
      usesAfterBlocks [] listLoop.sites = [] := by
  refine ⟨⟨?_, by decide, by decide⟩, ⟨?_, by decide, by decide⟩, rfl⟩
  · refine .tuple rfl (List.forall_mem_cons.mpr ⟨.starred rfl (.tuple rfl
      (List.forall_mem_cons.mpr ⟨?_, List.forall_mem_singleton.mpr ?_⟩)),
      List.forall_mem_singleton.mpr ?_⟩)
    all_goals exact .name rfl (by decide)
  · refine .list rfl (List.forall_mem_cons.mpr ⟨?_, List.forall_mem_singleton.mpr ?_⟩)
    all_goals exact .name rfl (by decide)

end Stricture
