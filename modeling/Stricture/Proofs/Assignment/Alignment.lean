import Mathlib.Data.List.Basic
import Stricture.Rules.Assignment
import Stricture.Tree.Induction

/-!
# Assigning variables to themselves

The rule takes the names out of the target and out of the value of an assignment, each for itself
and from left to right through nested tuples, and compares the two lists place by place. An item
that is no name leaves no gap in such a list. So a name is reported exactly if it stands on both
sides with equally many names before it (`Node.GivesName`), whatever the positions are.

If both sides line up (`Node.LinesUp`), names have names opposite to them and tuples have tuples of
their length. Then the reported names are those that stand opposite to themselves
(`Node.FacesItself`), and for tuples without tuples inside these are the names that both sides have
at one position.
-/

namespace Stricture

open Rules

/-! ### Lists that are put together and compared place by place -/

section Zip

variable {α β γ δ : Type}

theorem mem_zip_iff_getElem? {l : List α} {r : List β} {a : α} {b : β} :
    (a, b) ∈ l.zip r ↔ ∃ k : Nat, l[k]? = some a ∧ r[k]? = some b := by
  rw [List.mem_iff_getElem?]
  exact exists_congr fun k => List.getElem?_zip_eq_some

/-- If the parts of two lists have equal lengths, the lists are paired part by part. -/
theorem zip_flatMap {f : α → List γ} {g : β → List δ} {l : List α} {r : List β}
    (hlength : l.length = r.length)
    (hparts : ∀ p ∈ l.zip r, (f p.1).length = (g p.2).length) :
    (l.flatMap f).zip (r.flatMap g) = (l.zip r).flatMap fun p => (f p.1).zip (g p.2) := by
  induction l generalizing r with
  | nil =>
    obtain rfl := List.length_eq_zero_iff.mp hlength.symm
    rfl
  | cons a l ih =>
    obtain ⟨b, r, rfl⟩ := List.exists_cons_of_length_eq_add_one hlength.symm
    have htail := ih (Nat.succ.inj hlength) fun p hp => hparts p (List.mem_cons_of_mem _ hp)
    have hhead := hparts (a, b) List.mem_cons_self
    rw [List.flatMap_cons, List.flatMap_cons, List.zip_append hhead, htail, List.zip_cons_cons,
      List.flatMap_cons]

/-- What stands at a place of the values that are kept comes from an element before which as many
values are kept. -/
theorem getElem?_filterMap_eq_some_iff {f : α → Option β} {l : List α} {k : Nat} {b : β} :
    (l.filterMap f)[k]? = some b ↔ ∃ before a after,
      l = before ++ a :: after ∧ f a = some b ∧ before.countP (fun c => (f c).isSome) = k := by
  constructor
  · intro h
    obtain ⟨hk, hb⟩ := List.getElem?_eq_some_iff.mp h
    have hsplit : l.filterMap f =
        (l.filterMap f).take k ++ b :: (l.filterMap f).drop (k + 1) := by
      rw [← hb, List.getElem_cons_drop, List.take_append_drop]
    obtain ⟨front, back, rfl, hfront, hback⟩ := List.filterMap_eq_append_iff.mp hsplit
    obtain ⟨skipped, a, after, rfl, hskipped, ha, -⟩ := List.filterMap_eq_cons_iff.mp hback
    refine ⟨front ++ skipped, a, after, by rw [List.append_assoc], ha, ?_⟩
    have hnone : skipped.filterMap f = [] := List.filterMap_eq_nil_iff.mpr hskipped
    rw [← List.length_filterMap_eq_countP, List.filterMap_append, hnone, List.append_nil, hfront,
      List.length_take]
    exact Nat.min_eq_left (Nat.le_of_lt hk)
  · rintro ⟨before, a, after, rfl, ha, rfl⟩
    rw [List.filterMap_append, List.filterMap_cons_some ha, ← List.length_filterMap_eq_countP,
      List.getElem?_append_right (Nat.le_refl _), Nat.sub_self, List.getElem?_cons_zero]

end Zip

/-! ### Tuples inside of tuples -/

mutual

/-- The items of a tuple and of the tuples inside of it, from left to right. Anything else is its
own item. -/
def Node.unpacked : Node → List Node
  | .mk _ _ (.tuple elements _) => allUnpacked elements
  | n => [n]

/-- The items of several nodes. -/
def allUnpacked : List Node → List Node
  | [] => []
  | n :: rest => n.unpacked ++ allUnpacked rest

end

namespace Node

variable {m n : Node} {items others : List Node} {usage usage' : Option Usage} {x : String}

/-- The node is a tuple. -/
def IsTuple (n : Node) : Prop :=
  ∃ items usage, n.shape = .tuple items usage

/-- The name that a single item gives, starred or not. An empty name is none. -/
def givenName? (n : Node) : Option String :=
  n.targetName?.filter fun name => name != ""

theorem givenName?_eq_some_iff : n.givenName? = some x ↔ n.targetName? = some x ∧ x ≠ "" := by
  rw [givenName?, Option.filter_eq_some_iff, bne_iff_ne]

theorem targetName?_of_name? (h : n.name? = some x) : n.targetName? = some x := by
  unfold name? at h
  split at h
  · rename_i hshape
    rw [targetName?, hshape, name?, hshape]
    exact h
  · cases h

theorem not_isTuple_of_name? (h : n.name? = some x) : ¬ n.IsTuple := by
  rintro ⟨items, usage, htuple⟩
  rw [name?, htuple] at h
  cases h

theorem variables_of_tuple (h : n.shape = .tuple items usage) :
    n.variables = items.flatMap Node.variables := by
  have hall (ns : List Node) : allVariables ns = ns.flatMap Node.variables := by
    induction ns with
    | nil => rfl
    | cons c rest ih => rw [allVariables, ih, List.flatMap_cons]
  cases n with
  | mk id place shape =>
    obtain rfl : shape = .tuple items usage := h
    rw [Node.variables, hall]

theorem variables_of_not_isTuple (h : ¬ n.IsTuple) : n.variables = n.givenName?.toList := by
  rw [Node.variables]
  · rfl
  · rintro id place items usage rfl
    exact h ⟨items, usage, rfl⟩

theorem unpacked_of_tuple (h : n.shape = .tuple items usage) :
    n.unpacked = items.flatMap unpacked := by
  have hall (ns : List Node) : allUnpacked ns = ns.flatMap unpacked := by
    induction ns with
    | nil => rfl
    | cons c rest ih => rw [allUnpacked, ih, List.flatMap_cons]
  cases n with
  | mk id place shape =>
    obtain rfl : shape = .tuple items usage := h
    rw [unpacked, hall]

theorem unpacked_of_not_isTuple (h : ¬ n.IsTuple) : n.unpacked = [n] := by
  rw [unpacked]
  rintro id place items usage rfl
  exact h ⟨items, usage, rfl⟩

/-- The variables of a target are the names of its items. -/
theorem variables_eq_filterMap (n : Node) : n.variables = n.unpacked.filterMap givenName? := by
  induction n using Node.childInduction with
  | step n ih =>
    by_cases htuple : n.IsTuple
    · obtain ⟨items, usage, hshape⟩ := htuple
      rw [variables_of_tuple hshape, unpacked_of_tuple hshape, List.filterMap_flatMap]
      refine List.flatMap_congr fun c hc => ih c ?_
      rw [children, hshape]
      exact hc
    · rw [variables_of_not_isTuple htuple, unpacked_of_not_isTuple htuple]
      cases h : n.givenName? with
      | none => rw [List.filterMap_cons_none h]; rfl
      | some name => rw [List.filterMap_cons_some h]; rfl

theorem variables_of_name? (h : n.name? = some x) (hx : x ≠ "") : n.variables = [x] := by
  rw [variables_of_not_isTuple (not_isTuple_of_name? h),
    givenName?_eq_some_iff.mpr ⟨targetName?_of_name? h, hx⟩]
  rfl

/-- The node gives the name `x` after `k` other names. -/
def GivesName (n : Node) (k : Nat) (x : String) : Prop :=
  ∃ before item after, n.unpacked = before ++ item :: after ∧ item.givenName? = some x ∧
    before.countP (fun other => other.givenName?.isSome) = k

theorem givesName_iff {k : Nat} : n.GivesName k x ↔ n.variables[k]? = some x := by
  rw [variables_eq_filterMap, getElem?_filterMap_eq_some_iff, GivesName]

/-! ### Positions -/

/-- What stands at a position of a tuple, at a position of the tuple that stands there, and so
on. -/
def itemAt? : List Nat → Node → Option Node
  | [], n => some n
  | i :: path, n =>
    match n.shape with
    | .tuple items _ => items[i]?.bind (itemAt? path)
    | _ => none

/-- A name stands opposite to itself: it is a plain name at the same position of both nodes. -/
def FacesItself (m n : Node) (x : String) : Prop :=
  x ≠ "" ∧ ∃ path a b, m.itemAt? path = some a ∧ n.itemAt? path = some b ∧
    a.name? = some x ∧ b.name? = some x

/-- Both lists have the plain name `x` at one position. -/
def SharePosition (items others : List Node) (x : String) : Prop :=
  ∃ (i : Nat) (a b : Node), items[i]? = some a ∧ others[i]? = some b ∧
    a.name? = some x ∧ b.name? = some x

theorem sharePosition_iff : SharePosition items others x ↔
    ∃ p ∈ items.zip others, p.1.name? = some x ∧ p.2.name? = some x := by
  constructor
  · rintro ⟨i, a, b, ha, hb, hnames⟩
    exact ⟨(a, b), mem_zip_iff_getElem?.mpr ⟨i, ha, hb⟩, hnames⟩
  · rintro ⟨⟨a, b⟩, hp, hnames⟩
    obtain ⟨i, ha, hb⟩ := mem_zip_iff_getElem?.mp hp
    exact ⟨i, a, b, ha, hb, hnames⟩

instance : Decidable (SharePosition items others x) :=
  decidable_of_iff _ sharePosition_iff.symm

/-- Two nodes line up: both are names, or there is no name in any of them, or they are tuples of
equal length whose items line up. -/
inductive LinesUp : Node → Node → Prop
  | names {m n : Node} {a b : String} (hm : m.name? = some a) (ha : a ≠ "")
      (hn : n.name? = some b) (hb : b ≠ "") : LinesUp m n
  | nameless {m n : Node} (hm : m.variables = []) (hn : n.variables = []) : LinesUp m n
  | tuples {m n : Node} {items others : List Node} {usage usage' : Option Usage}
      (hm : m.shape = .tuple items usage) (hn : n.shape = .tuple others usage')
      (hlength : items.length = others.length)
      (hitems : ∀ (i : Nat) a b, items[i]? = some a → others[i]? = some b → LinesUp a b) :
      LinesUp m n

theorem itemAt?_cons_of_tuple (h : n.shape = .tuple items usage) (i : Nat) (path : List Nat) :
    n.itemAt? (i :: path) = items[i]?.bind (itemAt? path) := by
  rw [itemAt?, h]

theorem itemAt?_cons_of_not_isTuple (h : ¬ n.IsTuple) (i : Nat) (path : List Nat) :
    n.itemAt? (i :: path) = none := by
  rw [itemAt?]
  split
  · rename_i items usage hshape
    exact absurd ⟨items, usage, hshape⟩ h
  · rfl

/-- A name that stands at some position is one of the variables. -/
theorem mem_variables_of_itemAt? {path : List Nat} (hitem : n.itemAt? path = some m)
    (hname : m.name? = some x) (hx : x ≠ "") : x ∈ n.variables := by
  induction path generalizing n with
  | nil =>
    obtain rfl : n = m := Option.some.inj hitem
    rw [variables_of_name? hname hx]
    exact List.mem_singleton_self x
  | cons i path ih =>
    by_cases htuple : n.IsTuple
    · obtain ⟨items, usage, hshape⟩ := htuple
      rw [itemAt?_cons_of_tuple hshape, Option.bind_eq_some_iff] at hitem
      obtain ⟨c, hc, hrest⟩ := hitem
      rw [variables_of_tuple hshape]
      exact List.mem_flatMap_of_mem (List.mem_of_getElem? hc) (ih hrest)
    · rw [itemAt?_cons_of_not_isTuple htuple] at hitem
      cases hitem

theorem facesItself_of_not_isTuple (hm : ¬ m.IsTuple) :
    m.FacesItself n x ↔ x ≠ "" ∧ m.name? = some x ∧ n.name? = some x := by
  refine and_congr_right fun _ => ⟨?_, ?_⟩
  · rintro ⟨path, a, b, ha, hb, hnames⟩
    cases path with
    | nil =>
      obtain rfl := Option.some.inj ha
      obtain rfl := Option.some.inj hb
      exact hnames
    | cons i path =>
      rw [itemAt?_cons_of_not_isTuple hm] at ha
      cases ha
  · intro hnames
    exact ⟨[], m, n, rfl, rfl, hnames⟩

theorem facesItself_of_tuples (hm : m.shape = .tuple items usage)
    (hn : n.shape = .tuple others usage') :
    m.FacesItself n x ↔ ∃ (i : Nat) (a b : Node),
      items[i]? = some a ∧ others[i]? = some b ∧ a.FacesItself b x := by
  constructor
  · rintro ⟨hx, path, a, b, ha, hb, hnames⟩
    cases path with
    | nil =>
      -- A tuple is no name.
      obtain rfl := Option.some.inj ha
      exact absurd ⟨items, usage, hm⟩ (not_isTuple_of_name? hnames.1)
    | cons i path =>
      rw [itemAt?_cons_of_tuple hm, Option.bind_eq_some_iff] at ha
      rw [itemAt?_cons_of_tuple hn, Option.bind_eq_some_iff] at hb
      obtain ⟨c, hc, ha⟩ := ha
      obtain ⟨d, hd, hb⟩ := hb
      exact ⟨i, c, d, hc, hd, hx, path, a, b, ha, hb, hnames⟩
  · rintro ⟨i, c, d, hc, hd, hx, path, a, b, ha, hb, hnames⟩
    refine ⟨hx, i :: path, a, b, ?_, ?_, hnames⟩
    · rw [itemAt?_cons_of_tuple hm, hc, Option.bind_some, ha]
    · rw [itemAt?_cons_of_tuple hn, hd, Option.bind_some, hb]

theorem facesItself_of_plain_tuples (hm : m.shape = .tuple items usage)
    (hn : n.shape = .tuple others usage') (hplain : ∀ item ∈ items, ¬ item.IsTuple) :
    m.FacesItself n x ↔ x ≠ "" ∧ SharePosition items others x := by
  rw [facesItself_of_tuples hm hn]
  constructor
  · rintro ⟨i, a, b, ha, hb, hfaces⟩
    have hitem : ¬ a.IsTuple := hplain a (List.mem_of_getElem? ha)
    obtain ⟨hx, hnames⟩ := (facesItself_of_not_isTuple hitem).mp hfaces
    exact ⟨hx, i, a, b, ha, hb, hnames⟩
  · rintro ⟨hx, i, a, b, ha, hb, hnames⟩
    have hitem : ¬ a.IsTuple := hplain a (List.mem_of_getElem? ha)
    exact ⟨i, a, b, ha, hb, (facesItself_of_not_isTuple hitem).mpr ⟨hx, hnames⟩⟩

/-! ### Nodes that line up -/

theorem LinesUp.length_variables_eq (h : m.LinesUp n) :
    m.variables.length = n.variables.length := by
  induction h with
  | names hm ha hn hb => rw [variables_of_name? hm ha, variables_of_name? hn hb]; rfl
  | nameless hm hn => rw [hm, hn]
  | tuples hm hn hlength hitems ih =>
    rename_i items others _ _
    have hcounts : items.map (fun c => c.variables.length) =
        others.map fun c => c.variables.length := by
      refine List.ext_getElem (by rw [List.length_map, List.length_map, hlength]) ?_
      intro i hi hi'
      rw [List.getElem_map, List.getElem_map]
      exact ih i _ _ (List.getElem?_eq_getElem _) (List.getElem?_eq_getElem _)
    rw [variables_of_tuple hm, variables_of_tuple hn, List.length_flatMap, List.length_flatMap,
      hcounts]

theorem LinesUp.mem_zip_variables_iff (h : m.LinesUp n) :
    (x, x) ∈ m.variables.zip n.variables ↔ m.FacesItself n x := by
  induction h with
  | names hm ha hn hb =>
    rw [variables_of_name? hm ha, variables_of_name? hn hb,
      facesItself_of_not_isTuple (not_isTuple_of_name? hm), hm, hn]
    simp only [List.zip_cons_cons, List.zip_nil_left, List.mem_singleton, Prod.mk.injEq,
      Option.some.injEq]
    constructor
    · rintro ⟨rfl, rfl⟩
      exact ⟨ha, rfl, rfl⟩
    · rintro ⟨-, rfl, rfl⟩
      exact ⟨rfl, rfl⟩
  | nameless hm hn =>
    rw [hm, List.zip_nil_left]
    refine iff_of_false List.not_mem_nil ?_
    rintro ⟨hx, path, a, -, ha, -, hname, -⟩
    have hmem := mem_variables_of_itemAt? ha hname hx
    rw [hm] at hmem
    exact List.not_mem_nil hmem
  | tuples hm hn hlength hitems ih =>
    rename_i items others _ _
    have hparts (p : Node × Node) (hp : p ∈ items.zip others) :
        p.1.variables.length = p.2.variables.length := by
      obtain ⟨i, ha, hb⟩ := mem_zip_iff_getElem?.mp hp
      exact (hitems i _ _ ha hb).length_variables_eq
    rw [variables_of_tuple hm, variables_of_tuple hn, zip_flatMap hlength hparts,
      List.mem_flatMap, facesItself_of_tuples hm hn]
    constructor
    · rintro ⟨⟨a, b⟩, hp, hx⟩
      obtain ⟨i, ha, hb⟩ := mem_zip_iff_getElem?.mp hp
      exact ⟨i, a, b, ha, hb, (ih i a b ha hb).mp hx⟩
    · rintro ⟨i, a, b, ha, hb, hx⟩
      exact ⟨(a, b), mem_zip_iff_getElem?.mpr ⟨i, ha, hb⟩, (ih i a b ha hb).mpr hx⟩

end Node

/-! ### The rule -/

namespace Rules

variable {n target value : Node} {x : String}

theorem assignedVariables_eq (h : n.shape = .assign [target] value) :
    n.assignedVariables = target.variables := by
  rw [Node.assignedVariables, Node.targets, h, List.flatMap_singleton]

theorem mem_selfAssigned_iff (h : n.shape = .assign [target] value) :
    x ∈ selfAssigned n ↔ (x, x) ∈ target.variables.zip value.variables := by
  have hvalue : n.assignedValue? = some value := by
    rw [Node.assignedValue?, h]
  rw [selfAssigned, hvalue, assignedVariables_eq h]
  constructor
  · intro hx
    obtain ⟨⟨a, b⟩, hpair, rfl⟩ := List.mem_map.mp hx
    obtain ⟨hzip, hsame⟩ := List.mem_filter.mp hpair
    obtain rfl : a = b := eq_of_beq hsame
    exact hzip
  · intro hzip
    exact List.mem_map.mpr ⟨(x, x), List.mem_filter.mpr ⟨hzip, BEq.rfl⟩, rfl⟩

theorem mem_selfAssigned_iff_givesName (h : n.shape = .assign [target] value) :
    x ∈ selfAssigned n ↔ ∃ k, target.GivesName k x ∧ value.GivesName k x := by
  rw [mem_selfAssigned_iff h, mem_zip_iff_getElem?]
  exact exists_congr fun k => and_congr Node.givesName_iff.symm Node.givesName_iff.symm

theorem mem_selfAssigned_iff_facesItself (h : n.shape = .assign [target] value)
    (hlined : target.LinesUp value) : x ∈ selfAssigned n ↔ target.FacesItself value x := by
  rw [mem_selfAssigned_iff h, hlined.mem_zip_variables_iff]

theorem mem_selfAssignments_iff {s : Site} {f : Finding}
    (h : s.node.shape = .assign [target] value) :
    f ∈ selfAssignments s ↔ ∃ x : String,
      f = Violation.reassigningVariableToItself.atNode s.node x ∧ (x ∈ selfAssigned s.node ∨
        1 < target.unpacked.countP fun item => item.givenName? == some x) := by
  have hassignment : s.node.isAssignment = true := by
    rw [Node.isAssignment, Node.isAny, Node.kind, h]
    rfl
  rw [selfAssignments, if_pos hassignment, assignedVariables_eq h, List.mem_map]
  refine exists_congr fun x => ?_
  rw [List.mem_append, mem_repeated_iff, Node.variables_eq_filterMap, List.count_filterMap,
    and_comm, eq_comm]

end Rules

/-- **The names that are reported.** An assignment of a tuple to a tuple is reported for the names
that have equally many names before them on both sides, and for the names that are bound twice. If
both sides line up, the former are the names that stand opposite to themselves. If moreover no
tuple stands inside of the target, they are the names that both tuples have at one position. -/
theorem selfAssignments_reports_aligned {s : Site} {target value : Node} {items others : List Node}
    {usage usage' : Option Usage} (hassign : s.node.shape = .assign [target] value)
    (htarget : target.shape = .tuple items usage) (hvalue : value.shape = .tuple others usage') :
    (∀ f, f ∈ selfAssignments s ↔ ∃ x : String,
      f = Violation.reassigningVariableToItself.atNode s.node x ∧ (x ∈ selfAssigned s.node ∨
        1 < target.unpacked.countP fun item => item.givenName? == some x)) ∧
    ∀ x, (x ∈ selfAssigned s.node ↔ ∃ k, target.GivesName k x ∧ value.GivesName k x) ∧
      (target.LinesUp value → (x ∈ selfAssigned s.node ↔ target.FacesItself value x) ∧
        ((∀ item ∈ items, ¬ item.IsTuple) →
          (x ∈ selfAssigned s.node ↔ x ≠ "" ∧ Node.SharePosition items others x))) := by
  refine ⟨fun f => mem_selfAssignments_iff hassign, fun x => ⟨?_, fun hlined => ?_⟩⟩
  · exact mem_selfAssigned_iff_givesName hassign
  · have hfaces := mem_selfAssigned_iff_facesItself (x := x) hassign hlined
    refine ⟨hfaces, fun hplain => hfaces.trans ?_⟩
    exact Node.facesItself_of_plain_tuples htarget hvalue hplain

/-- A tuple of items that are bound. -/
def boundTuple (items : List Node) : Node :=
  .mk 2 (some ⟨1, 0⟩) (.tuple items (some .store))

/-- A tuple of items that are read. -/
def readTuple (items : List Node) : Node :=
  .mk 3 (some ⟨1, 20⟩) (.tuple items (some .load))

/-- An assignment of a tuple to a tuple. -/
def tupleAssignment (items others : List Node) : Node :=
  .mk 1 (some ⟨1, 0⟩) (.assign [boundTuple items] (readTuple others))

/-- A name among the items of a tuple. -/
def nameItem (id : Nat) (column : Int) (name : String) (usage : Usage) : Node :=
  .mk id (some ⟨1, column⟩) (.name name (some usage))

/-- The targets `point.left, width`. -/
def attributeItems : List Node :=
  [.mk 4 (some ⟨1, 0⟩) (.attr (nameItem 5 0 "point" .load) "left" (some .store)),
    nameItem 6 12 "width" .store]

/-- The values `1, width`. -/
def constantItems : List Node :=
  [.mk 7 (some ⟨1, 20⟩) (.constant (.int 1) none), nameItem 8 23 "width" .load]

theorem attributeItems_linesUp_constantItems :
    (boundTuple attributeItems).LinesUp (readTuple constantItems) := by
  refine .tuples rfl rfl rfl fun i a b ha hb => ?_
  rcases i with _ | _ | i
  · obtain rfl := Option.some.inj ha
    obtain rfl := Option.some.inj hb
    exact .nameless rfl rfl
  · obtain rfl := Option.some.inj ha
    obtain rfl := Option.some.inj hb
    exact .names rfl (by decide) rfl (by decide)
  · cases ha

theorem selfAssignments_reports_aligned_constantItems :
    (boundTuple attributeItems).LinesUp (readTuple constantItems) ∧
    (∀ item ∈ attributeItems, ¬ item.IsTuple) ∧
    Node.SharePosition attributeItems constantItems "width" ∧
    Violation.reassigningVariableToItself.atNode (tupleAssignment attributeItems constantItems)
      "width" ∈ selfAssignments (tupleAssignment attributeItems constantItems).top := by
  have hplain : ∀ item ∈ attributeItems, ¬ item.IsTuple := by
    refine List.forall_mem_cons.mpr ⟨?_, List.forall_mem_singleton.mpr ?_⟩
    · rintro ⟨items, usage, h⟩
      cases h
    · rintro ⟨items, usage, h⟩
      cases h
  have hshared : Node.SharePosition attributeItems constantItems "width" := by decide
  obtain ⟨hfindings, hnames⟩ := selfAssignments_reports_aligned
    (s := (tupleAssignment attributeItems constantItems).top) rfl rfl rfl
  obtain ⟨-, hlined⟩ := hnames "width"
  have hassigned := ((hlined attributeItems_linesUp_constantItems).2 hplain).mpr
    ⟨by decide, hshared⟩
  exact ⟨attributeItems_linesUp_constantItems, hplain, hshared,
    (hfindings _).mpr ⟨"width", rfl, .inl hassigned⟩⟩

/-- The values `width, height`. -/
def shiftedItems : List Node :=
  [nameItem 7 20 "width" .load, nameItem 8 27 "height" .load]

/-- The targets `(width, height), depth`. -/
def nestedItems : List Node :=
  [.mk 4 (some ⟨1, 1⟩) (.tuple
      [nameItem 5 1 "width" .store, nameItem 6 8 "height" .store] (some .store)),
    nameItem 7 17 "depth" .store]

/-- The values `width, other`. -/
def flatItems : List Node :=
  [nameItem 8 25 "width" .load, nameItem 9 32 "other" .load]

/-- **Positions are lost.** A name is reported though it stands at no position of both tuples: an
attribute among the targets moves the names behind it to the front, and a tuple inside of the target
gives its first name to the position of the whole. -/
theorem selfAssignments_loses_positions :
    (attributeItems.length = shiftedItems.length ∧
      selfAssignments (tupleAssignment attributeItems shiftedItems).top =
        [Violation.reassigningVariableToItself.atNode
          (tupleAssignment attributeItems shiftedItems) "width"] ∧
      ¬ Node.SharePosition attributeItems shiftedItems "width") ∧
    nestedItems.length = flatItems.length ∧
      selfAssignments (tupleAssignment nestedItems flatItems).top =
        [Violation.reassigningVariableToItself.atNode
          (tupleAssignment nestedItems flatItems) "width"] ∧
      ¬ Node.SharePosition nestedItems flatItems "width" :=
  ⟨⟨rfl, rfl, by decide⟩, rfl, rfl, by decide⟩

end Stricture
