import Stricture.Proofs.Tree.Ancestry

/-!
# Trees with their attachments

Nodes are not all that a walk comes across: a usage or an operator is an object too, below the node
on which it hangs. Objects have identities. Those of nodes differ, but nothing keeps two nodes from
holding the same usage or the same operator, and trees that come from a parser do share them: there
is one object of each sort. A `Numbering` says which object is held at which place, so whatever
holds for every numbering holds however attachments are shared.

* `Part.HasPart`, `Part.StandsAbove`: what an object holds, and what is below it.
* `partWalk`: the walk over all objects, with a queue. An object that is held at several places
  comes up several times.
* `filterMap_node?_partWalk`: without the attachments, this is the walk over the nodes.
-/

namespace Stricture

/-- Numbers for attachments, by the identity of the node and the place among all that it holds. -/
abbrev Numbering := Nat → Nat → Nat

/-- One object for each sort of attachment. -/
def Numbering.shared : Numbering :=
  fun _ _ => 0

/-- An object in a tree: a node, or an attachment with its number. -/
inductive Part where
  | node (n : Node)
  | attachment (sort : Attachment) (number : Nat)

namespace Part

/-- The node, if the object is one. -/
def node? : Part → Option Node
  | node n => some n
  | attachment .. => none

/-- Both are the same object. -/
def is : Part → Part → Bool
  | node m, node n => m.is n
  | attachment sort number, attachment sort' number' => sort == sort' && number == number'
  | _, _ => false

/-- The object at a place. -/
def ofPiece (numbering : Numbering) (holder place : Nat) : Node ⊕ Attachment → Part
  | .inl n => node n
  | .inr sort => attachment sort (numbering holder place)

/-- All that an object holds, in reading order. -/
def parts (numbering : Numbering) : Part → List Part
  | node n => n.shape.pieces.mapIdx (ofPiece numbering n.id)
  | attachment .. => []

/-- `p` holds `c`. -/
def HasPart (numbering : Numbering) (p c : Part) : Prop :=
  c ∈ p.parts numbering

/-- `p` stands above `c`: a chain of objects leads down from `p` to `c`. -/
def StandsAbove (numbering : Numbering) (p c : Part) : Prop :=
  Relation.TransGen (HasPart numbering) p c

variable {numbering : Numbering} {p c : Part} {m n : Node}

@[simp]
theorem node?_eq_some_iff : p.node? = some n ↔ p = node n := by
  cases p <;> simp [node?]

/-! ### Nodes among the parts -/

private theorem filterMap_mapIdx {α β γ : Type} {f : Nat → α → β} {g : β → Option γ}
    {h : α → Option γ} (hfg : ∀ i a, g (f i a) = h a) (as : List α) :
    (as.mapIdx f).filterMap g = as.filterMap h := by
  induction as generalizing f with
  | nil => rfl
  | cons a rest ih =>
    rw [List.mapIdx_cons, List.filterMap_cons, List.filterMap_cons, hfg,
      ih fun i b => hfg (i + 1) b]

/-- The nodes that a node holds are its children. -/
theorem filterMap_node?_parts (numbering : Numbering) (n : Node) :
    ((node n).parts numbering).filterMap node? = n.children := by
  have hpiece (place : Nat) (piece : Node ⊕ Attachment) :
      (ofPiece numbering n.id place piece).node? = piece.getLeft? := by
    cases piece <;> rfl
  rw [parts, filterMap_mapIdx hpiece, Shape.filterMap_getLeft?_pieces]
  rfl

theorem hasPart_node_iff : (node m).HasPart numbering (node n) ↔ n ∈ m.children := by
  rw [← filterMap_node?_parts numbering m, List.mem_filterMap]
  simp [HasPart]

/-- Only nodes hold anything. -/
theorem HasPart.exists_node (h : p.HasPart numbering c) : ∃ m, p = node m := by
  cases p with
  | node m => exact ⟨m, rfl⟩
  | attachment => exact absurd h List.not_mem_nil

/-- What stands above an object is a node, from which a chain of children leads to the holder. -/
theorem standsAbove_iff : p.StandsAbove numbering c ↔
    ∃ a m : Node, p = node a ∧ Relation.ReflTransGen Node.HasChild a m ∧
      (node m).HasPart numbering c := by
  constructor
  · intro h
    induction h with
    | single hc =>
      obtain ⟨m, rfl⟩ := hc.exists_node
      exact ⟨m, m, rfl, .refl, hc⟩
    | tail _ hc ih =>
      obtain ⟨k, rfl⟩ := hc.exists_node
      obtain ⟨a, m, rfl, ham, hk⟩ := ih
      exact ⟨a, k, rfl, ham.tail (hasPart_node_iff.mp hk), hc⟩
  · rintro ⟨a, m, rfl, ham, hc⟩
    exact .tail' (ham.lift node fun _ _ h => hasPart_node_iff.mpr h) hc

/-- Among nodes, what stands above is what it is without attachments. -/
theorem standsAbove_node_iff :
    (node m).StandsAbove numbering (node n) ↔ m.StandsAbove n := by
  rw [standsAbove_iff, Node.StandsAbove, Relation.TransGen.tail'_iff]
  constructor
  · rintro ⟨a, k, ha, hak, hk⟩
    cases ha
    exact ⟨k, hak, hasPart_node_iff.mp hk⟩
  · rintro ⟨k, hmk, hk⟩
    exact ⟨m, k, rfl, hmk, hasPart_node_iff.mpr hk⟩

theorem StandsAbove.exists_node (h : p.StandsAbove numbering c) : ∃ a, p = node a := by
  obtain ⟨a, -, ha, -⟩ := standsAbove_iff.mp h
  exact ⟨a, ha⟩

theorem not_standsAbove_self (p : Part) : ¬ p.StandsAbove numbering p := by
  intro h
  obtain ⟨n, rfl⟩ := h.exists_node
  exact n.not_standsAbove_self (standsAbove_node_iff.mp h)

end Part

/-! ### The walk -/

/-- The objects in a tree, counted once for each place. -/
def Node.partCount (n : Node) : Nat :=
  1 + n.shape.pieces.length + totalOf (fun c => c.1.partCount) n.children.attach
termination_by sizeOf n
decreasing_by exact Node.sizeOf_lt_of_mem_children c.2

theorem Node.partCount_eq (n : Node) :
    n.partCount = 1 + n.shape.pieces.length + totalOf Node.partCount n.children := by
  rw [Node.partCount, totalOf, totalOf,
    List.foldr_attach (f := fun (c : Node) total => c.partCount + total)]

namespace Part

/-- The objects at and below an object, counted once for each place. -/
def count : Part → Nat
  | node n => n.partCount
  | attachment .. => 1

theorem totalOf_count_le (ps : List Part) :
    totalOf count ps ≤ totalOf Node.partCount (ps.filterMap node?) + ps.length := by
  induction ps with
  | nil => simp [totalOf]
  | cons p rest ih =>
    cases p <;> simp only [totalOf, List.foldr_cons, List.filterMap_cons, node?, count,
      List.length_cons] at ih ⊢ <;> omega

/-- What an object holds is less than the object. -/
theorem totalOf_count_parts_lt (numbering : Numbering) (p : Part) :
    totalOf count (p.parts numbering) < p.count := by
  cases p with
  | node n =>
    have hle := totalOf_count_le ((node n).parts numbering)
    have hlength : ((node n).parts numbering).length = n.shape.pieces.length := by
      rw [parts, List.length_mapIdx]
    rw [filterMap_node?_parts, hlength] at hle
    rw [count, Node.partCount_eq]
    omega
  | attachment => exact Nat.zero_lt_one

end Part

/-- Takes the first object of the queue and sends what it holds to the end, until nothing waits. -/
def partWalk (numbering : Numbering) : List Part → List Part
  | [] => []
  | p :: queue => p :: partWalk numbering (queue ++ p.parts numbering)
termination_by queue => totalOf Part.count queue
decreasing_by
  have hparts := Part.totalOf_count_parts_lt numbering p
  have hcons : totalOf Part.count (p :: queue) = p.count + totalOf Part.count queue := rfl
  rw [totalOf_append, hcons]
  omega

section Walk

variable {numbering : Numbering}

/-- The walk comes to everything to which a chain of objects leads. -/
theorem mem_partWalk_iff {queue : List Part} {c : Part} :
    c ∈ partWalk numbering queue ↔
      ∃ p ∈ queue, Relation.ReflTransGen (Part.HasPart numbering) p c := by
  fun_induction partWalk numbering queue with
  | case1 => simp
  | case2 p queue ih =>
    rw [List.mem_cons, ih]
    constructor
    · rintro (rfl | ⟨k, hk, hkc⟩)
      · exact ⟨c, List.mem_cons_self, .refl⟩
      · rcases List.mem_append.mp hk with hk | hk
        · exact ⟨k, List.mem_cons_of_mem p hk, hkc⟩
        · exact ⟨p, List.mem_cons_self, .head hk hkc⟩
    · rintro ⟨k, hk, hkc⟩
      rcases List.mem_cons.mp hk with rfl | hk
      · rcases hkc.cases_head with rfl | ⟨l, hl, hlc⟩
        · exact .inl rfl
        · exact .inr ⟨l, List.mem_append_right queue hl, hlc⟩
      · exact .inr ⟨k, List.mem_append_left _ hk, hkc⟩

theorem mem_partWalk_singleton_iff {p c : Part} :
    c ∈ partWalk numbering [p] ↔ c = p ∨ p.StandsAbove numbering c := by
  rw [mem_partWalk_iff, Part.StandsAbove, ← Relation.reflTransGen_iff_eq_or_transGen]
  simp

/-- **Attachments do not change the order of the nodes**: they wait in the queue like the nodes, and
send nothing to its end. -/
theorem filterMap_node?_partWalk (queue : List Part) (sites : List Site)
    (h : queue.filterMap Part.node? = sites.map Site.node) :
    (partWalk numbering queue).filterMap Part.node? = (queueWalk sites).map Site.node := by
  fun_induction partWalk numbering queue generalizing sites with
  | case1 =>
    obtain rfl : sites = [] := List.map_eq_nil_iff.mp h.symm
    rw [queueWalk_nil]; rfl
  | case2 p queue ih =>
    cases p with
    | attachment sort number =>
      refine ih sites ?_
      rwa [Part.parts, List.append_nil]
    | node n =>
      cases sites with
      | nil => simp [Part.node?] at h
      | cons s rest =>
        simp only [List.filterMap_cons, Part.node?, List.map_cons, List.cons.injEq] at h
        obtain ⟨rfl, hrest⟩ := h
        have hnext : (queue ++ (Part.node s.node).parts numbering).filterMap Part.node? =
            (rest ++ s.children).map Site.node := by
          rw [List.filterMap_append, Part.filterMap_node?_parts, hrest, List.map_append,
            Site.children, List.map_map]
          congr 1
          exact (List.map_id _).symm
        rw [queueWalk_cons, List.map_cons, List.filterMap_cons, ih _ hnext]
        rfl

end Walk

end Stricture
