import Mathlib.Tactic.DeriveTraversable
import Stricture.Proofs.Tree.Order
import Stricture.Tree.Block

/-!
# Replacing a node

Another node in the place of one: its ancestors are built again, each with a new child, and all else
stays as it is (`Site.replace`).

What a rule can see without looking at the children of a node is its face: identity, position, kind
and the identity of its hint. A new node with the old identity leaves the faces of all other nodes
as they were, so a visit differs in one block only (`Program.exists_visit_replace`).
-/

namespace Stricture

deriving instance Functor for Shape

namespace Shape

variable {α β : Type} (f : α → β) (s : Shape α)

theorem children_map : (s.map f).children = s.children.map f := by
  cases s <;>
    simp only [Shape.map, Shape.children, List.map_append, List.map_cons, List.map_nil,
      Option.toList_map, ← filterMap_map_option, Functor.map]

theorem kind_map : (s.map f).kind = s.kind := by
  cases s with
  | functionDef mode | forLoop mode | withBlock mode => cases mode <;> rfl
  | _ => rfl

end Shape

namespace Node

/-- The node with `n` in the place of its child `c`. -/
def withChild (p c n : Node) : Node :=
  .mk p.id p.position (p.shape.map fun d => if d.is c then n else d)

/-- What can be seen of a node without looking at its children. -/
structure Face where
  id : Nat
  position : Option Position
  kind : Kind
  hint : Option Nat

/-- The face of a node. -/
def face (n : Node) : Face :=
  ⟨n.id, n.position, n.kind, n.hint?.map Node.id⟩

variable {p c n : Node}

theorem hint?_withChild :
    (p.withChild c n).hint? = p.hint?.map fun d => if d.is c then n else d := by
  obtain ⟨id, position, shape⟩ := p
  cases shape <;> rfl

/-- Only the identity of a child can be seen. -/
theorem face_withChild (hid : n.id = c.id) : (p.withChild c n).face = p.face := by
  have hhint : (p.withChild c n).hint?.map Node.id = p.hint?.map Node.id := by
    rw [hint?_withChild, Option.map_map]
    refine Option.map_congr fun d _ => ?_
    by_cases hd : d.is c = true
    · rw [Function.comp_apply, if_pos hd, hid]
      exact (beq_iff_eq.mp hd).symm
    · rw [Function.comp_apply, if_neg hd]
  have hkind : (p.withChild c n).kind = p.kind := Shape.kind_map _ _
  rw [face, hhint, hkind]
  rfl

theorem children_withChild {before after : List Node}
    (hchildren : p.children = before ++ c :: after) (hnodup : (p.children.map Node.id).Nodup) :
    (p.withChild c n).children = before ++ n :: after := by
  rw [hchildren, List.map_append, List.map_cons, List.nodup_middle, List.nodup_cons,
    ← List.map_append] at hnodup
  have hkept {part : List Node} (hpart : part ⊆ before ++ after) :
      (part.map fun d => if d.is c then n else d) = part := by
    refine (List.map_congr_left fun d hd => if_neg fun his => ?_).trans (List.map_id' part)
    exact hnodup.1 (List.mem_map.mpr ⟨d, hpart hd, beq_iff_eq.mp his⟩)
  have hself : c.is c = true := beq_self_eq_true c.id
  have hmap : (p.withChild c n).children = p.children.map fun d => if d.is c then n else d :=
    Shape.children_map _ _
  rw [hmap, hchildren, List.map_append, List.map_cons, if_pos hself,
    hkept (List.subset_append_left _ _), hkept (List.subset_append_right _ _)]

end Node

/-! ### Sites -/

/-- The root of the tree that has `n` in the place of `c`, which stands below the given ancestors,
the nearest first. -/
def rebuild : List Node → Node → Node → Node
  | [], _, n => n
  | p :: above, c, n => rebuild above p (p.withChild c n)

namespace Site

/-- The root of the tree that has `n` in the place of the site. -/
def replace (s : Site) (n : Node) : Node :=
  rebuild s.above s.node n

/-- What can be seen of a site without looking at children or further up than to the parent. -/
def face (s : Site) : Node.Face × Option Node.Face :=
  (s.node.face, s.above.head?.map Node.face)

/-- The visits of some nodes below the same ancestors, one after the other. -/
def visits (above nodes : List Node) : List Site :=
  nodes.flatMap fun d => (⟨d, above⟩ : Site).visit

theorem visit_eq_cons (n : Node) (above : List Node) :
    (⟨n, above⟩ : Site).visit = ⟨n, above⟩ :: visits (n :: above) n.children := by
  rw [visit_eq, children, List.flatMap_map]
  rfl

/-- What a visit sees depends on the parent of its top, and only by its face. -/
theorem map_face_visit {n : Node} {above above' : List Node}
    (h : above.head?.map Node.face = above'.head?.map Node.face) :
    (⟨n, above⟩ : Site).visit.map face = (⟨n, above'⟩ : Site).visit.map face := by
  induction n using Node.childInduction generalizing above above' with
  | step n ih =>
    have htop : face ⟨n, above⟩ = face ⟨n, above'⟩ := congrArg (Prod.mk n.face) h
    rw [visit_eq_cons, visit_eq_cons, List.map_cons, List.map_cons, htop, visits, visits,
      List.map_flatMap, List.map_flatMap]
    congr 1
    exact List.flatMap_congr fun c hc => ih c hc rfl

theorem map_face_visits {p p' : Node} (h : p'.face = p.face) (above above' nodes : List Node) :
    (visits (p' :: above') nodes).map face = (visits (p :: above) nodes).map face := by
  rw [visits, visits, List.map_flatMap, List.map_flatMap]
  exact List.flatMap_congr fun d _ => map_face_visit (congrArg some h)

/-- A visit, cut at one of the children. -/
theorem visit_eq_append {n c : Node} {older younger : List Node}
    (hchildren : n.children = older ++ c :: younger) (above : List Node) :
    (⟨n, above⟩ : Site).visit =
      ⟨n, above⟩ :: visits (n :: above) older ++ (⟨c, n :: above⟩ : Site).visit ++
        visits (n :: above) younger := by
  rw [visit_eq_cons, hchildren, visits, List.flatMap_append, List.flatMap_cons]
  simp only [visits, List.cons_append, List.append_assoc]

end Site

namespace Program

variable {q : Program} {s : Site}

theorem nodup_child_ids (hs : s ∈ q.walk) : (s.node.children.map Node.id).Nodup :=
  (nodup_children hs).map_on fun _ hc _ hd =>
    node_eq_of_id_eq (node_mem_walk (under_mem_walk hs hc)) (node_mem_walk (under_mem_walk hs hd))

/-- **A visit after a replacement.** If the new node has the old identity, a visit sees the same as
before outside of the block that belongs to the node. -/
theorem exists_visit_replace (hs : s ∈ q.walk) :
    ∃ before after : List Site, q.sites = before ++ s.visit ++ after ∧
      ∀ n : Node, n.id = s.node.id → ∃ above before' after',
        (s.replace n).top.visit = before' ++ (⟨n, above⟩ : Site).visit ++ after' ∧
        before'.map Site.face = before.map Site.face ∧
        after'.map Site.face = after.map Site.face ∧
        above.head?.map Node.face = s.above.head?.map Node.face := by
  obtain ⟨c, above⟩ := s
  induction above generalizing c with
  | nil =>
    obtain rfl := eq_root_of_above_nil hs
    exact ⟨[], [], (List.append_nil _).symm, fun n _ =>
      ⟨[], [], [], (List.append_nil _).symm, rfl, rfl, rfl⟩⟩
  | cons p above ih =>
    obtain ⟨hp, hc⟩ := parent_mem_walk hs
    obtain ⟨before, after, hsites, hreplaced⟩ := ih p hp
    obtain ⟨older, younger, hchildren⟩ := List.append_of_mem hc
    refine ⟨before ++ (⟨p, above⟩ :: Site.visits (p :: above) older),
      Site.visits (p :: above) younger ++ after, ?_, fun n hn => ?_⟩
    · rw [hsites, Site.visit_eq_append hchildren]
      simp only [List.append_assoc]
    · -- the parent is replaced by one with the same face
      have hface : (p.withChild c n).face = p.face := Node.face_withChild hn
      obtain ⟨above', before', after', hvisit, hbefore, hafter, habove⟩ :=
        hreplaced (p.withChild c n) rfl
      have hchildren' : (p.withChild c n).children = older ++ n :: younger :=
        Node.children_withChild hchildren (nodup_child_ids hp)
      have htop : Site.face ⟨p.withChild c n, above'⟩ = Site.face ⟨p, above⟩ :=
        Prod.ext hface habove
      refine ⟨p.withChild c n :: above',
        before' ++ (⟨p.withChild c n, above'⟩ :: Site.visits (p.withChild c n :: above') older),
        Site.visits (p.withChild c n :: above') younger ++ after', ?_, ?_, ?_,
        congrArg some hface⟩
      · have hsame : (⟨c, p :: above⟩ : Site).replace n =
            (⟨p, above⟩ : Site).replace (p.withChild c n) := rfl
        rw [hsame, hvisit, Site.visit_eq_append hchildren']
        simp only [List.append_assoc]
      · rw [List.map_append, List.map_append, hbefore, List.map_cons, List.map_cons, htop,
          Site.map_face_visits hface]
      · rw [List.map_append, List.map_append, hafter, Site.map_face_visits hface]

end Program

end Stricture
