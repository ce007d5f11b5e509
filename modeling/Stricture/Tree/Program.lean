import Stricture.Tree.Induction
import Stricture.Tree.Settle

/-!
# Programs

A program is a syntax tree whose nodes all have different identities. Correcting positions keeps
every identity, so the corrected tree is a program again.
-/

namespace Stricture

/-! ### Identities in an outline -/

private theorem flatMap_congr_of_mem {α β : Type} {f g : α → List β} {as : List α}
    (h : ∀ a ∈ as, f a = g a) : as.flatMap f = as.flatMap g := by
  induction as with
  | nil => rfl
  | cons a rest ih =>
    rw [List.flatMap_cons, List.flatMap_cons, h a List.mem_cons_self,
      ih fun b hb => h b (List.mem_cons_of_mem a hb)]

theorem branchSites_ids (above : List Node) (branches : List Outline) :
    (branchSites above branches).map (fun s => s.node.id) =
      branches.flatMap fun o => (o.sites above).map fun s => s.node.id := by
  induction branches with
  | nil => rw [branchSites]; rfl
  | cons o rest ih => rw [branchSites, List.map_append, ih]; rfl

/-- The identities below a node: its own, then those of its children in order. What stands above
has no influence. -/
theorem Node.sites_ids (n : Node) (above : List Node) :
    (n.outline.sites above).map (fun s => s.node.id) = n.id :: n.children.flatMap Node.ids := by
  induction n using Node.childInduction generalizing above with
  | step n ih =>
    have inner (above : List Node) :
        n.outline.branches.flatMap (fun o => (o.sites above).map fun s => s.node.id)
          = n.children.flatMap Node.ids := by
      rw [Node.outline_branches, List.flatMap_map]
      refine flatMap_congr_of_mem fun c hc => ?_
      rw [ih c hc, Node.ids, Site.visit, Node.top, ih c hc]
    have top : n.outline.node = n := Node.outline_node n
    cases ho : n.outline with
    | mk node branches =>
      rw [ho] at top inner
      rw [Outline.sites, List.map_cons, branchSites_ids]
      simp only [Outline.node] at top
      simp only [Outline.branches] at inner
      rw [top, inner]

theorem Node.ids_eq (n : Node) : n.ids = n.id :: n.children.flatMap Node.ids :=
  n.sites_ids []

/-! ### Identities after moving -/

theorem listReposition_eq_map (place : Option Position → Node → Option Position)
    (parent : Option Position) (ns : List Node) :
    listReposition place parent ns = ns.map (Node.reposition place parent) := by
  induction ns with
  | nil => rw [listReposition]; rfl
  | cons n rest ih => rw [listReposition, ih]; rfl

theorem optionReposition_eq_map (place : Option Position → Node → Option Position)
    (parent : Option Position) (n : Option Node) :
    optionReposition place parent n = n.map (Node.reposition place parent) := by
  cases n <;> rw [optionReposition] <;> rfl

theorem keyReposition_eq_map (place : Option Position → Node → Option Position)
    (parent : Option Position) (ns : List (Option Node)) :
    keyReposition place parent ns = ns.map (Option.map (Node.reposition place parent)) := by
  induction ns with
  | nil => rw [keyReposition]; rfl
  | cons n rest ih => cases n <;> rw [keyReposition, ih] <;> rfl

theorem filterMap_map_option {α β : Type} (f : α → β) (os : List (Option α)) :
    (os.map (Option.map f)).filterMap id = (os.filterMap id).map f := by
  induction os with
  | nil => rfl
  | cons o rest ih => cases o <;> simpa using ih

theorem shapeReposition_children (place : Option Position → Node → Option Position)
    (parent : Option Position) (s : Shape Node) :
    (shapeReposition place parent s).children = s.children.map (Node.reposition place parent) := by
  cases s <;>
    simp only [shapeReposition, Shape.children, listReposition_eq_map, optionReposition_eq_map,
      keyReposition_eq_map, List.map_cons, List.map_nil, List.map_append, Option.toList_map,
      filterMap_map_option]

theorem Node.reposition_id (place : Option Position → Node → Option Position)
    (parent : Option Position) (n : Node) : (n.reposition place parent).id = n.id := by
  cases n; rw [Node.reposition]; rfl

theorem Node.reposition_children (place : Option Position → Node → Option Position)
    (parent : Option Position) (n : Node) :
    (n.reposition place parent).children =
      n.children.map (Node.reposition place (place parent n)) := by
  cases n with
  | mk id position shape =>
    rw [Node.reposition, Node.children, Node.shape, shapeReposition_children]; rfl

/-- Moving keeps every identity in its place. -/
theorem Node.reposition_ids (place : Option Position → Node → Option Position)
    (parent : Option Position) (n : Node) : (n.reposition place parent).ids = n.ids := by
  induction n using Node.childInduction generalizing parent with
  | step n ih =>
    rw [Node.ids_eq, Node.ids_eq n, Node.reposition_id, Node.reposition_children, List.flatMap_map]
    congr 1
    exact flatMap_congr_of_mem fun c hc => ih c hc _

theorem Node.settle_ids (n : Node) : n.settle.ids = n.ids := by
  rw [Node.settle, Node.settleLines, Node.settleColumns, Node.reposition_ids, Node.reposition_ids]

/-! ### Programs -/

/-- A syntax tree whose nodes can be told apart. -/
structure Program where
  root : Node
  distinct : root.ids.Nodup

namespace Program

/-- The program with the given tree, if no two of its nodes share an identity. -/
def ofRoot? (root : Node) : Option Program :=
  if h : root.ids.Nodup then some ⟨root, h⟩ else none

/-- The program with its positions corrected. -/
def settle (p : Program) : Program :=
  ⟨p.root.settle, p.root.settle_ids ▸ p.distinct⟩

/-- All sites in visiting order: every parent before its children. -/
def sites (p : Program) : List Site :=
  p.root.top.visit

/-- All sites level by level. The place of a node in this list is its number. -/
def walk (p : Program) : List Site :=
  p.root.top.walk

/-- Why positions cannot be corrected: a node that may have to move has no position. -/
inductive SettleError where
  | asyncStatement (kind : Kind)
  | tuple

/-- The message for positions that cannot be corrected. -/
def SettleError.message : SettleError → String
  | asyncStatement kind => "'" ++ kind.title ++ "' object has no attribute 'col_offset'"
  | tuple => "'" ++ Kind.tuple.title ++ "' object has no attribute 'lineno'"

/-- An asynchronous statement without a position. -/
def SettleError.ofStatement? (s : Site) : Option SettleError :=
  if s.node.isAsync && s.node.position.isNone then some (.asyncStatement s.node.kind) else none

/-- A tuple without a position, whose parent has one. -/
def SettleError.ofTuple? (s : Site) : Option SettleError :=
  let parentLine := s.parent?.bind fun p => p.node.line?
  if s.node.kind = .tuple ∧ s.node.position.isNone ∧ parentLine.any (· ≠ 0) then some .tuple
  else none

/-- The first error in correcting the positions: statements are corrected before tuples. -/
def settleError? (p : Program) : Option SettleError :=
  p.walk.findSome? SettleError.ofStatement? <|> p.settle.walk.findSome? SettleError.ofTuple?

/-- The number of a node. -/
def number? (p : Program) (n : Node) : Option Nat :=
  p.walk.findIdx? fun s => s.node.is n

/-- The site with a number. -/
def site? (p : Program) (number : Nat) : Option Site :=
  p.walk[number]?

end Program

end Stricture
