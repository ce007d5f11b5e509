import Mathlib.Data.Set.Card
import Stricture.Proofs.Place.Located
import Stricture.Proofs.Tree.Order

/-!
# Chains of branches

A branch whose other case is made of branches only goes on with them. So branches form chains, and
the check for long ones collects them while the program is visited: every branch that goes on is
entered, with those that continue it, into the chain that knows it already, or else begins a new
one. Some branches are entered twice, and branches of different chains are visited in turn.

Still a chain ends up with what its first branch reaches by going on (`Node.laterBranches`). A
branch continues one branch at most, so it is reached from one beginning only
(`Program.StartsChain.eq_of_reaches`), and whatever it continues was visited before it.
-/

namespace Stricture

open Rules

namespace Node

/-- A branch whose other case is made of branches only, or is missing. -/
def LeadsOn (n : Node) : Prop :=
  n.kind = .branch ∧ ∀ m ∈ n.orelse, m.kind = .branch

/-- The branch `n` goes on with `m`. -/
def GoesOnWith (n m : Node) : Prop :=
  n.LeadsOn ∧ m ∈ n.orelse

/-- `m` is `n`, or is reached from `n` by going on from branch to branch. -/
def Reaches (n m : Node) : Prop :=
  Relation.ReflTransGen GoesOnWith n m

/-- The branches other than `r` that are reached from `r`. -/
def laterBranches (r : Node) : Set Node :=
  {m | m ≠ r ∧ r.Reaches m}

variable {n m : Node}

theorem GoesOnWith.mem_children (h : n.GoesOnWith m) : m ∈ n.children :=
  mem_children_of_mem_orelse h.2

theorem GoesOnWith.kind_eq (h : n.GoesOnWith m) : m.kind = .branch :=
  h.1.2 m h.2

/-- A chain of branches is a chain of children. -/
theorem Reaches.reflTransGen (h : n.Reaches m) : Relation.ReflTransGen HasChild n m := by
  have hle : GoesOnWith ≤ HasChild := fun _ _ hgo => hgo.mem_children
  exact Relation.ReflTransGen.mono hle n m h

theorem Reaches.mem_walk (h : n.Reaches m) : m ∈ n.walk :=
  mem_walk_iff.mpr h.reflTransGen

theorem Reaches.leadsOn_of_ne (h : n.Reaches m) (hne : m ≠ n) : n.LeadsOn := by
  rcases h.cases_head with rfl | ⟨k, hk, -⟩
  · exact absurd rfl hne
  · exact hk.1

/-- The later branches are those that continue a branch that is reached. -/
theorem mem_laterBranches_iff {r : Node} :
    m ∈ r.laterBranches ↔ ∃ n, r.Reaches n ∧ n.GoesOnWith m := by
  constructor
  · rintro ⟨hne, hreach⟩
    rcases hreach.cases_tail with rfl | ⟨n, hn, hnm⟩
    · exact absurd rfl hne
    · exact ⟨n, hn, hnm⟩
  · rintro ⟨n, hn, hnm⟩
    refine ⟨?_, hn.tail hnm⟩
    rintro rfl
    exact not_standsAbove_self m (.tail' hn.reflTransGen hnm.mem_children)

theorem laterBranches_finite (r : Node) : r.laterBranches.Finite :=
  r.walk.finite_toSet.subset fun _ hm => hm.2.mem_walk

theorem leadsOn_of_ncard_pos {r : Node} (h : 0 < r.laterBranches.ncard) : r.LeadsOn := by
  obtain ⟨m, hne, hreach⟩ := (Set.ncard_pos r.laterBranches_finite).mp h
  exact hreach.leadsOn_of_ne hne

end Node

/-! ### Beginnings of chains -/

/-- A branch that begins a chain: no branch of the program goes on with it. -/
def Program.StartsChain (q : Program) (r : Node) : Prop :=
  r.kind = .branch ∧ ∀ n ∈ q.root.walk, ¬ n.GoesOnWith r

namespace Program

variable {q : Program} {s t : Site} {n n' m r r' : Node}

/-- A branch continues one branch at most. -/
theorem eq_of_goesOnWith (hn : n ∈ q.root.walk) (hn' : n' ∈ q.root.walk) (h : n.GoesOnWith m)
    (h' : n'.GoesOnWith m) : n = n' := by
  have hm : m ∈ q.root.walk := by
    rw [Node.mem_walk_iff] at hn ⊢
    exact hn.tail h.mem_children
  obtain ⟨s, hs, rfl⟩ := exists_site hm
  have hparent := (parent?_eq_some_iff hs).mpr ⟨hn, h.mem_children⟩
  have hparent' := (parent?_eq_some_iff hs).mpr ⟨hn', h'.mem_children⟩
  exact Option.some.inj (hparent.symm.trans hparent')

theorem mem_walk_of_reaches (hn : n ∈ q.root.walk) (h : n.Reaches m) : m ∈ q.root.walk :=
  mem_walk_of_mem_walk hn h.mem_walk

/-- A branch is reached from one beginning only. -/
theorem StartsChain.eq_of_reaches (hr : q.StartsChain r) (hr' : q.StartsChain r')
    (hwalk : r ∈ q.root.walk) (hwalk' : r' ∈ q.root.walk) (h : r.Reaches m) (h' : r'.Reaches m) :
    r = r' := by
  induction h with
  | refl =>
    rcases h'.cases_tail with rfl | ⟨k, hk, hgo⟩
    · rfl
    · exact absurd hgo (hr.2 k (mem_walk_of_reaches hwalk' hk))
  | @tail n m hn hgo ih =>
    rcases h'.cases_tail with rfl | ⟨k, hk, hgo'⟩
    · exact absurd hgo (hr'.2 n (mem_walk_of_reaches hwalk hn))
    · have hkn : k = n := eq_of_goesOnWith (mem_walk_of_reaches hwalk' hk)
        (mem_walk_of_reaches hwalk hn) hgo' hgo
      exact ih (hkn ▸ hk)

/-- Every branch is reached from a beginning. -/
theorem exists_startsChain (hs : s ∈ q.walk) (hkind : s.node.kind = .branch) :
    ∃ r ∈ q.root.walk, q.StartsChain r ∧ r.Reaches s.node := by
  -- going back from branch to branch leads to the ancestors
  obtain ⟨n, above⟩ := s
  induction above generalizing n with
  | nil =>
    refine ⟨n, node_mem_walk hs, ⟨hkind, fun k hk hgo => ?_⟩, .refl⟩
    have hparent := (parent?_eq_some_iff hs).mpr ⟨hk, hgo.mem_children⟩
    cases hparent
  | cons p rest ih =>
    by_cases hgo : p.GoesOnWith n
    · obtain ⟨r, hr, hstart, hreach⟩ := ih p (parent_mem_walk hs).1 hgo.1.1
      exact ⟨r, hr, hstart, hreach.tail hgo⟩
    · refine ⟨n, node_mem_walk hs, ⟨hkind, fun k hk hk' => ?_⟩, .refl⟩
      have hparent := (parent?_eq_some_iff hs).mpr ⟨hk, hk'.mem_children⟩
      obtain rfl : p = k := Option.some.inj hparent
      exact hgo hk'

end Program

/-! ### What the chains hold -/

open Classical in
/-- What is known after the sites that are behind: the beginnings that lead on, in the order of
their visits, each with the branches that continue what is reached from it. -/
structure ChainsRecord (q : Program) (past : List Site) (chains : BranchChains) : Prop where
  roots : chains.map Prod.fst =
    (past.filter fun s => q.StartsChain s.node ∧ s.node.LeadsOn).map Site.node
  members : ∀ chain ∈ chains, ∀ m,
    m ∈ chain.2 ↔ ∃ t ∈ past, chain.1.Reaches t.node ∧ t.node.GoesOnWith m

namespace ChainsRecord

variable {q : Program} {past rest : List Site} {s : Site} {chains : BranchChains}
  {chain : Node × List Node}

/-- A chain begins at a site that is behind. -/
theorem exists_root (h : ChainsRecord q past chains) (hchain : chain ∈ chains) :
    ∃ t ∈ past, t.node = chain.1 ∧ q.StartsChain chain.1 := by
  classical
  have hmem : chain.1 ∈ chains.map Prod.fst := List.mem_map_of_mem hchain
  rw [h.roots] at hmem
  obtain ⟨t, ht, hnode⟩ := List.mem_map.mp hmem
  obtain ⟨hpast, htest⟩ := List.mem_filter.mp ht
  exact ⟨t, hpast, hnode, hnode ▸ (of_decide_eq_true htest).1⟩

theorem root_mem_walk (h : ChainsRecord q past chains) (hpast : ∀ t ∈ past, t ∈ q.walk)
    (hchain : chain ∈ chains) : chain.1 ∈ q.root.walk := by
  obtain ⟨t, ht, hnode, -⟩ := h.exists_root hchain
  exact hnode ▸ Program.node_mem_walk (hpast t ht)

/-- Whether a chain knows a branch is decided by identities. -/
theorem any_is_iff (h : ChainsRecord q past chains) (hpast : ∀ t ∈ past, t ∈ q.walk)
    (hs : s ∈ q.walk) (hchain : chain ∈ chains) :
    chain.2.any s.node.is = true ↔
      ∃ t ∈ past, chain.1.Reaches t.node ∧ t.node.GoesOnWith s.node := by
  rw [← h.members chain hchain, List.any_eq_true]
  constructor
  · rintro ⟨m, hm, hid⟩
    obtain ⟨t, ht, -, hgo⟩ := (h.members chain hchain m).mp hm
    have hwalk : m ∈ q.root.walk :=
      Program.node_mem_walk (Program.under_mem_walk (hpast t ht) hgo.mem_children)
    rwa [Program.node_eq_of_id_eq (Program.node_mem_walk hs) hwalk (Node.is_iff.mp hid)]
  · intro hm
    exact ⟨s.node, hm, Node.is_iff.mpr rfl⟩

end ChainsRecord

theorem Node.leadsOn_iff {n : Node} :
    n.LeadsOn ↔ n.kind = .branch ∧ n.orelse.all (fun m => m.kind == .branch) = true := by
  rw [LeadsOn, List.all_eq_true]
  exact and_congr_right fun _ => forall₂_congr fun _ _ => beq_iff_eq.symm

/-! ### One more site -/

section Step

variable {q : Program} {past rest : List Site} {s : Site} {chains : BranchChains}

/-- What reaches the site at hand stands at it or behind it. -/
theorem mem_past_of_reaches (hq : q.sites = past ++ s :: rest) {t : Site} (ht : t ∈ q.walk)
    (h : t.node.Reaches s.node) (hne : t.node ≠ s.node) : t ∈ past := by
  have habove : t.node.StandsAbove s.node :=
    (Relation.reflTransGen_iff_eq_or_transGen.mp h.reflTransGen).resolve_left (Ne.symm hne)
  rw [← Program.precedes_iff_mem hq]
  exact Program.precedes_of_standsAbove (Program.mem_walk_iff_mem_sites.mp ht)
    (Program.mem_walk_iff_mem_sites.mp (Program.mem_walk_of_sites_eq hq)) habove

/-- The site at hand reaches nothing that is behind. -/
theorem not_reaches_of_mem_past (hq : q.sites = past ++ s :: rest) {t : Site} (ht : t ∈ past) :
    ¬ s.node.Reaches t.node := by
  intro h
  have hs := Program.mem_walk_of_sites_eq hq
  have habove : s.node.StandsAbove t.node :=
    (Relation.reflTransGen_iff_eq_or_transGen.mp h.reflTransGen).resolve_left
      (Program.node_ne_of_mem_past hq ht)
  have hst := Program.precedes_of_standsAbove (Program.mem_walk_iff_mem_sites.mp hs)
    (Program.mem_walk_iff_mem_sites.mp (Program.mem_walk_of_mem_past hq ht)) habove
  exact Program.not_precedes_self q s (hst.trans ((Program.precedes_iff_mem hq).mpr ht))

/-- What one more site adds to the branches that continue a chain. -/
theorem exists_continued_append_iff {r m : Node} :
    (∃ t ∈ past ++ [s], r.Reaches t.node ∧ t.node.GoesOnWith m) ↔
      (∃ t ∈ past, r.Reaches t.node ∧ t.node.GoesOnWith m) ∨
        r.Reaches s.node ∧ s.node.GoesOnWith m := by
  simp only [List.mem_append, List.mem_singleton, or_and_right, exists_or, exists_eq_left]

namespace ChainsRecord

/-- A chain that does not reach the site at hand has all its members already. -/
theorem members_of_not_reaches (h : ChainsRecord q past chains) {chain : Node × List Node}
    (hchain : chain ∈ chains) (hs : ¬ chain.1.Reaches s.node) (m : Node) :
    m ∈ chain.2 ↔ ∃ t ∈ past ++ [s], chain.1.Reaches t.node ∧ t.node.GoesOnWith m := by
  rw [h.members chain hchain, exists_continued_append_iff, or_iff_left (mt And.left hs)]

/-- A site that does not lead on changes nothing. -/
theorem skip (h : ChainsRecord q past chains) (hlead : ¬ s.node.LeadsOn) :
    ChainsRecord q (past ++ [s]) (chains.step s.node) := by
  have hstep : chains.step s.node = chains := if_neg (mt Node.leadsOn_iff.mpr hlead)
  rw [hstep]
  constructor
  · simp [h.roots, hlead]
  · intro chain hchain m
    rw [h.members chain hchain, exists_continued_append_iff,
      or_iff_left fun hgo => hlead hgo.2.1]

/-- No chain knows a branch that begins one. -/
theorem rootOf_start (h : ChainsRecord q past chains) (hq : q.sites = past ++ s :: rest)
    (hstart : q.StartsChain s.node) : chains.rootOf s.node = s.node := by
  have hnone : (chains.find? fun chain => chain.2.any s.node.is) = none := by
    -- a chain would know it from a branch that goes on with it
    rw [List.find?_eq_none]
    intro chain hchain hany
    obtain ⟨t, ht, -, hgo⟩ := (h.any_is_iff (fun _ => Program.mem_walk_of_mem_past hq)
      (Program.mem_walk_of_sites_eq hq) hchain).mp hany
    exact hstart.2 t.node (Program.node_mem_walk (Program.mem_walk_of_mem_past hq ht)) hgo
  rw [BranchChains.rootOf, hnone]
  rfl

/-- The site at hand has begun no chain yet. -/
theorem root_ne (h : ChainsRecord q past chains) (hq : q.sites = past ++ s :: rest)
    {chain : Node × List Node} (hchain : chain ∈ chains) : chain.1 ≠ s.node := by
  obtain ⟨t, ht, hnode, -⟩ := h.exists_root hchain
  exact hnode ▸ Program.node_ne_of_mem_past hq ht

/-- A branch that begins a chain is added with what continues it. -/
theorem step_start (h : ChainsRecord q past chains) (hq : q.sites = past ++ s :: rest)
    (hlead : s.node.LeadsOn) (hstart : q.StartsChain s.node) :
    chains.step s.node = chains ++ [(s.node, s.node.orelse)] := by
  have hnew : ¬ (chains.any fun chain => chain.1.is s.node) = true := by
    rw [List.any_eq_true]
    rintro ⟨chain, hchain, hid⟩
    exact h.root_ne hq hchain (Program.node_eq_of_id_eq
      (h.root_mem_walk (fun _ => Program.mem_walk_of_mem_past hq) hchain)
      (Program.node_mem_walk (Program.mem_walk_of_sites_eq hq)) (Node.is_iff.mp hid))
  rw [BranchChains.step, if_pos (Node.leadsOn_iff.mp hlead), h.rootOf_start hq hstart,
    BranchChains.add, if_neg hnew, if_pos (Node.is_iff.mpr rfl)]
  rfl

theorem start (h : ChainsRecord q past chains) (hq : q.sites = past ++ s :: rest)
    (hlead : s.node.LeadsOn) (hstart : q.StartsChain s.node) :
    ChainsRecord q (past ++ [s]) (chains.step s.node) := by
  rw [h.step_start hq hlead hstart]
  constructor
  · simp [h.roots, hlead, hstart]
  · intro chain hchain m
    rcases List.mem_append.mp hchain with hold | hnew
    · -- an older chain cannot reach a beginning
      refine h.members_of_not_reaches hold (fun hreach => h.root_ne hq hold ?_) m
      obtain ⟨-, -, -, hroot⟩ := h.exists_root hold
      have hwalk := h.root_mem_walk (fun _ => Program.mem_walk_of_mem_past hq) hold
      exact hroot.eq_of_reaches hstart hwalk
        (Program.node_mem_walk (Program.mem_walk_of_sites_eq hq)) hreach .refl
    · -- whatever the new beginning reaches is still ahead
      obtain rfl := List.mem_singleton.mp hnew
      have hbehind : ¬ ∃ t ∈ past, s.node.Reaches t.node ∧ t.node.GoesOnWith m :=
        fun ⟨_, ht, hreach, _⟩ => not_reaches_of_mem_past hq ht hreach
      rw [exists_continued_append_iff, or_iff_right hbehind]
      exact ⟨fun hm => ⟨.refl, hlead, hm⟩, fun hm => hm.2.2⟩

section Extend

variable {r : Node}

/-- The chain of a beginning that reaches the site at hand from behind. It knows that site. -/
theorem exists_chain (h : ChainsRecord q past chains) (hq : q.sites = past ++ s :: rest)
    (hr : r ∈ q.root.walk) (hstart : q.StartsChain r) (hreach : r.Reaches s.node)
    (hne : r ≠ s.node) : ∃ chain ∈ chains, chain.1 = r ∧ s.node ∈ chain.2 := by
  classical
  obtain ⟨t, ht, rfl⟩ := Program.exists_site hr
  have hroot : t.node ∈ chains.map Prod.fst := by
    rw [h.roots]
    have htest : q.StartsChain t.node ∧ t.node.LeadsOn := ⟨hstart, hreach.leadsOn_of_ne hne.symm⟩
    exact List.mem_map_of_mem
      (List.mem_filter.mpr ⟨mem_past_of_reaches hq ht hreach hne, decide_eq_true htest⟩)
  obtain ⟨chain, hchain, hfst⟩ := List.mem_map.mp hroot
  refine ⟨chain, hchain, hfst, (h.members chain hchain s.node).mpr ?_⟩
  -- the branch that goes on with the site at hand stands above it, so it is behind as well
  rcases hreach.cases_tail with heq | ⟨k, hk, hgo⟩
  · exact absurd heq.symm hne
  · obtain ⟨u, hu, rfl⟩ := Program.exists_site (Program.mem_walk_of_reaches hr hk)
    have hus : u.node ≠ s.node := fun heq =>
      Node.not_standsAbove_self s.node (.single (heq ▸ hgo.mem_children))
    exact ⟨u, mem_past_of_reaches hq hu (.single hgo) hus, hfst ▸ hk, hgo⟩

theorem rootOf_extend (h : ChainsRecord q past chains) (hq : q.sites = past ++ s :: rest)
    (hr : r ∈ q.root.walk) (hstart : q.StartsChain r) (hreach : r.Reaches s.node)
    (hne : r ≠ s.node) : chains.rootOf s.node = r := by
  obtain ⟨known, hknown, -, hmem⟩ := h.exists_chain hq hr hstart hreach hne
  have hany : known.2.any s.node.is = true :=
    List.any_eq_true.mpr ⟨s.node, hmem, Node.is_iff.mpr rfl⟩
  have hsome : (chains.find? fun chain => chain.2.any s.node.is).isSome = true :=
    List.find?_isSome.mpr ⟨known, hknown, hany⟩
  obtain ⟨chain, hfind⟩ := Option.isSome_iff_exists.mp hsome
  -- the first chain that knows the site reaches it, so it is that of the same beginning
  have hchain := List.mem_of_find?_eq_some hfind
  have hpast : ∀ t ∈ past, t ∈ q.walk := fun _ => Program.mem_walk_of_mem_past hq
  have hknows : chain.2.any s.node.is = true := by simpa using List.find?_some hfind
  obtain ⟨t, -, ht, hgo⟩ := (h.any_is_iff hpast (Program.mem_walk_of_sites_eq hq) hchain).mp hknows
  obtain ⟨-, -, -, hroot⟩ := h.exists_root hchain
  rw [BranchChains.rootOf, hfind]
  exact hroot.eq_of_reaches hstart (h.root_mem_walk hpast hchain) hr (ht.tail hgo) hreach

/-- A branch that continues one is entered, with what continues it in turn, into the chain of the
beginning that reaches it. -/
theorem step_extend (h : ChainsRecord q past chains) (hq : q.sites = past ++ s :: rest)
    (hlead : s.node.LeadsOn) (hr : r ∈ q.root.walk) (hstart : q.StartsChain r)
    (hreach : r.Reaches s.node) (hne : r ≠ s.node) :
    chains.step s.node = chains.map fun chain =>
      if chain.1.is r then (chain.1, chain.2 ++ s.node :: s.node.orelse) else chain := by
  have hknown : (chains.any fun chain => chain.1.is r) = true := by
    obtain ⟨chain, hchain, hfst, -⟩ := h.exists_chain hq hr hstart hreach hne
    exact List.any_eq_true.mpr ⟨chain, hchain, Node.is_iff.mpr (congrArg Node.id hfst)⟩
  have hother : ¬ s.node.is r = true := fun hid => hne
    (Program.node_eq_of_id_eq hr (Program.node_mem_walk (Program.mem_walk_of_sites_eq hq))
      (Node.is_iff.mp hid).symm)
  rw [BranchChains.step, if_pos (Node.leadsOn_iff.mp hlead),
    h.rootOf_extend hq hr hstart hreach hne, BranchChains.add, if_pos hknown, if_neg hother]
  rfl

theorem extend (h : ChainsRecord q past chains) (hq : q.sites = past ++ s :: rest)
    (hlead : s.node.LeadsOn) (hnot : ¬ q.StartsChain s.node) :
    ChainsRecord q (past ++ [s]) (chains.step s.node) := by
  have hs := Program.mem_walk_of_sites_eq hq
  obtain ⟨r, hr, hstart, hreach⟩ := Program.exists_startsChain hs hlead.1
  have hne : r ≠ s.node := fun heq => hnot (heq ▸ hstart)
  rw [h.step_extend hq hlead hr hstart hreach hne]
  constructor
  · have hfst : ∀ chain : Node × List Node,
        (if chain.1.is r then (chain.1, chain.2 ++ s.node :: s.node.orelse) else chain).1 =
          chain.1 := fun chain => by split <;> rfl
    simp [h.roots, hnot, hfst, Function.comp_def]
  · intro chain' hchain' m
    obtain ⟨chain, hchain, rfl⟩ := List.mem_map.mp hchain'
    have hwalk := h.root_mem_walk (fun _ => Program.mem_walk_of_mem_past hq) hchain
    by_cases hid : chain.1.is r = true
    · obtain rfl : chain.1 = r := Program.node_eq_of_id_eq hwalk hr (Node.is_iff.mp hid)
      -- the site itself is a member already, from the branch that goes on with it
      have hself : s.node ∈ chain.2 := by
        obtain ⟨known, hknown, hfst, hmem⟩ := h.exists_chain hq hr hstart hreach hne
        rw [h.members chain hchain, ← hfst]
        exact (h.members known hknown s.node).mp hmem
      rw [if_pos hid, exists_continued_append_iff, ← h.members chain hchain, List.mem_append,
        List.mem_cons]
      constructor
      · rintro (hold | rfl | hnew)
        · exact .inl hold
        · exact .inl hself
        · exact .inr ⟨hreach, hlead, hnew⟩
      · rintro (hold | ⟨-, -, hnew⟩)
        · exact .inl hold
        · exact .inr (.inr hnew)
    · -- the chain of another beginning does not reach the site
      rw [if_neg hid]
      refine h.members_of_not_reaches hchain (fun hreach' => hid ?_) m
      obtain ⟨-, -, -, hroot⟩ := h.exists_root hchain
      rw [hroot.eq_of_reaches hstart hwalk hr hreach' hreach]
      exact Node.is_iff.mpr rfl

end Extend

/-- One more site keeps the record. -/
theorem step (h : ChainsRecord q past chains) (hq : q.sites = past ++ s :: rest) :
    ChainsRecord q (past ++ [s]) (chains.step s.node) := by
  by_cases hlead : s.node.LeadsOn
  · by_cases hstart : q.StartsChain s.node
    · exact h.start hq hlead hstart
    · exact h.extend hq hlead hstart
  · exact h.skip hlead

/-- So does a run over all the sites that are left. -/
theorem run (h : ChainsRecord q past chains) (hq : q.sites = past ++ rest) :
    ChainsRecord q q.sites (rest.foldl (fun chains s => chains.step s.node) chains) := by
  induction rest generalizing past chains with
  | nil =>
    rw [hq, List.append_nil]
    exact h
  | cons s rest ih => exact ih (h.step hq) (by rw [hq, List.append_assoc]; rfl)

end ChainsRecord

theorem branchChains_record (q : Program) : ChainsRecord q q.sites (branchChains q.sites) := by
  have hnone : ChainsRecord q [] [] := ⟨rfl, fun _ hchain => absurd hchain List.not_mem_nil⟩
  exact hnone.run rfl

end Step

/-! ### The length of a chain -/

/-- In the end a chain holds the later branches of its beginning. -/
theorem ChainsRecord.mem_iff_mem_laterBranches {q : Program} {chains : BranchChains}
    (h : ChainsRecord q q.sites chains) {chain : Node × List Node} (hchain : chain ∈ chains)
    (m : Node) : m ∈ chain.2 ↔ m ∈ chain.1.laterBranches := by
  rw [h.members chain hchain, Node.mem_laterBranches_iff]
  constructor
  · rintro ⟨t, -, hgo⟩
    exact ⟨t.node, hgo⟩
  · rintro ⟨n, hreach, hgo⟩
    have hroot := h.root_mem_walk (fun _ => Program.mem_walk_iff_mem_sites.mpr) hchain
    obtain ⟨t, ht, rfl⟩ := Program.exists_site (Program.mem_walk_of_reaches hroot hreach)
    exact ⟨t, Program.mem_walk_iff_mem_sites.mp ht, hreach, hgo⟩

/-- Distinct identities count the nodes of a program. -/
theorem Program.length_eraseDups_ids {q : Program} {members : List Node} {S : Set Node}
    (hmem : ∀ m, m ∈ members ↔ m ∈ S) (hS : ∀ m ∈ S, m ∈ q.root.walk) :
    (members.map Node.id).eraseDups.length = S.ncard := by
  have hinj : Set.InjOn Node.id S := fun m hm n hn hid =>
    node_eq_of_id_eq (hS m hm) (hS n hn) hid
  have hset : ((members.map Node.id).eraseDups.toFinset : Set Nat) = Node.id '' S := by
    ext id
    simp [hmem]
  calc (members.map Node.id).eraseDups.length
      = (members.map Node.id).eraseDups.toFinset.card :=
        (List.toFinset_card_of_nodup (nodup_eraseDups _)).symm
    _ = (Node.id '' S).ncard := by rw [← hset, Set.ncard_coe_finset]
    _ = S.ncard := hinj.ncard_image

/-- What is reported at the beginning of a long chain. -/
noncomputable def longChainFinding (s : Site) : Finding :=
  Violation.tooManyElifs.atNode s.node (toString s.node.laterBranches.ncard)

open Classical in
theorem branchCounts_eq (q : Program) :
    branchCounts q.sites =
      (q.sites.filter fun s => q.StartsChain s.node ∧ 3 < s.node.laterBranches.ncard).map
        longChainFinding := by
  have hrecord := branchChains_record q
  have hcount : ∀ chain ∈ branchChains q.sites,
      (chain.2.map Node.id).eraseDups.length = chain.1.laterBranches.ncard := by
    intro chain hchain
    have hroot := hrecord.root_mem_walk (fun _ => Program.mem_walk_iff_mem_sites.mpr) hchain
    exact Program.length_eraseDups_ids (hrecord.mem_iff_mem_laterBranches hchain)
      fun m hm => Program.mem_walk_of_reaches hroot hm.2
  let finding (r : Node) : List Finding := reportIf (3 < r.laterBranches.ncard)
    (Violation.tooManyElifs.atNode r (toString r.laterBranches.ncard))
  calc branchCounts q.sites
      = (branchChains q.sites).flatMap fun chain => finding chain.1 :=
        List.flatMap_congr fun chain hchain => by simp only [hcount chain hchain, finding]
    _ = ((branchChains q.sites).map Prod.fst).flatMap finding := (List.flatMap_map ..).symm
    _ = ((q.sites.filter fun s => q.StartsChain s.node ∧ s.node.LeadsOn).filter
          fun s => 3 < s.node.laterBranches.ncard).map longChainFinding := by
        rw [hrecord.roots, List.flatMap_map]
        exact flatMap_reportIf _ _ longChainFinding
    _ = _ := by
        rw [List.filter_filter]
        congr 1
        refine List.filter_congr fun s _ => ?_
        rw [← Bool.decide_and, decide_eq_decide]
        constructor
        · exact fun ⟨hlong, hstart, _⟩ => ⟨hstart, hlong⟩
        · exact fun ⟨hstart, hlong⟩ => ⟨hlong, hstart, Node.leadsOn_of_ncard_pos (by omega)⟩

/-- **Chains that are too long.** The check reports, once each and in the order in which they are
visited, the branches that begin a chain with more than three later branches, with the number of
these. -/
theorem branchCounts_reports_longChains (subject : Subject) (memory : Memory) :
    ∃ starts : List Site, starts.Sublist subject.program.sites ∧ starts.Nodup ∧
      (∀ s ∈ subject.program.sites, s ∈ starts ↔
        subject.program.StartsChain s.node ∧ 3 < s.node.laterBranches.ncard) ∧
      (Check.branchCounts.judge subject memory).1 =
        .ofFindings (starts.map longChainFinding) := by
  classical
  refine ⟨subject.program.sites.filter fun s =>
    subject.program.StartsChain s.node ∧ 3 < s.node.laterBranches.ncard,
    List.filter_sublist, subject.program.sites_nodup.filter _, ?_, ?_⟩
  · intro s hs
    rw [List.mem_filter, decide_eq_true_iff]
    exact and_iff_right hs
  · exact congrArg Report.ofFindings (branchCounts_eq subject.program)

end Stricture
