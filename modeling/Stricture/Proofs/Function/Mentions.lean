import Stricture.Proofs.Body.Statements
import Stricture.Proofs.Returning.Variables

/-!
# Mentions of protected variables

A protected name says that its variable is not used. The rule for functions goes over the body one
statement after the other, each of them level by level (`Node.bodyWalk`), and keeps for every
variable what mentions it after its first binding. Whatever mentions a protected variable again is
reported, be it read, bound a second time or deleted (`Node.MentionsAgain`).

So it is not the order of the text that tells what comes after a binding: inside of one statement,
what stands deeper comes later. If a function binds each protected variable once and the two orders
agree inside of its statements, the reported nodes are those that read a protected variable after
its binding (`Node.IsOrderly`, `Node.ReadsAfterwards`).
-/

namespace Stricture

open Rules

/-! ### Pairs and parts of lists -/

section Pairs

variable {α β : Type} {a b : α}

theorem pair_sublist_append_iff {l r : List α} :
    [a, b].Sublist (l ++ r) ↔ [a, b].Sublist l ∨ [a, b].Sublist r ∨ a ∈ l ∧ b ∈ r := by
  constructor
  · intro hsub
    obtain ⟨front, back, heq, hfront, hback⟩ := List.sublist_append_iff.mp hsub
    rcases List.cons_eq_append_iff.mp heq with ⟨rfl, rfl⟩ | ⟨front', rfl, heq'⟩
    · exact .inr (.inl hback)
    · rcases List.cons_eq_append_iff.mp heq' with ⟨rfl, rfl⟩ | ⟨front'', rfl, hnil⟩
      · exact .inr (.inr ⟨List.singleton_sublist.mp hfront, List.singleton_sublist.mp hback⟩)
      · obtain ⟨rfl, rfl⟩ := List.append_eq_nil_iff.mp hnil.symm
        exact .inl hfront
  · rintro (hl | hr | ⟨ha, hb⟩)
    · exact hl.trans (List.sublist_append_left l r)
    · exact hr.trans (List.sublist_append_right l r)
    · exact (List.singleton_sublist.mpr ha).append (List.singleton_sublist.mpr hb)

theorem pair_sublist_concat_iff {past : List α} {c : α} :
    [a, b].Sublist (past ++ [c]) ↔ [a, b].Sublist past ∨ a ∈ past ∧ b = c := by
  have hlong : ¬ [a, b].Sublist [c] := fun hsub => Nat.not_succ_le_self 1 hsub.length_le
  rw [pair_sublist_append_iff, or_iff_right hlong, List.mem_singleton]

theorem exists_mem_concat_iff {P : α → Prop} {past : List α} {c : α} :
    (∃ d ∈ past ++ [c], P d) ↔ (∃ d ∈ past, P d) ∨ P c := by
  simp only [List.mem_append, List.mem_singleton, or_and_right, exists_or, exists_eq_left]

/-- Two things that come one after the other stem from one member or from two that do. -/
theorem pair_sublist_flatMap_iff {l : List β} {f : β → List α} :
    [a, b].Sublist (l.flatMap f) ↔
      (∃ x ∈ l, [a, b].Sublist (f x)) ∨ ∃ x y, [x, y].Sublist l ∧ a ∈ f x ∧ b ∈ f y := by
  induction l with
  | nil => simp
  | cons x rest ih =>
    rw [List.flatMap_cons, pair_sublist_append_iff, ih]
    constructor
    · rintro (hx | (⟨y, hy, hsub⟩ | ⟨y, z, hsub, ha, hb⟩) | ⟨ha, hb⟩)
      · exact .inl ⟨x, List.mem_cons_self, hx⟩
      · exact .inl ⟨y, List.mem_cons_of_mem x hy, hsub⟩
      · exact .inr ⟨y, z, hsub.cons x, ha, hb⟩
      · obtain ⟨y, hy, hb⟩ := List.mem_flatMap.mp hb
        exact .inr ⟨x, y, (List.singleton_sublist.mpr hy).cons_cons x, ha, hb⟩
    · rintro (⟨y, hy, hsub⟩ | ⟨y, z, hsub, ha, hb⟩)
      · rcases List.mem_cons.mp hy with rfl | hy
        · exact .inl hsub
        · exact .inr (.inl (.inl ⟨y, hy, hsub⟩))
      · rcases List.sublist_cons_iff.mp hsub with hrest | ⟨tail, heq, htail⟩
        · exact .inr (.inl (.inr ⟨y, z, hrest, ha, hb⟩))
        · obtain ⟨rfl, rfl⟩ := List.cons.inj heq
          exact .inr (.inr ⟨ha, List.mem_flatMap.mpr ⟨z, List.singleton_sublist.mp htail, hb⟩⟩)

theorem flatMap_ite_nil (test : β → Bool) (f : β → List α) (l : List β) :
    (l.flatMap fun x => if test x then f x else []) = (l.filter test).flatMap f := by
  induction l with
  | nil => rfl
  | cons x rest ih =>
    rw [List.flatMap_cons, ih]
    cases htest : test x <;> simp [htest]

end Pairs

/-! ### Bindings and mentions -/

namespace Node

/-- A name, whatever it is used for, or an exception handler that binds the variable. -/
def MentionsVariable (n : Node) (v : String) : Prop :=
  (∃ usage, n.shape = .name v usage) ∨ ∃ type body, n.shape = .handler type (some v) body

/-- A name that is stored, or an exception handler that binds the variable. -/
def BindsVariable (n : Node) (v : String) : Prop :=
  n.shape = .name v (some .store) ∨ ∃ type body, n.shape = .handler type (some v) body

variable {n : Node} {v w : String}

theorem BindsVariable.mentionsVariable (h : n.BindsVariable v) : n.MentionsVariable v :=
  h.imp_left fun hname => ⟨_, hname⟩

/-- A node mentions one variable at most. -/
theorem MentionsVariable.unique (hv : n.MentionsVariable v) (hw : n.MentionsVariable w) :
    v = w := by
  rcases hv with ⟨usage, hv⟩ | ⟨type, body, hv⟩
  · rcases hw with ⟨usage', hw⟩ | ⟨type', body', hw⟩
    · exact (Shape.name.inj (hv.symm.trans hw)).1
    · cases hv.symm.trans hw
  · rcases hw with ⟨usage', hw⟩ | ⟨type', body', hw⟩
    · cases hv.symm.trans hw
    · exact Option.some.inj (Shape.handler.inj (hv.symm.trans hw)).2.1

theorem mentionedVariable?_eq_some_iff :
    mentionedVariable? n = some v ↔ n.MentionsVariable v ∧ v ≠ "" := by
  rw [mentionedVariable?, Option.filter_eq_some_iff, bne_iff_ne]
  refine and_congr_left fun _ => ?_
  unfold MentionsVariable
  split
  case h_1 id usage hshape => simp [hshape]
  case h_2 type name body hshape => simp [hshape]
  case h_3 hname hhandler =>
    constructor
    · intro h
      cases h
    · rintro (⟨usage, hshape⟩ | ⟨type, body, hshape⟩)
      · exact absurd hshape (hname v usage)
      · exact absurd hshape (hhandler type (some v) body)

theorem bindsMentioned_iff (h : n.MentionsVariable v) :
    bindsMentioned n = true ↔ n.BindsVariable v := by
  unfold BindsVariable bindsMentioned
  rcases h with ⟨usage, hshape⟩ | ⟨type, body, hshape⟩
  · rw [hshape]
    cases usage with
    | none => simp
    | some usage => cases usage <;> simp
  · rw [hshape]
    simp

end Node

/-! ### What is kept of the nodes gone over -/

namespace Rules.Mentions

/-- The variable has been bound. -/
def Knows (mentions : Mentions) (v : String) : Prop :=
  v ∈ mentions.map Prod.fst

/-- The mentions with one more of the variable `v`. -/
def note (mentions : Mentions) (v : String) (n : Node) : Mentions :=
  mentions.map fun entry => if entry.1 == v then (v, entry.2 ++ [n]) else entry

/-- What is kept after the nodes `past`: each variable that one of them binds, with the nodes that
mention it after a binding. Names for values that nobody uses are known, but what mentions them is
not kept. -/
structure Records (past : List Node) (mentions : Mentions) : Prop where
  distinct : (mentions.map Prod.fst).Nodup
  known : ∀ v, mentions.Knows v ↔ v ≠ "" ∧ ∃ b ∈ past, b.BindsVariable v
  inOrder : ∀ v ms, (v, ms) ∈ mentions → ms.Sublist past
  later : ∀ v ms, (v, ms) ∈ mentions → Name.isUnused v = false →
    ∀ m, m ∈ ms ↔ ∃ b, [b, m].Sublist past ∧ b.BindsVariable v ∧ m.MentionsVariable v

variable {past : List Node} {mentions : Mentions} {n : Node} {v w : String} {ms : List Node}

theorem knows_of_mem (h : (v, ms) ∈ mentions) : mentions.Knows v :=
  List.mem_map_of_mem h

theorem any_iff_knows : (mentions.any fun entry => entry.1 == v) = true ↔ mentions.Knows v := by
  simp [Knows, List.any_eq_true]

theorem mem_note_iff :
    (w, ms) ∈ mentions.note v n ↔
      ∃ ms', (w, ms') ∈ mentions ∧ ms = if w = v then ms' ++ [n] else ms' := by
  rw [note, List.mem_map]
  constructor
  · rintro ⟨⟨u, ms'⟩, hmem, heq⟩
    by_cases hu : u = v
    · subst hu
      rw [if_pos (beq_self_eq_true u)] at heq
      obtain ⟨rfl, rfl⟩ := Prod.mk.inj heq
      exact ⟨ms', hmem, (if_pos rfl).symm⟩
    · rw [if_neg (by simpa using hu)] at heq
      obtain ⟨rfl, rfl⟩ := Prod.mk.inj heq
      exact ⟨ms', hmem, (if_neg hu).symm⟩
  · rintro ⟨ms', hmem, rfl⟩
    refine ⟨(w, ms'), hmem, ?_⟩
    by_cases hw : w = v
    · subst hw
      simp
    · simp [hw]

theorem map_fst_note : (mentions.note v n).map Prod.fst = mentions.map Prod.fst := by
  rw [note, List.map_map]
  refine List.map_congr_left fun entry _ => ?_
  by_cases hentry : entry.1 = v
  · simp [hentry]
  · simp [hentry]

/-- **One more node**: it may leave everything as it is, bind a new variable, or be a mention of one
that is known. -/
theorem step_cases (mentions : Mentions) (n : Node) :
    mentions.step n = mentions ∧ (∀ v, n.MentionsVariable v → v ≠ "" →
      mentions.Knows v ∧ Name.isUnused v = true ∨ ¬ mentions.Knows v ∧ ¬ n.BindsVariable v) ∨
    ∃ v, v ≠ "" ∧ n.MentionsVariable v ∧
      (¬ mentions.Knows v ∧ n.BindsVariable v ∧ mentions.step n = mentions ++ [(v, [])] ∨
        mentions.Knows v ∧ Name.isUnused v = false ∧ mentions.step n = mentions.note v n) := by
  unfold step
  split
  case h_1 hnone =>
    refine .inl ⟨rfl, fun v hv hne => ?_⟩
    rw [Node.mentionedVariable?_eq_some_iff.mpr ⟨hv, hne⟩] at hnone
    cases hnone
  case h_2 v hsome =>
    obtain ⟨hv, hne⟩ := Node.mentionedVariable?_eq_some_iff.mp hsome
    have hbinds : bindsMentioned n = true ↔ n.BindsVariable v := Node.bindsMentioned_iff hv
    split
    case isTrue hany =>
      have hknows := any_iff_knows.mp hany
      split
      case isTrue hunused =>
        refine .inl ⟨rfl, fun w hw _ => ?_⟩
        rw [← hv.unique hw]
        exact .inl ⟨hknows, hunused⟩
      case isFalse hunused =>
        exact .inr ⟨v, hne, hv, .inr ⟨hknows, Bool.eq_false_iff.mpr hunused, rfl⟩⟩
    case isFalse hany =>
      have hknows := mt any_iff_knows.mpr hany
      split
      case isTrue hbound => exact .inr ⟨v, hne, hv, .inl ⟨hknows, hbinds.mp hbound, rfl⟩⟩
      case isFalse hbound =>
        refine .inl ⟨rfl, fun w hw _ => ?_⟩
        rw [← hv.unique hw]
        exact .inr ⟨hknows, mt hbinds.mpr hbound⟩

namespace Records

theorem nil : Records [] [] where
  distinct := List.nodup_nil
  known v := by simp [Knows]
  inOrder v ms h := absurd h List.not_mem_nil
  later v ms h := absurd h List.not_mem_nil

/-- A node that mentions no variable, one that is unknown, or one whose mentions are not kept. -/
theorem skip (h : Records past mentions)
    (hn : ∀ v, n.MentionsVariable v → v ≠ "" →
      mentions.Knows v ∧ Name.isUnused v = true ∨ ¬ mentions.Knows v ∧ ¬ n.BindsVariable v) :
    Records (past ++ [n]) mentions where
  distinct := h.distinct
  known v := by
    rw [h.known v, exists_mem_concat_iff]
    refine and_congr_right fun hne => (or_iff_left_of_imp fun hbinds => ?_).symm
    rcases hn v hbinds.mentionsVariable hne with ⟨hknows, -⟩ | ⟨-, hnot⟩
    · exact ((h.known v).mp hknows).2
    · exact absurd hbinds hnot
  inOrder v ms hmem := (h.inOrder v ms hmem).trans (List.sublist_append_left _ _)
  later v ms hmem hused m := by
    rw [h.later v ms hmem hused m]
    have hknows := knows_of_mem hmem
    refine exists_congr fun b => ?_
    rw [pair_sublist_concat_iff, or_and_right, or_iff_left]
    rintro ⟨⟨-, rfl⟩, -, hmentions⟩
    rcases hn v hmentions ((h.known v).mp hknows).1 with ⟨-, hunused⟩ | ⟨hnot, -⟩
    · rw [hused] at hunused
      cases hunused
    · exact hnot hknows

/-- A node that binds a new variable. Nothing before it mentions the variable after a binding. -/
theorem bind (h : Records past mentions) (hne : v ≠ "") (hnew : ¬ mentions.Knows v)
    (hbinds : n.BindsVariable v) : Records (past ++ [n]) (mentions ++ [(v, [])]) where
  distinct := by
    rw [List.map_append, List.nodup_append]
    refine ⟨h.distinct, List.nodup_singleton v, fun w hw u hu => ?_⟩
    rw [List.mem_singleton.mp hu]
    rintro rfl
    exact hnew hw
  known w := by
    rw [Knows, List.map_append, List.mem_append, exists_mem_concat_iff]
    constructor
    · rintro (hknows | hlast)
      · obtain ⟨hw, hbound⟩ := (h.known w).mp hknows
        exact ⟨hw, .inl hbound⟩
      · rw [List.mem_singleton.mp hlast]
        exact ⟨hne, .inr hbinds⟩
    · rintro ⟨hw, hpast | hlast⟩
      · exact .inl ((h.known w).mpr ⟨hw, hpast⟩)
      · rw [hlast.mentionsVariable.unique hbinds.mentionsVariable]
        exact .inr List.mem_cons_self
  inOrder w ms hmem := by
    rcases List.mem_append.mp hmem with hold | hlast
    · exact (h.inOrder w ms hold).trans (List.sublist_append_left _ _)
    · obtain ⟨-, rfl⟩ := Prod.mk.inj (List.mem_singleton.mp hlast)
      exact List.nil_sublist _
  later w ms hmem hused m := by
    rcases List.mem_append.mp hmem with hold | hlast
    · rw [h.later w ms hold hused m]
      refine exists_congr fun b => ?_
      rw [pair_sublist_concat_iff, or_and_right, or_iff_left]
      rintro ⟨⟨-, rfl⟩, -, hmentions⟩
      rw [hbinds.mentionsVariable.unique hmentions] at hnew
      exact hnew (knows_of_mem hold)
    · obtain ⟨rfl, rfl⟩ := Prod.mk.inj (List.mem_singleton.mp hlast)
      refine iff_of_false List.not_mem_nil ?_
      rintro ⟨b, hpair, hbound, -⟩
      have hb : b ∈ past := by
        rcases pair_sublist_concat_iff.mp hpair with hpast | ⟨hb, -⟩
        · exact hpast.subset List.mem_cons_self
        · exact hb
      exact hnew ((h.known w).mpr ⟨hne, b, hb, hbound⟩)

/-- A node that mentions a variable that is known. -/
theorem note (h : Records past mentions) (hknows : mentions.Knows v) (hv : n.MentionsVariable v) :
    Records (past ++ [n]) (mentions.note v n) where
  distinct := by rw [map_fst_note]; exact h.distinct
  known w := by
    rw [Knows, map_fst_note, exists_mem_concat_iff]
    refine (h.known w).trans (and_congr_right fun _ => (or_iff_left_of_imp fun hbinds => ?_).symm)
    rw [hbinds.mentionsVariable.unique hv]
    exact ((h.known v).mp hknows).2
  inOrder w ms hmem := by
    obtain ⟨ms', hold, rfl⟩ := mem_note_iff.mp hmem
    have hpast := h.inOrder w ms' hold
    split
    case isTrue => exact hpast.append (List.Sublist.refl [n])
    case isFalse => exact hpast.trans (List.sublist_append_left _ _)
  later w ms hmem hused m := by
    obtain ⟨ms', hold, rfl⟩ := mem_note_iff.mp hmem
    simp only [pair_sublist_concat_iff, or_and_right, exists_or, ← h.later w ms' hold hused m]
    split
    case isTrue hw =>
      subst hw
      rw [List.mem_append, List.mem_singleton]
      refine or_congr_right ⟨?_, ?_⟩
      · rintro rfl
        obtain ⟨b, hb, hbinds⟩ := ((h.known w).mp hknows).2
        exact ⟨b, ⟨hb, rfl⟩, hbinds, hv⟩
      · rintro ⟨b, ⟨-, hm⟩, -⟩
        exact hm
    case isFalse hw =>
      refine (or_iff_left ?_).symm
      rintro ⟨b, ⟨-, rfl⟩, -, hmentions⟩
      exact hw (hmentions.unique hv)

/-- One more node keeps the record. -/
theorem step (h : Records past mentions) (n : Node) : Records (past ++ [n]) (mentions.step n) := by
  rcases step_cases mentions n with ⟨heq, hn⟩ | ⟨v, hne, hv, ⟨hnew, hbinds, heq⟩ | ⟨hknows, -, heq⟩⟩
  · rw [heq]
    exact h.skip hn
  · rw [heq]
    exact h.bind hne hnew hbinds
  · rw [heq]
    exact h.note hknows hv

/-- All nodes together. -/
theorem run (h : Records past mentions) (nodes : List Node) :
    Records (past ++ nodes) (nodes.foldl Mentions.step mentions) := by
  induction nodes generalizing past mentions with
  | nil => rwa [List.append_nil]
  | cons n rest ih =>
    rw [List.foldl_cons, ← List.singleton_append, ← List.append_assoc]
    exact ih (h.step n)

end Records

end Rules.Mentions

/-! ### What is reported of one function -/

/-- Everything in the body of a function: one statement after the other, each level by level. -/
def Node.bodyWalk (f : Node) : List Node :=
  f.body.flatMap Node.walk

/-- The node mentions a protected variable, and the body of `f` binds the variable before it. -/
def Node.MentionsAgain (f m : Node) : Prop :=
  ∃ v b, Name.isProtected v = true ∧ [b, m].Sublist f.bodyWalk ∧ b.BindsVariable v ∧
    m.MentionsVariable v

/-- The nodes that mention protected variables after their first bindings. -/
def protectedMentions (f : Node) : List Node :=
  (mentionsIn f).flatMap fun (v, ms) => if Name.isProtected v then ms else []

section OneFunction

variable {f m : Node} {v : String}

theorem mentionsIn_records (f : Node) : Mentions.Records f.bodyWalk (mentionsIn f) :=
  Mentions.Records.nil.run f.bodyWalk

/-- A protected name is no name for values that nobody uses, and it is not empty. -/
theorem isUnused_of_isProtected (h : Name.isProtected v = true) :
    Name.isUnused v = false ∧ v ≠ "" := by
  simp only [Name.isProtected, Bool.and_eq_true, Bool.not_eq_true'] at h
  refine ⟨h.1.1.2, ?_⟩
  rintro rfl
  exact absurd h.1.1.1 (by decide)

theorem mem_protectedMentions_iff : m ∈ protectedMentions f ↔ f.MentionsAgain m := by
  have hrecords := mentionsIn_records f
  rw [protectedMentions, List.mem_flatMap]
  constructor
  · rintro ⟨⟨v, ms⟩, hmem, hm⟩
    obtain ⟨hprotected, hm⟩ := List.mem_ite_nil_right.mp hm
    obtain ⟨b, hpair, hbinds, hmentions⟩ :=
      (hrecords.later v ms hmem (isUnused_of_isProtected hprotected).1 m).mp hm
    exact ⟨v, b, hprotected, hpair, hbinds, hmentions⟩
  · rintro ⟨v, b, hprotected, hpair, hbinds, hmentions⟩
    obtain ⟨hused, hne⟩ := isUnused_of_isProtected hprotected
    have hknows := (hrecords.known v).mpr ⟨hne, b, hpair.subset List.mem_cons_self, hbinds⟩
    obtain ⟨⟨w, ms⟩, hmem, rfl⟩ := List.mem_map.mp hknows
    refine ⟨(w, ms), hmem, List.mem_ite_nil_right.mpr ⟨hprotected, ?_⟩⟩
    exact (hrecords.later w ms hmem hused m).mpr ⟨b, hpair, hbinds, hmentions⟩

theorem nodup_protectedMentions (hnodup : f.bodyWalk.Nodup) : (protectedMentions f).Nodup := by
  have hrecords := mentionsIn_records f
  refine List.nodup_flatMap.mpr ⟨?_, ?_⟩
  · rintro ⟨v, ms⟩ hmem
    dsimp only
    split
    case isTrue => exact (hrecords.inOrder v ms hmem).nodup hnodup
    case isFalse => exact List.nodup_nil
  · -- a node in two of the lists would mention two variables
    refine (List.pairwise_map.mp hrecords.distinct).imp_of_mem ?_
    rintro ⟨v, ms⟩ ⟨w, ms'⟩ hv hw hne m hm hm'
    obtain ⟨hprotected, hm⟩ := List.mem_ite_nil_right.mp hm
    obtain ⟨hprotected', hm'⟩ := List.mem_ite_nil_right.mp hm'
    obtain ⟨-, -, -, hmentions⟩ :=
      (hrecords.later v ms hv (isUnused_of_isProtected hprotected).1 m).mp hm
    obtain ⟨-, -, -, hmentions'⟩ :=
      (hrecords.later w ms' hw (isUnused_of_isProtected hprotected').1 m).mp hm'
    exact hne (hmentions.unique hmentions')

theorem usedProtected_eq (f : Node) :
    usedProtected f = (protectedMentions f).map fun m =>
      Violation.unusedVariableIsUsed.atNode m (mentionedVariable? m) := by
  have hrecords := mentionsIn_records f
  rw [usedProtected, protectedMentions, List.map_flatMap]
  refine List.flatMap_congr ?_
  rintro ⟨v, ms⟩ hmem
  dsimp only
  split
  case isTrue hprotected =>
    obtain ⟨hused, hne⟩ := isUnused_of_isProtected hprotected
    refine List.map_congr_left fun m hm => ?_
    obtain ⟨-, -, -, hmentions⟩ := (hrecords.later v ms hmem hused m).mp hm
    rw [Node.mentionedVariable?_eq_some_iff.mpr ⟨hmentions, hne⟩]
  case isFalse => rfl

/-- What the rule for definitions reports as used is what a function mentions again. -/
theorem filter_functionDefinitions (s : Site) :
    (functionDefinitions s).filter (fun f => f.violation = .unusedVariableIsUsed) =
      if s.node.isFunction then (protectedMentions s.node).map fun m =>
        Violation.unusedVariableIsUsed.atNode m (mentionedVariable? m) else [] := by
  have hdefaults : ∀ x ∈ (s.node.signature?.map defaultValues).getD [],
      x.violation = .complexDefaultValue := by
    intro x hx
    cases hsignature : s.node.signature? with
    | none => simp [hsignature] at hx
    | some g =>
      rw [hsignature] at hx
      obtain ⟨d, -, rfl⟩ := List.mem_map.mp hx
      rfl
  have hstops : ∀ x ∈ raisedStops s.node, x.violation = .stopIterationInsideGenerator := by
    intro x hx
    obtain ⟨-, hx⟩ := List.mem_ite_nil_right.mp hx
    obtain ⟨n, -, rfl⟩ := List.mem_map.mp hx
    rfl
  have hother (v : Violation) (hv : v ≠ .unusedVariableIsUsed) (findings : List Finding)
      (h : ∀ x ∈ findings, x.violation = v) :
      findings.filter (fun x => x.violation = .unusedVariableIsUsed) = [] :=
    List.filter_eq_nil_iff.mpr fun x hx => by simpa [h x hx] using hv
  unfold functionDefinitions
  split
  case isTrue =>
    rw [List.filter_append, List.filter_append, hother _ (by decide) _ hdefaults,
      hother _ (by decide) _ hstops, List.nil_append, List.append_nil, usedProtected_eq]
    refine List.filter_eq_self.mpr fun x hx => ?_
    obtain ⟨m, -, rfl⟩ := List.mem_map.mp hx
    rfl
  case isFalse => rfl

end OneFunction

/-! ### The order of the text -/

namespace Node

/-- `m` begins before `n` in the text. -/
def StartsBefore (m n : Node) : Prop :=
  ∃ p q, m.position = some p ∧ n.position = some q ∧
    (p.line < q.line ∨ p.line = q.line ∧ p.column < q.column)

theorem StartsBefore.asymm {m n : Node} (h : m.StartsBefore n) : ¬ n.StartsBefore m := by
  obtain ⟨p, q, hp, hq, hpq⟩ := h
  rintro ⟨q', p', hq', hp', hqp⟩
  obtain rfl := Option.some.inj (hp.symm.trans hp')
  obtain rfl := Option.some.inj (hq.symm.trans hq')
  omega

/-- The node reads a protected variable that the body of `f` binds earlier in the text. -/
def ReadsAfterwards (f m : Node) : Prop :=
  ∃ v b, Name.isProtected v = true ∧ b ∈ f.bodyWalk ∧ m ∈ f.bodyWalk ∧ b.BindsVariable v ∧
    m.Loads v ∧ b.StartsBefore m

/-- The function binds each protected variable once and only reads it otherwise, its statements
follow each other in the text, and inside of a statement reads that come later in the text are met
later too. -/
structure IsOrderly (f : Node) : Prop where
  single : ∀ v b m, Name.isProtected v = true → b ∈ f.bodyWalk → m ∈ f.bodyWalk →
    b.BindsVariable v → m.MentionsVariable v → m = b ∨ m.Loads v
  between : f.body.Pairwise fun s t => ∀ v, ∀ b ∈ s.walk, ∀ m ∈ t.walk,
    b.MentionsVariable v → m.MentionsVariable v → b.StartsBefore m
  within : ∀ s ∈ f.body, ∀ v, ∀ b ∈ s.walk, ∀ m ∈ s.walk, Name.isProtected v = true →
    b.BindsVariable v → m.Loads v → ([b, m].Sublist s.walk ↔ b.StartsBefore m)

theorem Loads.mentionsVariable {n : Node} {v : String} (h : n.Loads v) : n.MentionsVariable v :=
  .inl ⟨_, h⟩

/-- In an orderly function, a read is met after a binding if it comes after it in the text. -/
theorem IsOrderly.pair_sublist_iff {f b m : Node} {v : String} (h : f.IsOrderly)
    (hprotected : Name.isProtected v = true) (hb : b ∈ f.bodyWalk) (hm : m ∈ f.bodyWalk)
    (hbinds : b.BindsVariable v) (hloads : m.Loads v) :
    [b, m].Sublist f.bodyWalk ↔ b.StartsBefore m := by
  have hbetween {s t : Node} (hst : [s, t].Sublist f.body) {c d : Node} (hc : c ∈ s.walk)
      (hd : d ∈ t.walk) (hcv : c.MentionsVariable v) (hdv : d.MentionsVariable v) :
      c.StartsBefore d :=
    List.pairwise_iff_forall_sublist.mp h.between hst v c hc d hd hcv hdv
  rw [bodyWalk, pair_sublist_flatMap_iff]
  constructor
  · rintro (⟨s, hs, hpair⟩ | ⟨s, t, hst, hbs, hmt⟩)
    · have hmem := hpair.subset
      exact (h.within s hs v b (hmem List.mem_cons_self) m
        (hmem (List.mem_cons_of_mem b List.mem_cons_self)) hprotected hbinds hloads).mp hpair
    · exact hbetween hst hbs hmt hbinds.mentionsVariable hloads.mentionsVariable
  · intro hstarts
    obtain ⟨s, hs, hbs⟩ := List.mem_flatMap.mp hb
    obtain ⟨t, ht, hmt⟩ := List.mem_flatMap.mp hm
    obtain ⟨before, after, hsplit⟩ := List.append_of_mem hs
    rw [hsplit, List.mem_append, List.mem_cons] at ht
    rcases ht with hfront | rfl | hback
    · -- a statement further up: the read would come first in the text
      have hts : [t, s].Sublist f.body := by
        rw [hsplit]
        exact (List.singleton_sublist.mpr hfront).append
          (List.singleton_sublist.mpr List.mem_cons_self)
      have hfirst := hbetween hts hmt hbs hloads.mentionsVariable hbinds.mentionsVariable
      exact absurd hstarts hfirst.asymm
    · exact .inl ⟨t, hs, (h.within t hs v b hbs m hmt hprotected hbinds hloads).mpr hstarts⟩
    · refine .inr ⟨s, t, ?_, hbs, hmt⟩
      rw [hsplit]
      exact ((List.singleton_sublist.mpr hback).cons_cons s).trans (List.sublist_append_right _ _)

theorem IsOrderly.mentionsAgain_iff {f m : Node} (h : f.IsOrderly) (hnodup : f.bodyWalk.Nodup) :
    f.MentionsAgain m ↔ f.ReadsAfterwards m := by
  constructor
  · rintro ⟨v, b, hprotected, hpair, hbinds, hmentions⟩
    have hb : b ∈ f.bodyWalk := hpair.subset List.mem_cons_self
    have hm : m ∈ f.bodyWalk := hpair.subset (List.mem_cons_of_mem b List.mem_cons_self)
    have hne : m ≠ b := by
      rintro rfl
      simpa using hpair.nodup hnodup
    have hloads := (h.single v b m hprotected hb hm hbinds hmentions).resolve_left hne
    exact ⟨v, b, hprotected, hb, hm, hbinds, hloads,
      (h.pair_sublist_iff hprotected hb hm hbinds hloads).mp hpair⟩
  · rintro ⟨v, b, hprotected, hb, hm, hbinds, hloads, hstarts⟩
    exact ⟨v, b, hprotected, (h.pair_sublist_iff hprotected hb hm hbinds hloads).mpr hstarts,
      hbinds, hloads.mentionsVariable⟩

end Node

/-! ### The whole check -/

/-- No node of a program is met twice in the body of a function. -/
theorem Program.nodup_bodyWalk {q : Program} {s : Site} (hs : s ∈ q.walk) :
    s.node.bodyWalk.Nodup := by
  have hbody : s.node.body.Sublist s.node.children :=
    (List.sublist_flatten_of_mem List.mem_cons_self).trans s.node.flatten_blocks_sublist
  refine List.nodup_flatMap.mpr ⟨fun c hc => ?_, ?_⟩
  · exact nodup_node_walk (under_mem_walk hs (hbody.subset hc))
  · refine (hbody.nodup (nodup_children hs)).imp_of_mem fun {c d} hc hd hne m hmc hmd => ?_
    exact hne (eq_of_mem_walk (node_mem_walk hs) (hbody.subset hc) (hbody.subset hd) hmc hmd)

/-- **What mentions a protected variable again** is reported for the function, once for each node.
In an orderly function these are the nodes that read a protected variable after it was bound. -/
theorem functionDefinitions_reports_mentions (subject : Subject) (memory : Memory) :
    (Check.functionDefinitions.judge subject memory).1.fault = none ∧
    ∃ reported : Node → List Node,
      (Check.functionDefinitions.judge subject memory).1.findings.filter
          (fun x => x.violation = .unusedVariableIsUsed) =
        (subject.program.sites.filter fun s => s.node.isFunction).flatMap (fun s =>
          (reported s.node).map fun m =>
            Violation.unusedVariableIsUsed.atNode m (mentionedVariable? m)) ∧
      ∀ f ∈ subject.program.root.walk, f.isFunction = true →
        (reported f).Nodup ∧ (∀ m, m ∈ reported f ↔ f.MentionsAgain m) ∧
        (f.IsOrderly → ∀ m, m ∈ reported f ↔ f.ReadsAfterwards m) := by
  refine ⟨rfl, protectedMentions, ?_, fun f hf _ => ?_⟩
  · have hfindings : (Check.functionDefinitions.judge subject memory).1.findings =
        subject.program.sites.flatMap functionDefinitions := rfl
    rw [hfindings, List.filter_flatMap, ← flatMap_ite_nil]
    exact List.flatMap_congr fun s _ => filter_functionDefinitions s
  · obtain ⟨s, hs, rfl⟩ := Program.exists_site hf
    have hnodup := Program.nodup_bodyWalk hs
    refine ⟨nodup_protectedMentions hnodup, fun m => mem_protectedMentions_iff, fun h m => ?_⟩
    rw [mem_protectedMentions_iff, h.mentionsAgain_iff hnodup]

/-! ### Samples -/

/-- A variable at a place in the text. -/
def variableAt (id : Nat) (line column : Int) (name : String) (usage : Usage) : Node :=
  .mk id (some ⟨line, column⟩) (.name name (some usage))

/-- A function without parameters. -/
def plainFunction (body : List Node) : Node :=
  .mk 1 (some ⟨1, 0⟩) (.functionDef .plain "sample" (noParams 2) body [] none)

/-- What mentions a variable in a body whose mentions have been listed. -/
theorem mem_of_filter_mentions {nodes listed : List Node} {m : Node} {v : String} (hne : v ≠ "")
    (hlisted : nodes.filter (fun n => mentionedVariable? n == some v) = listed) :
    m ∈ nodes ∧ m.MentionsVariable v ↔ m ∈ listed := by
  rw [← hlisted, List.mem_filter, beq_iff_eq, Node.mentionedVariable?_eq_some_iff,
    and_iff_left hne]

/-- A manager is bound. -/
def managerBinding : Node :=
  variableAt 7 2 17 "_manager" .store

/-- The manager is read. -/
def managerRead : Node :=
  variableAt 11 3 14 "_manager" .load

/-- A block in which the manager is bound and read. -/
def managerBlock : Node :=
  .mk 3 (some ⟨2, 4⟩) (.withBlock .plain
    [.mk 4 none (.withItem (.mk 5 (some ⟨2, 9⟩) (.call (variableAt 6 2 9 "lock" .load) [] []))
      (some managerBinding))]
    [.mk 8 (some ⟨3, 8⟩) (.expression
      (.mk 9 (some ⟨3, 8⟩) (.call (variableAt 10 3 8 "print" .load) [managerRead] [])))])

/-- A function with the block as a subject. -/
def managerSubject : Subject :=
  ⟨{ root := .mk 0 none (.file [plainFunction [managerBlock]]), distinct := by decide }, [],
    "manager.py", .initial⟩

theorem managerFunction_isOrderly : (plainFunction [managerBlock]).IsOrderly := by
  have hbinders : (plainFunction [managerBlock]).bodyWalk.filter bindsMentioned =
      [managerBinding] := rfl
  have hbound {v : String} {b : Node} (hb : b ∈ (plainFunction [managerBlock]).bodyWalk)
      (hbinds : b.BindsVariable v) : b = managerBinding ∧ v = "_manager" := by
    have hmem := List.mem_filter.mpr
      ⟨hb, (Node.bindsMentioned_iff hbinds.mentionsVariable).mpr hbinds⟩
    rw [hbinders, List.mem_singleton] at hmem
    rw [hmem] at hbinds
    exact ⟨hmem, hbinds.mentionsVariable.unique (.inl ⟨_, rfl⟩)⟩
  have hlisted {m : Node} : m ∈ (plainFunction [managerBlock]).bodyWalk ∧
      m.MentionsVariable "_manager" ↔ m ∈ [managerBinding, managerRead] :=
    mem_of_filter_mentions (by decide) rfl
  have hread {m : Node} (hm : m ∈ (plainFunction [managerBlock]).bodyWalk)
      (hv : m.MentionsVariable "_manager") : m = managerBinding ∨ m = managerRead := by
    simpa using hlisted.mp ⟨hm, hv⟩
  refine ⟨?_, List.pairwise_singleton _ _, ?_⟩
  · intro v b m _ hb hm hbinds hmentions
    obtain ⟨rfl, rfl⟩ := hbound hb hbinds
    refine (hread hm hmentions).imp_right ?_
    rintro rfl
    rfl
  · intro s hs v b hb m hm _ hbinds hloads
    obtain rfl := List.mem_singleton.mp hs
    obtain ⟨rfl, rfl⟩ := hbound (List.mem_flatMap_of_mem hs hb) hbinds
    rcases hread (List.mem_flatMap_of_mem hs hm) hloads.mentionsVariable with rfl | rfl
    · cases hloads
    · have hpair : managerBlock.walk.filter (fun n => mentionedVariable? n == some "_manager") =
          [managerBinding, managerRead] := rfl
      refine iff_of_true ?_ ⟨_, _, rfl, rfl, .inl (by decide)⟩
      rw [← hpair]
      exact List.filter_sublist

theorem functionDefinitions_reports_mentions_managerSubject :
    (plainFunction [managerBlock]).IsOrderly ∧
    ∃ reported : List Node,
      reported.Nodup ∧ (∀ m, m ∈ reported ↔ (plainFunction [managerBlock]).ReadsAfterwards m) ∧
      [Violation.unusedVariableIsUsed.atNode managerRead "_manager"] = reported.map fun m =>
        Violation.unusedVariableIsUsed.atNode m (mentionedVariable? m) := by
  obtain ⟨-, reported, hfindings, hall⟩ := functionDefinitions_reports_mentions managerSubject {}
  have hfunction : plainFunction [managerBlock] ∈ managerSubject.program.root.walk :=
    List.mem_cons_of_mem _ List.mem_cons_self
  obtain ⟨hnodup, -, horderly⟩ := hall _ hfunction rfl
  refine ⟨managerFunction_isOrderly, reported (plainFunction [managerBlock]), hnodup,
    horderly managerFunction_isOrderly, ?_⟩
  have hfunctions : (managerSubject.program.sites.filter fun s => s.node.isFunction) =
      [managerSubject.program.root.top.under (plainFunction [managerBlock])] := rfl
  rw [hfunctions, List.flatMap_singleton] at hfindings
  exact hfindings

/-- A variable is bound a second time. -/
def secondBinding : Node :=
  variableAt 7 3 4 "_first" .store

/-- The statements `_first = 1` and `_first = 2`. -/
def rebindingFunction : Node :=
  plainFunction
    [.mk 3 (some ⟨2, 4⟩) (.assign [variableAt 4 2 4 "_first" .store]
      (.mk 5 (some ⟨2, 13⟩) (.constant (.int 1) none))),
    .mk 6 (some ⟨3, 4⟩) (.assign [secondBinding] (.mk 8 (some ⟨3, 13⟩) (.constant (.int 2) none)))]

/-- A variable is bound inside of a tuple. -/
def tupleBinding : Node :=
  variableAt 8 3 15 "_second" .store

/-- The variable is returned. -/
def returnedRead : Node :=
  variableAt 12 4 15 "_second" .load

/-- The statements `first, _second = pair()` and `return _second` behind a condition. -/
def unpackingFunction : Node :=
  plainFunction [.mk 3 (some ⟨2, 4⟩) (.branch (variableAt 4 2 7 "ready" .load)
    [.mk 5 (some ⟨3, 8⟩) (.assign
      [.mk 6 (some ⟨3, 8⟩) (.tuple [variableAt 7 3 8 "first" .store, tupleBinding] (some .store))]
      (.mk 9 (some ⟨3, 25⟩) (.call (variableAt 10 3 25 "pair" .load) [] []))),
    .mk 11 (some ⟨4, 8⟩) (.returned (some returnedRead))] [])]

/-- A variable is read. -/
def earlyRead : Node :=
  variableAt 8 3 14 "_third" .load

/-- The variable is bound after that. -/
def lateBinding : Node :=
  variableAt 10 4 8 "_third" .store

/-- The statements `print(_third)` and `_third = 1` behind a condition. -/
def earlyFunction : Node :=
  plainFunction [.mk 3 (some ⟨2, 4⟩) (.branch (variableAt 4 2 7 "ready" .load)
    [.mk 5 (some ⟨3, 8⟩) (.expression
      (.mk 6 (some ⟨3, 8⟩) (.call (variableAt 7 3 8 "print" .load) [earlyRead] []))),
    .mk 9 (some ⟨4, 8⟩) (.assign [lateBinding]
      (.mk 11 (some ⟨4, 17⟩) (.constant (.int 1) none)))] [])]

/-- **Uses are misjudged.** A second binding of a variable is reported as a use, a read after a
binding that stands deeper in the same statement is not reported, and a read before a binding that
stands less deep is. -/
theorem functionDefinitions_misjudges_uses :
    (functionDefinitions rebindingFunction.top =
        [Violation.unusedVariableIsUsed.atNode secondBinding "_first"] ∧
      ¬ rebindingFunction.ReadsAfterwards secondBinding) ∧
    (functionDefinitions unpackingFunction.top = [] ∧
      unpackingFunction.ReadsAfterwards returnedRead) ∧
    functionDefinitions earlyFunction.top =
        [Violation.unusedVariableIsUsed.atNode earlyRead "_third"] ∧
      ¬ earlyFunction.ReadsAfterwards earlyRead := by
  refine ⟨⟨rfl, ?_⟩, ⟨rfl, ?_⟩, rfl, ?_⟩
  · rintro ⟨v, b, -, -, -, -, hloads, -⟩
    cases hloads
  · have hlisted {m : Node} : m ∈ unpackingFunction.bodyWalk ∧ m.MentionsVariable "_second" ↔
        m ∈ [returnedRead, tupleBinding] := mem_of_filter_mentions (by decide) rfl
    have hread := hlisted.mpr (List.mem_cons_self (a := returnedRead))
    have hbinding := hlisted.mpr (List.mem_cons_of_mem returnedRead List.mem_cons_self)
    exact ⟨"_second", tupleBinding, by decide, hbinding.1, hread.1, .inl rfl, rfl, _, _, rfl, rfl,
      .inl (by decide)⟩
  · have hlisted {m : Node} : m ∈ earlyFunction.bodyWalk ∧ m.MentionsVariable "_third" ↔
        m ∈ [lateBinding, earlyRead] := mem_of_filter_mentions (by decide) rfl
    rintro ⟨v, b, -, hb, -, hbinds, hloads, hstarts⟩
    obtain rfl : "_third" = v := (Shape.name.inj hloads).1
    rcases List.mem_cons.mp (hlisted.mp ⟨hb, hbinds.mentionsVariable⟩) with rfl | hmem
    · have hfirst : earlyRead.StartsBefore lateBinding := ⟨_, _, rfl, rfl, .inl (by decide)⟩
      exact hfirst.asymm hstarts
    · obtain rfl := List.mem_singleton.mp hmem
      exact hstarts.asymm hstarts

end Stricture
