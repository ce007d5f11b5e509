import Mathlib.Data.List.TakeWhile
import Stricture.Proofs.Function.Locals
import Stricture.Tree.Unwrap

/-!
# Prefix operators

Three functions look through prefix operators. One goes up to the nearest ancestor that is something
else (`realParent?`), one goes up and counts an operator on the way (`countSign`), and one goes down
to the expression behind them (`unwrapUnary`). What they say about a site is tied to the tree here.

The operators in front of a site are the ancestors with nothing but prefix operators from them down
to the site (`Node.IsSignOf`, `Program.mem_takeWhile_above_iff`), so the counts are numbers of such
ancestors (`Program.countSign_eq_ncard`, `Program.totalSigns_eq_ncard`). A count that climbs from
parent to parent, with the amount so far in hand (`SignCount`), ends with the same number
(`Program.signCount_iff`).

Going down by one operand puts one operator in front and leaves the real parent alone
(`Site.signs_under`, `Site.realParent?_under`). By induction along the operands, the expression
behind all operators has exactly those in front that were passed (`Program.exists_unwrapsTo`).
-/

namespace Stricture

namespace Node

variable {n : Node}

theorem kind_eq_unary_iff : n.kind = .unary ↔ n.unaryOp?.isSome = true := by
  constructor
  · intro hn
    obtain ⟨op, operand, hshape⟩ := exists_unary hn
    rw [unaryOp?, hshape]
    rfl
  · intro hn
    rw [unaryOp?] at hn
    split at hn
    case h_1 hshape => rw [kind, hshape]; rfl
    case h_2 => cases hn

theorem isNone_unaryOp? : n.unaryOp?.isNone = (n.kind != .unary) := by
  rw [Bool.eq_iff_iff, bne_iff_ne, ne_eq, kind_eq_unary_iff, Bool.not_eq_true,
    Option.isSome_eq_false_iff]

/-- `a` is one of the prefix operators right in front of `n`: it stands above `n`, and between the
two there are only prefix operators. -/
def IsSignOf (a n : Node) : Prop :=
  a.StandsAbove n ∧ a.kind = .unary ∧ ∀ m, a.StandsAbove m → m.StandsAbove n → m.kind = .unary

/-- The operators that are passed on the way to the expression behind them, the last one first. -/
def passedSigns : Node → List UnaryOp
  | .mk _ _ (.unary op operand) => operand.passedSigns ++ [op]
  | _ => []

theorem passedSigns_ne_nil (hn : n.kind = .unary) : n.passedSigns ≠ [] := by
  obtain ⟨id, position, shape⟩ := n
  obtain ⟨op, operand, rfl⟩ : ∃ op operand, shape = .unary op operand := exists_unary hn
  simp [passedSigns]

/-- Behind all prefix operators there is something else. -/
theorem kind_unwrapUnary_ne (n : Node) : n.unwrapUnary.kind ≠ .unary := by
  fun_induction unwrapUnary n with
  | case1 id position op operand ih => exact ih
  | case2 n hn =>
    intro hkind
    obtain ⟨op, operand, hshape⟩ := exists_unary hkind
    obtain ⟨id, position, shape⟩ := n
    exact hn id position op operand (congrArg _ hshape)

end Node

/-! ### The signs of a site -/

namespace Site

variable {s : Site}

theorem realParent?_eq_closest? (s : Site) :
    s.realParent? = s.closest? fun a => a.kind != .unary := by
  simp only [realParent?, closest?, Node.isNone_unaryOp?]

/-- The prefix operators right in front of a site, with their operands. -/
def signNodes (s : Site) : List Node :=
  s.above.takeWhile fun n => n.unaryOp?.isSome

/-- The counts of the four operators together. -/
def totalSigns (s : Site) : Nat :=
  s.countSign .plus + s.countSign .minus + s.countSign .not + s.countSign .invert

theorem totalSigns_eq_length (s : Site) : s.totalSigns = s.signs.length := by
  simp only [totalSigns, countSign]
  induction s.signs with
  | nil => rfl
  | cons op rest ih => cases op <;> simp <;> omega

theorem length_signs (s : Site) : s.signs.length = s.signNodes.length := by
  have hsome (n : Node) (hn : n ∈ s.signNodes) : n.unaryOp?.isSome = true :=
    List.mem_takeWhile_imp (p := fun n : Node => n.unaryOp?.isSome) hn
  have hlength : s.signs.length = s.signNodes.countP fun n => n.unaryOp?.isSome :=
    List.length_filterMap_eq_countP
  rw [hlength, List.countP_eq_length.mpr hsome]

theorem countSign_eq_length (s : Site) (op : UnaryOp) :
    s.countSign op = (s.signNodes.filter fun n => n.unaryOp? == some op).length := by
  have hcount : s.countSign op = (s.signNodes.filterMap Node.unaryOp?).countP (· == op) := rfl
  rw [hcount, List.countP_filterMap, ← List.countP_eq_length_filter]
  refine List.countP_congr fun n _ => ?_
  cases n.unaryOp? <;> simp

/-- One operand down, there is one operator more in front. -/
theorem signs_under {op : UnaryOp} (hop : s.node.unaryOp? = some op) (c : Node) :
    (s.under c).signs = op :: s.signs := by
  simp [signs, under, hop]

/-- One operand down, the real parent is the same. -/
theorem realParent?_under {op : UnaryOp} (hop : s.node.unaryOp? = some op) (c : Node) :
    (s.under c).realParent? = s.realParent? := by
  simp [realParent?, under, hop]

end Site

/-! ### Signs and ancestors -/

namespace Program

variable {q : Program} {s : Site}

/-- No ancestor comes twice. -/
theorem nodup_above (hs : s ∈ q.walk) : s.above.Nodup := by
  obtain ⟨n, above⟩ := s
  induction above generalizing n with
  | nil => exact List.nodup_nil
  | cons m rest ih =>
    have hm : ⟨m, rest⟩ ∈ q.walk := (parent_mem_walk hs).1
    refine List.nodup_cons.mpr ⟨fun hmem => ?_, ih m hm⟩
    exact Node.not_standsAbove_self m (standsAbove_of_mem_above hm hmem).2

/-- The ancestors that come before the first of another sort are those with only their sort between
them and the site. -/
theorem mem_takeWhile_above_iff (hs : s ∈ q.walk) {test : Node → Bool} {a : Node} :
    a ∈ s.above.takeWhile test ↔
      a ∈ q.root.walk ∧ a.StandsAbove s.node ∧ test a = true ∧
        ∀ m, a.StandsAbove m → m.StandsAbove s.node → test m = true := by
  constructor
  · intro ha
    obtain ⟨near, after, hsplit⟩ := List.append_of_mem ha
    have habove : s.above = near ++ a :: (after ++ s.above.dropWhile test) := by
      rw [← List.cons_append, ← List.append_assoc, ← hsplit, List.takeWhile_append_dropWhile]
    obtain ⟨hwalk, hstands⟩ := (mem_above_iff hs).mp (List.takeWhile_subset test ha)
    refine ⟨hwalk, hstands, List.mem_takeWhile_imp ha, fun m ham hmn => ?_⟩
    have hm : m ∈ s.above.takeWhile test := by
      rw [hsplit]
      exact List.mem_append_left _ (mem_near_of_between hs habove ham hmn)
    exact List.mem_takeWhile_imp hm
  · rintro ⟨hwalk, hstands, hta, hbetween⟩
    obtain ⟨near, far, habove⟩ := List.append_of_mem ((mem_above_iff hs).mpr ⟨hwalk, hstands⟩)
    have hnear : ∀ m ∈ near, test m = true := by
      intro m hm
      obtain ⟨ham, hmn⟩ := between_of_mem_near hs habove hm
      exact hbetween m ham hmn
    rw [habove, List.takeWhile_append_of_pos hnear, List.takeWhile_cons_of_pos hta]
    exact List.mem_append_right near List.mem_cons_self

theorem mem_signNodes_iff (hs : s ∈ q.walk) {a : Node} :
    a ∈ s.signNodes ↔ a ∈ q.root.walk ∧ a.IsSignOf s.node := by
  rw [Site.signNodes, mem_takeWhile_above_iff hs]
  simp only [Node.IsSignOf, Node.kind_eq_unary_iff]

theorem nodup_signNodes (hs : s ∈ q.walk) : s.signNodes.Nodup :=
  (nodup_above hs).sublist (List.takeWhile_sublist _)

/-- **The counts add up to the number of prefix operators in front.** -/
theorem totalSigns_eq_ncard (hs : s ∈ q.walk) :
    s.totalSigns = {a | a ∈ q.root.walk ∧ a.IsSignOf s.node}.ncard := by
  rw [ncard_setOf_eq_length (nodup_signNodes hs) fun _ => mem_signNodes_iff hs,
    s.totalSigns_eq_length, s.length_signs]

/-- A single count is the number of those that have the operator. -/
theorem countSign_eq_ncard (hs : s ∈ q.walk) (op : UnaryOp) :
    s.countSign op =
      {a | (a ∈ q.root.walk ∧ a.IsSignOf s.node) ∧ a.unaryOp? = some op}.ncard := by
  have hmem (a : Node) : a ∈ s.signNodes.filter (fun n => n.unaryOp? == some op) ↔
      (a ∈ q.root.walk ∧ a.IsSignOf s.node) ∧ a.unaryOp? = some op := by
    rw [List.mem_filter, mem_signNodes_iff hs, beq_iff_eq]
  rw [ncard_setOf_eq_length ((nodup_signNodes hs).filter _) hmem, s.countSign_eq_length]

end Program

/-! ### Counting on the way up -/

/-- A count upwards: while the parent is a prefix operator the search goes on from there, and the
amount in hand grows if it is the operator that is counted. A proof of
`SignCount parent? op n amount total` is a run that starts with `amount` and ends with `total`. -/
inductive SignCount (parent? : Node → Option Node) (op : UnaryOp) : Node → Nat → Nat → Prop
  | ends {n : Node} {amount : Nat} (h : parent? n = none) : SignCount parent? op n amount amount
  | stops {n m : Node} {amount : Nat} (h : parent? n = some m) (hm : m.unaryOp? = none) :
      SignCount parent? op n amount amount
  | counts {n m : Node} {amount total : Nat} (h : parent? n = some m) (hm : m.unaryOp? = some op)
      (hr : SignCount parent? op m (amount + 1) total) : SignCount parent? op n amount total
  | skips {n m : Node} {other : UnaryOp} {amount total : Nat} (h : parent? n = some m)
      (hm : m.unaryOp? = some other) (hne : other ≠ op)
      (hr : SignCount parent? op m amount total) : SignCount parent? op n amount total

/-- What one step of a count does, by the parent and its operator. -/
theorem SignCount.iff_step {parent? : Node → Option Node} {op : UnaryOp} {n : Node}
    {amount total : Nat} :
    SignCount parent? op n amount total ↔
      (parent? n = none ∧ total = amount) ∨
        ∃ m, parent? n = some m ∧
          (m.unaryOp? = none ∧ total = amount ∨
            ∃ other, m.unaryOp? = some other ∧
              SignCount parent? op m (amount + if other = op then 1 else 0) total) := by
  constructor
  · intro hrun
    cases hrun with
    | ends h => exact Or.inl ⟨h, rfl⟩
    | stops h hm => exact Or.inr ⟨_, h, Or.inl ⟨hm, rfl⟩⟩
    | counts h hm hr => exact Or.inr ⟨_, h, Or.inr ⟨op, hm, by rwa [if_pos rfl]⟩⟩
    | skips h hm hne hr => exact Or.inr ⟨_, h, Or.inr ⟨_, hm, by rwa [if_neg hne]⟩⟩
  · rintro (⟨h, rfl⟩ | ⟨m, h, ⟨hm, rfl⟩ | ⟨other, hm, hr⟩⟩)
    · exact .ends h
    · exact .stops h hm
    · by_cases heq : other = op
      · rw [if_pos heq] at hr
        exact .counts h (heq ▸ hm) hr
      · rw [if_neg heq] at hr
        exact .skips h hm heq hr

namespace Program

variable {q : Program} {s : Site}

/-- **Counting through noted parents agrees with the list of ancestors**: it always comes to an end,
and adds the count to the amount that it starts with. -/
theorem signCount_iff (hs : s ∈ q.walk) {op : UnaryOp} {amount total : Nat} :
    SignCount q.notedParent? op s.node amount total ↔ total = amount + s.countSign op := by
  -- by the length of the list, for every amount in hand
  obtain ⟨n, above⟩ := s
  induction above generalizing n amount with
  | nil =>
    have hparent : q.notedParent? n = none := notedParent?_eq hs
    rw [SignCount.iff_step]
    simp [hparent, Site.countSign, Site.signs]
  | cons m rest ih =>
    have hparent : q.notedParent? n = some m := notedParent?_eq hs
    rw [SignCount.iff_step]
    cases hm : m.unaryOp? with
    | none => simp [hparent, hm, Site.countSign, Site.signs]
    | some other =>
      have hcount : Site.countSign ⟨n, m :: rest⟩ op =
          Site.countSign ⟨m, rest⟩ op + if other = op then 1 else 0 := by
        have hsigns : Site.signs ⟨n, m :: rest⟩ = other :: Site.signs ⟨m, rest⟩ :=
          Site.signs_under (s := ⟨m, rest⟩) hm n
        simp [Site.countSign, hsigns, List.count_cons]
      have hrun : SignCount q.notedParent? op m (amount + if other = op then 1 else 0) total ↔
          total = (amount + if other = op then 1 else 0) + Site.countSign ⟨m, rest⟩ op :=
        ih m (parent_mem_walk hs).1
      simp [hparent, hm, hrun, hcount, Nat.add_assoc, Nat.add_comm]

end Program

/-! ### Down to the expression -/

/-- `t` holds the expression behind the prefix operators of `s`. -/
structure Site.UnwrapsTo (s t : Site) : Prop where
  node : t.node = s.node.unwrapUnary
  /-- The operators that were passed are in front now, before those that were there already. -/
  signs : t.signs = s.node.passedSigns ++ s.signs
  /-- Both have the same real parent. -/
  realParent : t.realParent? = s.realParent?

namespace Site.UnwrapsTo

variable {s t : Site}

/-- Without a prefix operator there is nothing to pass. -/
theorem self {n : Node} {above : List Node}
    (hn : ∀ id position op operand, n = .mk id position (.unary op operand) → False) :
    UnwrapsTo ⟨n, above⟩ ⟨n, above⟩ where
  node := by rw [Node.unwrapUnary]; exact hn
  signs := by rw [Node.passedSigns, List.nil_append]; exact hn
  realParent := rfl

/-- A prefix operator is passed, and the rest is up to its operand. -/
theorem of_operand {id : Nat} {position : Option Position} {op : UnaryOp} {operand : Node}
    (hs : s.node = .mk id position (.unary op operand)) (h : (s.under operand).UnwrapsTo t) :
    s.UnwrapsTo t := by
  have hop : s.node.unaryOp? = some op := by rw [hs]; rfl
  refine ⟨?_, ?_, h.realParent.trans (realParent?_under hop operand)⟩
  · rw [h.node, hs, Node.unwrapUnary]
    rfl
  · rw [h.signs, signs_under hop operand, hs, Node.passedSigns, List.append_assoc]
    rfl

/-- What starts with a prefix operator has at least one operator less in front. -/
theorem totalSigns_lt (h : s.UnwrapsTo t) (hs : s.node.kind = .unary) :
    s.totalSigns + 1 ≤ t.totalSigns := by
  have hpassed : 0 < s.node.passedSigns.length :=
    List.length_pos_iff.mpr (Node.passedSigns_ne_nil hs)
  rw [totalSigns_eq_length, totalSigns_eq_length, h.signs, List.length_append]
  omega

end Site.UnwrapsTo

namespace Program

variable {q : Program} {s : Site}

/-- **The expression behind all prefix operators** has a site, with exactly those in front that were
passed. -/
theorem exists_unwrapsTo (hs : s ∈ q.walk) : ∃ t ∈ q.walk, s.UnwrapsTo t := by
  obtain ⟨n, above⟩ := s
  -- along the operands: the site grows by the operator that is left behind
  fun_induction Node.unwrapUnary n generalizing above with
  | case1 id position op operand ih =>
    obtain ⟨t, ht, h⟩ := ih _ (under_mem_walk hs (List.mem_singleton.mpr rfl))
    exact ⟨t, ht, .of_operand rfl h⟩
  | case2 n hn => exact ⟨⟨n, above⟩, hs, .self hn⟩

end Program

/-! ### All of them together -/

/-- What is said about a site by looking through prefix operators, in terms of the tree. -/
structure Site.SeesThroughSigns (s : Site) (q : Program) : Prop where
  /-- The real parent is the nearest node above that is no prefix operator. -/
  parent_some (a : Node) : s.realParent? = some a ↔
    a ∈ q.root.walk ∧ a.IsNearest (fun m => m.kind != .unary) s.node
  /-- There is none exactly if only prefix operators stand above. -/
  parent_none : s.realParent? = none ↔
    ∀ a ∈ q.root.walk, a.StandsAbove s.node → a.kind = .unary
  /-- Climbing through noted parents always ends, and finds the same real parent. -/
  parent_climb (r : Option Node) :
    Climb q.notedParent? (fun m => m.kind != .unary) s.node r ↔ r = s.realParent?
  /-- The count of an operator is the number of times that it stands right in front. -/
  count (op : UnaryOp) : s.countSign op =
    {a | (a ∈ q.root.walk ∧ a.IsSignOf s.node) ∧ a.unaryOp? = some op}.ncard
  /-- Counting through noted parents always ends, and adds the same count. -/
  count_climb (op : UnaryOp) (amount total : Nat) :
    SignCount q.notedParent? op s.node amount total ↔ total = amount + s.countSign op
  /-- The four counts add up to the number of prefix operators right in front. -/
  total : s.totalSigns = {a | a ∈ q.root.walk ∧ a.IsSignOf s.node}.ncard
  /-- The expression behind has one site. It is no prefix operator, its real parent is the same, and
  it has more operators in front, if there are any to pass. -/
  unwrapped : ∃ t ∈ q.walk, s.UnwrapsTo t ∧ (∀ u ∈ q.walk, u.node = t.node → u = t) ∧
    t.node.kind ≠ .unary ∧ (s.node.kind = .unary → s.totalSigns + 1 ≤ t.totalSigns)

namespace Program

variable {q : Program} {s : Site}

theorem realParent?_eq_some_iff (hs : s ∈ q.walk) {a : Node} : s.realParent? = some a ↔
    a ∈ q.root.walk ∧ a.IsNearest (fun m => m.kind != .unary) s.node := by
  rw [s.realParent?_eq_closest?, closest?_eq_some_iff hs]

theorem realParent?_eq_none_iff (hs : s ∈ q.walk) : s.realParent? = none ↔
    ∀ a ∈ q.root.walk, a.StandsAbove s.node → a.kind = .unary := by
  rw [s.realParent?_eq_closest?, closest?_eq_none_iff hs]
  simp only [bne_eq_false_iff_eq]

/-- **In every corrected tree, looking up and looking down through prefix operators agree**, with
each other and with the tree. -/
theorem settle_seesThroughSigns (p : Program) (s : Site) (hs : s ∈ p.settle.walk) :
    s.SeesThroughSigns p.settle where
  parent_some _ := realParent?_eq_some_iff hs
  parent_none := realParent?_eq_none_iff hs
  parent_climb r := by rw [s.realParent?_eq_closest?, climb_iff hs]
  count := countSign_eq_ncard hs
  count_climb _ _ _ := signCount_iff hs
  total := totalSigns_eq_ncard hs
  unwrapped := by
    obtain ⟨t, ht, h⟩ := exists_unwrapsTo hs
    refine ⟨t, ht, h, fun u hu heq => eq_of_node_eq hu ht heq, ?_, h.totalSigns_lt⟩
    rw [h.node]
    exact s.node.kind_unwrapUnary_ne

/-- An assignment of `-+-1`. -/
def negatedNumber : Program where
  root :=
    .mk 0 none (.file [
      .mk 1 (some ⟨1, 0⟩) (.assign [.mk 2 (some ⟨1, 0⟩) (.name "number" (some .store))]
        (.mk 3 (some ⟨1, 9⟩) (.unary .minus
          (.mk 4 (some ⟨1, 10⟩) (.unary .plus
            (.mk 5 (some ⟨1, 11⟩) (.unary .minus
              (.mk 6 (some ⟨1, 12⟩) (.constant (.int 1) none)))))))))])
  distinct := by decide

/-- The plus sign in `negatedNumber` has one minus sign in front and passes another. -/
theorem settle_seesThroughSigns_negatedNumber :
    (negatedNumber.settle.walk.get ⟨4, by decide⟩).SeesThroughSigns negatedNumber.settle ∧
      (negatedNumber.settle.walk.get ⟨4, by decide⟩).node.unaryOp? = some .plus ∧
      (negatedNumber.settle.walk.get ⟨4, by decide⟩).countSign .minus = 1 ∧
      (negatedNumber.settle.walk.get ⟨6, by decide⟩).countSign .minus = 2 :=
  ⟨settle_seesThroughSigns negatedNumber _ (List.get_mem _ _), by decide, by decide, by decide⟩

end Program

end Stricture
