import Mathlib.Data.List.Forall2
import Stricture.Comparison.Bounds

/-!
# Which bounds are fine

The bounds of a condition are compared by counting: for every text, the comparisons that have it on
both sides against those that have it on one. The counts say no more than this
(`boundsAreFine_eq_false_iff`): some comparison has the text on the smaller side only, and some
comparison has it on the greater side only. So neither the order of the comparisons nor their
direction matters, and a condition that is not fine stays so when comparisons are added.
-/

namespace Stricture

/-! ### Ordered operands -/

/-- The comparison puts one operand below another: the two stand side by side, and an ordering
operator stands between them. -/
inductive Node.Orders (c : Node) : Node → Node → Prop
  | ascending {left ops comparators i op small great}
      (h : c.shape = .compare left ops comparators) (hop : ops[i]? = some op)
      (hordering : op = .lt ∨ op = .ltE) (hsmall : (left :: comparators)[i]? = some small)
      (hgreat : (left :: comparators)[i + 1]? = some great) : c.Orders small great
  | descending {left ops comparators i op small great}
      (h : c.shape = .compare left ops comparators) (hop : ops[i]? = some op)
      (hordering : op = .gt ∨ op = .gtE) (hgreat : (left :: comparators)[i]? = some great)
      (hsmall : (left :: comparators)[i + 1]? = some small) : c.Orders small great

/-- A text stands on the smaller side of an ordering operator of the comparison. -/
def Node.HasSmaller (text : Node → String) (c : Node) (t : String) : Prop :=
  ∃ small great, c.Orders small great ∧ text small = t

/-- A text stands on the greater side of an ordering operator of the comparison. -/
def Node.HasGreater (text : Node → String) (c : Node) (t : String) : Prop :=
  ∃ small great, c.Orders small great ∧ text great = t

section Links

variable {s : Site} {link : OrderingLink}

theorem OrderingLink.ofOperator?_eq_some_iff {op : CompareOp} {left right : Site} :
    ofOperator? op left right = some link ↔
      ((op = .lt ∨ op = .ltE) ∧ left = link.smaller ∧ right = link.greater) ∨
      ((op = .gt ∨ op = .gtE) ∧ left = link.greater ∧ right = link.smaller) := by
  obtain ⟨smaller, greater⟩ := link
  cases op <;> simp [ofOperator?, and_comm]

/-- The links of a comparison, by the places of their operators. -/
theorem Site.mem_orderingLinks_iff :
    link ∈ s.orderingLinks ↔ ∃ (i : Nat) (op : CompareOp) (left right : Site),
      s.compareOps[i]? = some op ∧ s.operands[i]? = some left ∧
      s.operands[i + 1]? = some right ∧ OrderingLink.ofOperator? op left right = some link := by
  have hzip {i : Nat} {op : CompareOp} {left right : Site} :
      (s.compareOps.zip (s.operands.zip (s.operands.drop 1)))[i]? = some (op, left, right) ↔
        s.compareOps[i]? = some op ∧ s.operands[i]? = some left ∧
          s.operands[i + 1]? = some right := by
    rw [List.getElem?_zip_eq_some, List.getElem?_zip_eq_some, List.getElem?_drop, Nat.add_comm 1 i]
  rw [orderingLinks, List.mem_filterMap]
  constructor
  · rintro ⟨⟨op, left, right⟩, hmem, hlink⟩
    obtain ⟨i, hi⟩ := List.mem_iff_getElem?.mp hmem
    obtain ⟨hop, hleft, hright⟩ := hzip.mp hi
    exact ⟨i, op, left, right, hop, hleft, hright, hlink⟩
  · rintro ⟨i, op, left, right, hop, hleft, hright, hlink⟩
    exact ⟨(op, left, right), List.mem_iff_getElem?.mpr ⟨i, hzip.mpr ⟨hop, hleft, hright⟩⟩, hlink⟩

/-- Operators stand in comparisons only. -/
theorem Site.exists_compare {i : Nat} {op : CompareOp} (h : s.compareOps[i]? = some op) :
    ∃ left ops comparators, s.node.shape = .compare left ops comparators := by
  unfold compareOps at h
  split at h
  case h_1 left ops comparators hshape => exact ⟨left, ops, comparators, hshape⟩
  case h_2 => simp at h

theorem Site.compareOps_eq {left : Node} {ops : List CompareOp} {comparators : List Node}
    (h : s.node.shape = .compare left ops comparators) : s.compareOps = ops := by
  rw [compareOps, h]

theorem Site.getElem?_operands {left : Node} {ops : List CompareOp} {comparators : List Node}
    (h : s.node.shape = .compare left ops comparators) (i : Nat) :
    s.operands[i]? = (left :: comparators)[i]?.map s.under := by
  rw [operands, h, ← List.getElem?_map]

/-- Links join the sites of operands that the comparison orders. -/
theorem Site.exists_mem_orderingLinks_iff {p : OrderingLink → Prop} :
    (∃ link ∈ s.orderingLinks, p link) ↔
      ∃ small great, s.node.Orders small great ∧ p ⟨s.under small, s.under great⟩ := by
  constructor
  · rintro ⟨link, hmem, hp⟩
    obtain ⟨i, op, left, right, hop, hleft, hright, hlink⟩ := mem_orderingLinks_iff.mp hmem
    obtain ⟨first, ops, comparators, hshape⟩ := exists_compare hop
    rw [compareOps_eq hshape] at hop
    rw [getElem?_operands hshape] at hleft hright
    obtain ⟨m, hm, rfl⟩ := Option.map_eq_some_iff.mp hleft
    obtain ⟨n, hn, rfl⟩ := Option.map_eq_some_iff.mp hright
    obtain ⟨hordering, hsmall, hgreat⟩ | ⟨hordering, hgreat, hsmall⟩ :=
      OrderingLink.ofOperator?_eq_some_iff.mp hlink
    · exact ⟨m, n, .ascending hshape hop hordering hm hn, by rwa [hsmall, hgreat]⟩
    · exact ⟨n, m, .descending hshape hop hordering hm hn, by rwa [hsmall, hgreat]⟩
  · rintro ⟨small, great, horders, hp⟩
    refine ⟨_, mem_orderingLinks_iff.mpr ?_, hp⟩
    cases horders with
    | @ascending _ _ _ i op _ _ h hop hordering hsmall hgreat =>
      refine ⟨i, op, s.under small, s.under great, by rwa [compareOps_eq h], ?_, ?_, ?_⟩
      · rw [getElem?_operands h, hsmall]
        rfl
      · rw [getElem?_operands h, hgreat]
        rfl
      · exact OrderingLink.ofOperator?_eq_some_iff.mpr (Or.inl ⟨hordering, rfl, rfl⟩)
    | @descending _ _ _ i op _ _ h hop hordering hgreat hsmall =>
      refine ⟨i, op, s.under great, s.under small, by rwa [compareOps_eq h], ?_, ?_, ?_⟩
      · rw [getElem?_operands h, hgreat]
        rfl
      · rw [getElem?_operands h, hsmall]
        rfl
      · exact OrderingLink.ofOperator?_eq_some_iff.mpr (Or.inr ⟨hordering, rfl, rfl⟩)

end Links

/-! ### Counting -/

section Counting

variable {text : Site → String} {compares : List Site} {s c : Site} {t : String}

theorem length_filter_and_lt_iff {α : Type} {p q : α → Bool} {l : List α} :
    (l.filter fun a => p a && q a).length < (l.filter p).length ↔
      ∃ a ∈ l, p a = true ∧ q a = false := by
  have hfilter : (l.filter fun a => p a && q a) = (l.filter p).filter q := by
    rw [List.filter_filter]
    exact List.filter_congr fun a _ => Bool.and_comm _ _
  rw [hfilter, List.length_filter_lt_length_iff_exists]
  simp [and_assoc]

/-- A text is not fine if it is on one side only of some comparison, for both sides. -/
theorem Site.isFineBound_eq_false_iff :
    isFineBound text compares t = false ↔
      (∃ c ∈ compares, c.hasLower text t = true ∧ c.hasUpper text t = false) ∧
        ∃ c ∈ compares, c.hasUpper text t = true ∧ c.hasLower text t = false := by
  have hswap : (compares.filter fun c => c.hasLower text t && c.hasUpper text t) =
      compares.filter fun c => c.hasUpper text t && c.hasLower text t :=
    List.filter_congr fun c _ => Bool.and_comm _ _
  unfold isFineBound
  simp only [Bool.not_eq_false', Bool.and_eq_true, decide_eq_true_eq]
  refine and_congr length_filter_and_lt_iff ?_
  rw [hswap]
  exact length_filter_and_lt_iff

/-- A text on one side of a link is one of the texts that are looked at. -/
theorem Site.mem_boundedTexts_of_hasLower (h : c.hasLower text t = true) :
    t ∈ c.boundedTexts text := by
  obtain ⟨link, hlink, ht⟩ := List.any_eq_true.mp h
  exact List.mem_flatMap.mpr ⟨link, hlink, by simp [eq_of_beq ht]⟩

/-- Bounds are not fine if some text is on the smaller side only of one comparison and on the
greater side only of another one. -/
theorem Site.boundsAreFine_eq_false_iff :
    s.boundsAreFine text = false ↔
      ∃ c₁ ∈ s.joinedCompares, ∃ c₂ ∈ s.joinedCompares, ∃ t,
        (c₁.hasLower text t = true ∧ c₁.hasUpper text t = false) ∧
          c₂.hasUpper text t = true ∧ c₂.hasLower text t = false := by
  rw [boundsAreFine, List.all_eq_false]
  constructor
  · rintro ⟨t, -, hfine⟩
    rw [Bool.not_eq_true, isFineBound_eq_false_iff] at hfine
    obtain ⟨⟨c₁, hc₁, hlower⟩, c₂, hc₂, hupper⟩ := hfine
    exact ⟨c₁, hc₁, c₂, hc₂, t, hlower, hupper⟩
  · rintro ⟨c₁, hc₁, c₂, hc₂, t, hlower, hupper⟩
    refine ⟨t, List.mem_flatMap.mpr ⟨c₁, hc₁, mem_boundedTexts_of_hasLower hlower.1⟩, ?_⟩
    rw [Bool.not_eq_true, isFineBound_eq_false_iff]
    exact ⟨⟨c₁, hc₁, hlower⟩, c₂, hc₂, hupper⟩

end Counting

/-! ### Conditions -/

/-- Among the values of a condition there are two comparisons that could be one chain: a text is on
the smaller side only of the one, and on the greater side only of the other. -/
def HidesChain (text : Node → String) (values : List Node) : Prop :=
  ∃ c₁ ∈ values, ∃ c₂ ∈ values, c₁ ≠ c₂ ∧ ∃ t,
    (c₁.HasSmaller text t ∧ ¬ c₁.HasGreater text t) ∧
      c₂.HasGreater text t ∧ ¬ c₂.HasSmaller text t

section Conditions

variable {text : Node → String} {s c : Site} {t : String}

theorem Site.hasLower_iff :
    c.hasLower (text ∘ Site.node) t = true ↔ c.node.HasSmaller text t := by
  simp only [hasLower, List.any_eq_true, beq_iff_eq, exists_mem_orderingLinks_iff]
  rfl

theorem Site.hasUpper_iff :
    c.hasUpper (text ∘ Site.node) t = true ↔ c.node.HasGreater text t := by
  simp only [hasUpper, List.any_eq_true, beq_iff_eq, exists_mem_orderingLinks_iff]
  rfl

/-- Only comparisons order anything. -/
theorem Node.Orders.kind_eq {c small great : Node} (h : c.Orders small great) :
    c.kind = .compare := by
  cases h with
  | ascending h => rw [Node.kind, h]; rfl
  | descending h => rw [Node.kind, h]; rfl

theorem Site.mem_joinedCompares_iff {op : BooleanOp} {values : List Node}
    (hs : s.node.shape = .boolean op values) :
    c ∈ s.joinedCompares ↔ ∃ v ∈ values, v.kind = .compare ∧ c = s.under v := by
  rw [joinedCompares, hs]
  simp only [List.mem_filter, List.mem_map, beq_iff_eq]
  constructor
  · rintro ⟨⟨v, hv, rfl⟩, hkind⟩
    exact ⟨v, hv, hkind, rfl⟩
  · rintro ⟨v, hv, hkind, rfl⟩
    exact ⟨⟨v, hv, rfl⟩, hkind⟩

theorem Site.boundsAreFine_eq_false_iff_hidesChain (text : Node → String) {op : BooleanOp}
    {values : List Node} (hs : s.node.shape = .boolean op values) :
    s.boundsAreFine (text ∘ Site.node) = false ↔ HidesChain text values := by
  rw [boundsAreFine_eq_false_iff]
  simp only [← Bool.not_eq_true, hasLower_iff, hasUpper_iff]
  constructor
  · rintro ⟨c₁, hc₁, c₂, hc₂, t, hsmall, hgreat⟩
    obtain ⟨v₁, hv₁, -, rfl⟩ := (mem_joinedCompares_iff hs).mp hc₁
    obtain ⟨v₂, hv₂, -, rfl⟩ := (mem_joinedCompares_iff hs).mp hc₂
    have hne : v₁ ≠ v₂ := by
      rintro rfl
      exact hgreat.2 hsmall.1
    exact ⟨v₁, hv₁, v₂, hv₂, hne, t, hsmall, hgreat⟩
  · rintro ⟨v₁, hv₁, v₂, hv₂, -, t, hsmall, hgreat⟩
    obtain ⟨_, _, horders₁, -⟩ := hsmall.1
    obtain ⟨_, _, horders₂, -⟩ := hgreat.1
    have hc₁ := (mem_joinedCompares_iff hs).mpr ⟨v₁, hv₁, horders₁.kind_eq, rfl⟩
    have hc₂ := (mem_joinedCompares_iff hs).mpr ⟨v₂, hv₂, horders₂.kind_eq, rfl⟩
    exact ⟨s.under v₁, hc₁, s.under v₂, hc₂, t, hsmall, hgreat⟩

end Conditions

/-! ### Order and direction -/

/-- The operator that says the same of its operands in the other order. -/
def CompareOp.mirrored : CompareOp → CompareOp
  | lt => gt
  | ltE => gtE
  | gt => lt
  | gtE => ltE
  | op => op

/-- The second comparison is the first one read from its end. -/
inductive Node.Mirrors (c c' : Node) : Prop
  | intro {left ops comparators left' comparators'}
      (h : c.shape = .compare left ops comparators) (hlength : ops.length = comparators.length)
      (h' : c'.shape = .compare left' (ops.reverse.map CompareOp.mirrored) comparators')
      (hoperands : left' :: comparators' = (left :: comparators).reverse)

/-- Two comparisons put the same operands below the same others. -/
def Node.OrdersAlike (c c' : Node) : Prop :=
  ∀ small great, c.Orders small great ↔ c'.Orders small great

section Mirrors

variable {c c' : Node}

theorem CompareOp.mirrored_mirrored (op : CompareOp) : op.mirrored.mirrored = op := by
  cases op <;> rfl

theorem Node.Mirrors.symm (h : c.Mirrors c') : c'.Mirrors c := by
  obtain @⟨left, ops, comparators, left', comparators', hshape, hlength, hshape', hoperands⟩ := h
  have hlengths := congrArg List.length hoperands
  simp only [List.length_reverse, List.length_cons] at hlengths
  have hops : (ops.reverse.map CompareOp.mirrored).reverse.map CompareOp.mirrored = ops := by
    simp [Function.comp_def, CompareOp.mirrored_mirrored]
  refine .intro hshape' ?_ (hops ▸ hshape) ?_
  · rw [List.length_map, List.length_reverse]
    omega
  · rw [hoperands, List.reverse_reverse]

/-- What a comparison orders, its mirror image orders too. -/
theorem Node.Mirrors.orders (h : c.Mirrors c') {small great : Node}
    (horders : c.Orders small great) : c'.Orders small great := by
  obtain @⟨left, ops, comparators, left', comparators', hshape, hlength, hshape', hoperands⟩ := h
  -- a link at place `i` is found at place `j` from the end, with its operands exchanged
  have hlink {i : Nat} {op : CompareOp} {m n : Node} (hop : ops[i]? = some op)
      (hm : (left :: comparators)[i]? = some m) (hn : (left :: comparators)[i + 1]? = some n) :
      ∃ j, (ops.reverse.map CompareOp.mirrored)[j]? = some op.mirrored ∧
        (left' :: comparators')[j]? = some n ∧ (left' :: comparators')[j + 1]? = some m := by
    obtain ⟨hi, -⟩ := List.getElem?_eq_some_iff.mp hop
    obtain ⟨j, hj⟩ : ∃ j, j + i + 1 = ops.length := ⟨ops.length - 1 - i, by omega⟩
    have hlast : (left :: comparators).length = ops.length + 1 := by
      rw [List.length_cons, hlength]
    refine ⟨j, ?_, ?_, ?_⟩
    · rw [List.getElem?_map, List.getElem?_reverse' hj, hop]
      rfl
    · rw [hoperands, List.getElem?_reverse' (by omega : j + (i + 1) + 1 = _), hn]
    · rw [hoperands, List.getElem?_reverse' (by omega : j + 1 + i + 1 = _), hm]
  cases horders with
  | ascending h hop hordering hsmall hgreat =>
    obtain ⟨rfl, rfl, rfl⟩ := Shape.compare.inj (hshape.symm.trans h)
    obtain ⟨j, hop', hgreat', hsmall'⟩ := hlink hop hsmall hgreat
    refine .descending hshape' hop' ?_ hgreat' hsmall'
    rcases hordering with rfl | rfl
    · exact Or.inl rfl
    · exact Or.inr rfl
  | descending h hop hordering hgreat hsmall =>
    obtain ⟨rfl, rfl, rfl⟩ := Shape.compare.inj (hshape.symm.trans h)
    obtain ⟨j, hop', hsmall', hgreat'⟩ := hlink hop hgreat hsmall
    refine .ascending hshape' hop' ?_ hsmall' hgreat'
    rcases hordering with rfl | rfl
    · exact Or.inl rfl
    · exact Or.inr rfl

theorem Node.Mirrors.ordersAlike (h : c.Mirrors c') : c.OrdersAlike c' :=
  fun _ _ => ⟨h.orders, h.symm.orders⟩

theorem Node.OrdersAlike.refl (c : Node) : c.OrdersAlike c :=
  fun _ _ => Iff.rfl

theorem Node.OrdersAlike.symm (h : c.OrdersAlike c') : c'.OrdersAlike c :=
  fun small great => (h small great).symm

theorem Node.OrdersAlike.hasSmaller_iff {text : Node → String} {t : String}
    (h : c.OrdersAlike c') : c.HasSmaller text t ↔ c'.HasSmaller text t := by
  unfold HasSmaller
  simp only [h _ _]

theorem Node.OrdersAlike.hasGreater_iff {text : Node → String} {t : String}
    (h : c.OrdersAlike c') : c.HasGreater text t ↔ c'.HasGreater text t := by
  unfold HasGreater
  simp only [h _ _]

end Mirrors

/-- A hidden chain stays if every comparison has one that orders alike. -/
theorem HidesChain.of_ordersAlike {text : Node → String} {values values' : List Node}
    (hvalues : ∀ c ∈ values, ∃ c' ∈ values', c.OrdersAlike c') (h : HidesChain text values) :
    HidesChain text values' := by
  obtain ⟨c₁, hc₁, c₂, hc₂, -, t, hsmall, hgreat⟩ := h
  obtain ⟨c₁', hc₁', halike₁⟩ := hvalues c₁ hc₁
  obtain ⟨c₂', hc₂', halike₂⟩ := hvalues c₂ hc₂
  rw [halike₁.hasSmaller_iff, halike₁.hasGreater_iff] at hsmall
  rw [halike₂.hasSmaller_iff, halike₂.hasGreater_iff] at hgreat
  have hne : c₁' ≠ c₂' := by
    rintro rfl
    exact hgreat.2 hsmall.1
  exact ⟨c₁', hc₁', c₂', hc₂', hne, t, hsmall, hgreat⟩

theorem HidesChain.of_subset {text : Node → String} {values values' : List Node}
    (hvalues : values ⊆ values') (h : HidesChain text values) : HidesChain text values' :=
  h.of_ordersAlike fun c hc => ⟨c, hvalues hc, .refl c⟩

theorem exists_mem_of_forall₂ {α β : Type} {R : α → β → Prop} {l : List α} {l' : List β}
    (h : List.Forall₂ R l l') : ∀ a ∈ l, ∃ b ∈ l', R a b := by
  induction h with
  | nil => simp
  | cons hab _ ih =>
    rintro x (_ | ⟨_, hx⟩)
    · exact ⟨_, List.mem_cons_self, hab⟩
    · obtain ⟨y, hy, hxy⟩ := ih x hx
      exact ⟨y, List.mem_cons_of_mem _ hy, hxy⟩

/-- Whether comparisons hide a chain does not depend on their directions. -/
theorem hidesChain_iff_of_mirrors {text : Node → String} {values values' : List Node}
    (h : List.Forall₂ (fun c c' => c' = c ∨ c.Mirrors c') values values') :
    HidesChain text values ↔ HidesChain text values' := by
  have halike : List.Forall₂ Node.OrdersAlike values values' :=
    h.imp fun c c' hc => hc.elim (fun heq => heq ▸ .refl c) Node.Mirrors.ordersAlike
  have hback : List.Forall₂ Node.OrdersAlike values' values :=
    (halike.imp fun _ _ => Node.OrdersAlike.symm).flip
  exact ⟨.of_ordersAlike (exists_mem_of_forall₂ halike),
    .of_ordersAlike (exists_mem_of_forall₂ hback)⟩

/-- **Bounds of a condition.** The bounds are not fine exactly if two of the joined comparisons hide
a chain. So it does not matter in which order the comparisons stand, nor in which direction each of
them is written, and if the bounds are not fine, no further values make them so. -/
theorem boundsAreFine_iff_hidesChain (text : Node → String) (s : Site) {op : BooleanOp}
    {values : List Node} (hs : s.node.shape = .boolean op values) :
    (s.boundsAreFine (text ∘ Site.node) = false ↔ HidesChain text values) ∧
      ∀ (s' : Site) (op' : BooleanOp) (values' : List Node),
        s'.node.shape = .boolean op' values' →
        (values.Perm values' →
          s'.boundsAreFine (text ∘ Site.node) = s.boundsAreFine (text ∘ Site.node)) ∧
        (List.Forall₂ (fun c c' => c' = c ∨ c.Mirrors c') values values' →
          s'.boundsAreFine (text ∘ Site.node) = s.boundsAreFine (text ∘ Site.node)) ∧
        (values ⊆ values' → s.boundsAreFine (text ∘ Site.node) = false →
          s'.boundsAreFine (text ∘ Site.node) = false) := by
  have hfine := Site.boundsAreFine_eq_false_iff_hidesChain text hs
  refine ⟨hfine, fun s' op' values' hs' => ?_⟩
  have hfine' := Site.boundsAreFine_eq_false_iff_hidesChain text hs'
  have heq (h : HidesChain text values ↔ HidesChain text values') :
      s'.boundsAreFine (text ∘ Site.node) = s.boundsAreFine (text ∘ Site.node) := by
    rw [Bool.eq_iff_iff, ← not_iff_not, Bool.not_eq_true, Bool.not_eq_true, hfine', hfine]
    exact h.symm
  refine ⟨fun hperm => heq ?_, fun hmirrors => heq (hidesChain_iff_of_mirrors hmirrors), ?_⟩
  · exact ⟨.of_subset hperm.subset, .of_subset hperm.symm.subset⟩
  · intro hsub hfalse
    exact hfine'.mpr (.of_subset hsub (hfine.mp hfalse))

/-- A comparison of two variables. -/
def comparePair (left : String) (op : CompareOp) (right : String) : Node :=
  .mk 0 none (.compare (.mk 0 none (.name left (some .load))) [op]
    [.mk 0 none (.name right (some .load))])

/-- The condition `low < value and value <= high`. -/
def rangeTest : Site :=
  (Node.mk 0 none (.boolean .and
    [comparePair "low" .lt "value", comparePair "value" .ltE "high"])).top

/-- The same condition with its second comparison mirrored: `low < value and high >= value`. -/
def inwardRangeTest : Site :=
  (Node.mk 0 none (.boolean .and
    [comparePair "low" .lt "value", comparePair "high" .gtE "value"])).top

theorem boundsAreFine_iff_hidesChain_rangeTest :
    rangeTest.node.shape =
        .boolean .and [comparePair "low" .lt "value", comparePair "value" .ltE "high"] ∧
      HidesChain (fun n => n.name?.getD "")
        [comparePair "low" .lt "value", comparePair "value" .ltE "high"] ∧
      inwardRangeTest.boundsAreFine ((fun n => n.name?.getD "") ∘ Site.node) =
        rangeTest.boundsAreFine ((fun n => n.name?.getD "") ∘ Site.node) := by
  have hlaws := boundsAreFine_iff_hidesChain (fun n => n.name?.getD "") rangeTest rfl
  refine ⟨rfl, hlaws.1.mp (by decide), ?_⟩
  refine (hlaws.2 inwardRangeTest _ _ rfl).2.1 (.cons (Or.inl rfl) (.cons (Or.inr ?_) .nil))
  exact .intro rfl rfl rfl rfl

end Stricture
