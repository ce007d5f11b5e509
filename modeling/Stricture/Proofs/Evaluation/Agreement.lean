import Stricture.Evaluation
import Stricture.Proofs.Tree.Ancestry

/-!
# Agreement of the two evaluators

`Node.namedValue` takes names for constants, and in sums and after signs it takes truth values for
numbers. On expressions in which neither occurs it does what `Node.literalValue` does: the same
value, or the same failure (`Node.namedValue_eq_literalValue`).

Failures are of few sorts (`Node.error_of_literalValue`). Beside expressions that are not constant
and members that cannot be members there is one more: a whole number may be too large for a sum
with an imaginary number.
-/

namespace Stricture

open Evaluation

/-! ### Expressions on which the evaluators agree -/

/-- A truth value that is written as a constant. -/
def Node.isTruthValue (n : Node) : Bool :=
  match n.literal? with
  | some (.bool _) => true
  | _ => false

/-- The operands of an operation: of a prefix operator, or of one between two operands. -/
def Node.operandNodes (n : Node) : List Node :=
  match n.shape with
  | .unary _ operand => [operand]
  | .binary left _ right => [left, right]
  | _ => []

/-- A dictionary has as many values as keys. -/
def Node.isPaired (n : Node) : Bool :=
  match n.shape with
  | .dict keys values => keys.length == values.length
  | _ => true

/-- No name occurs in the expression, no truth value is an operand in it, and its dictionaries have
as many values as keys. -/
structure Node.IsSpelledOut (n : Node) : Prop where
  nameless : ∀ m ∈ n.walk, m.kind ≠ .name
  noTruthOperand : ∀ m ∈ n.walk, ∀ c ∈ m.operandNodes, c.isTruthValue = false
  paired : ∀ m ∈ n.walk, m.isPaired = true

namespace Node

variable {n c : Node}

theorem IsSpelledOut.child (h : n.IsSpelledOut) (hc : c ∈ n.children) : c.IsSpelledOut where
  nameless m hm := h.nameless m (mem_walk_of_mem_children hc hm)
  noTruthOperand m hm := h.noTruthOperand m (mem_walk_of_mem_children hc hm)
  paired m hm := h.paired m (mem_walk_of_mem_children hc hm)

theorem IsSpelledOut.kind_ne (h : n.IsSpelledOut) : n.kind ≠ .name :=
  h.nameless n n.mem_walk_self

end Node

/-! ### Numbers -/

/-- A plain operand that is neither a name nor a truth value is a number or nothing. -/
theorem plainOperand_eq_plainNumber {n : Node} (hname : n.kind ≠ .name)
    (htruth : n.isTruthValue = false) : plainOperand n = plainNumber n := by
  obtain ⟨id, position, shape⟩ := n
  cases shape with
  | name => exact absurd rfl hname
  | constant literal kind =>
    cases literal with
    | bool b => cases htruth
    | _ => rfl
  | _ => rfl

/-- With or without a sign, an operand that is spelled out is a number or nothing. -/
theorem signedOperand_eq_signedNumber {n : Node} (h : n.IsSpelledOut)
    (htruth : n.isTruthValue = false) : signedOperand n = signedNumber n := by
  have hplain := plainOperand_eq_plainNumber h.kind_ne htruth
  obtain ⟨id, position, shape⟩ := n
  cases shape with
  | unary op operand =>
    have hoperand : operand.IsSpelledOut := h.child List.mem_cons_self
    have hsigned : operand.isTruthValue = false :=
      h.noTruthOperand _ (Node.mem_walk_self _) operand List.mem_cons_self
    simp only [signedOperand, signedNumber, Node.shape]
    rw [plainOperand_eq_plainNumber hoperand.kind_ne hsigned]
  | _ => exact hplain

/-- A sum of operands that are spelled out is a sum of numbers. -/
theorem complexOperand_eq_complexNumber {left right : Node} (op : BinaryOp)
    (hleft : left.IsSpelledOut) (hright : right.IsSpelledOut)
    (hleftTruth : left.isTruthValue = false) (hrightTruth : right.isTruthValue = false) :
    complexOperand left op right = complexNumber left op right := by
  rw [complexOperand, complexNumber, signedOperand_eq_signedNumber hleft hleftTruth,
    plainOperand_eq_plainNumber hright.kind_ne hrightTruth]

/-! ### Containers -/

theorem literalValues_eq_map (ns : List Node) : literalValues ns = ns.map Node.literalValue := by
  induction ns with
  | nil => rw [literalValues]; rfl
  | cons n rest ih => rw [literalValues, ih]; rfl

theorem namedValues_eq_map (ns : List Node) : namedValues ns = ns.map Node.namedValue := by
  induction ns with
  | nil => rw [namedValues]; rfl
  | cons n rest ih => rw [namedValues, ih]; rfl

/-- What an evaluator makes of a key, which may be missing. -/
def keyResult (value : Node → Evaluation.Result) : Option Node → Evaluation.Result
  | none => .error .notConstant
  | some n => value n

theorem literalKeys_eq_map (keys : List (Option Node)) :
    literalKeys keys = keys.map (keyResult Node.literalValue) := by
  induction keys with
  | nil => rw [literalKeys]; rfl
  | cons key rest ih => cases key <;> rw [literalKeys, ih] <;> rfl

theorem namedKeys_eq_map (keys : List (Option Node)) :
    namedKeys keys = keys.map (keyResult Node.namedValue) := by
  induction keys with
  | nil => rw [namedKeys]; rfl
  | cons key rest ih => cases key <;> rw [namedKeys, ih] <;> rfl

theorem namedValues_eq_literalValues {ns : List Node}
    (h : ∀ n ∈ ns, n.namedValue = n.literalValue) : namedValues ns = literalValues ns := by
  rw [namedValues_eq_map, literalValues_eq_map]
  exact List.map_congr_left h

theorem namedKeys_eq_literalKeys {keys : List (Option Node)}
    (h : ∀ n, some n ∈ keys → n.namedValue = n.literalValue) :
    namedKeys keys = literalKeys keys := by
  rw [namedKeys_eq_map, literalKeys_eq_map]
  refine List.map_congr_left fun key hkey => ?_
  cases key with
  | none => rfl
  | some n => exact h n hkey

/-! ### Agreement -/

/-- **The two evaluators agree** on every expression that is spelled out. -/
theorem Node.namedValue_eq_literalValue {n : Node} (h : n.IsSpelledOut) :
    n.namedValue = n.literalValue := by
  induction n using Node.childInduction with
  | step n ih =>
    have hchild (c : Node) (hc : c ∈ n.children) : c.namedValue = c.literalValue :=
      ih c hc (h.child hc)
    have hself : n.isTruthValue = false → signedOperand n = signedNumber n :=
      signedOperand_eq_signedNumber h
    obtain ⟨id, position, shape⟩ := n
    cases shape with
    | constant value kind => rw [namedValue, literalValue]
    | tuple elements usage =>
      have helements : namedValues elements = literalValues elements :=
        namedValues_eq_literalValues hchild
      rw [namedValue, literalValue, helements]
    | list elements usage =>
      have helements : namedValues elements = literalValues elements :=
        namedValues_eq_literalValues hchild
      rw [namedValue, literalValue, helements]
    | setOf elements =>
      have helements : namedValues elements = literalValues elements :=
        namedValues_eq_literalValues hchild
      rw [namedValue, literalValue, helements]
    | dict keys values =>
      have hkeys : namedKeys keys = literalKeys keys := namedKeys_eq_literalKeys fun k hk =>
        hchild k (List.mem_append_left _ (List.mem_filterMap.mpr ⟨some k, hk, rfl⟩))
      have hvalues : namedValues values = literalValues values :=
        namedValues_eq_literalValues fun v hv => hchild v (List.mem_append_right _ hv)
      have hlength : keys.length = values.length := by
        simpa [isPaired, Node.shape] using h.paired _ (mem_walk_self _)
      rw [namedValue, literalValue, if_pos hlength, hkeys, hvalues]
    | call func args keywords =>
      -- the one call with a value needs the name of a constructor
      have hfunc : func.name? = none := by
        have hkind : func.kind ≠ .name := (h.child List.mem_cons_self).kind_ne
        unfold name?
        split
        case h_1 hname => exact absurd (by rw [Node.kind, hname]; rfl) hkind
        case h_2 => rfl
      rw [namedValue, literalValue, isEmptySetCall, hfunc]
      · rfl
      all_goals simp
    | binary left op right =>
      have htruth := h.noTruthOperand _ (mem_walk_self _)
      rw [namedValue, literalValue,
        complexOperand_eq_complexNumber op (h.child List.mem_cons_self)
          (h.child (List.mem_cons_of_mem _ List.mem_cons_self))
          (htruth left List.mem_cons_self)
          (htruth right (List.mem_cons_of_mem _ List.mem_cons_self))]
    | _ => exact hself rfl

/-! ### Failures -/

/-- A sum or difference of a whole number and an imaginary one, the first too large for a double. -/
def Node.OverflowsSum (n : Node) : Prop :=
  ∃ left op right k x, n.shape = .binary left op right ∧ (op = .add ∨ op = .sub) ∧
    signedNumber left = .ok (.int k) ∧ Double.ofInt? k = none ∧
    right.literal? = some (.imaginary x)

/-- The failures that an expression can have: it is not constant, it has a member that cannot be
one, or it has a sum with a number that is too large. -/
inductive Node.FailsWith (n : Node) : EvaluationError → Prop
  | notConstant : n.FailsWith .notConstant
  | notKey : n.FailsWith .notKey
  | tooLarge {m : Node} (hm : m ∈ n.walk) (h : m.OverflowsSum) : n.FailsWith .tooLarge

/-- The failure of a child is one of its parent. -/
theorem Node.FailsWith.of_child {n c : Node} {e : EvaluationError} (hc : c ∈ n.children)
    (h : c.FailsWith e) : n.FailsWith e := by
  cases h with
  | notConstant => exact .notConstant
  | notKey => exact .notKey
  | tooLarge hm hsum => exact .tooLarge (mem_walk_of_mem_children hc hm) hsum

/-- A number without a sign is a whole, a real or an imaginary one. -/
theorem plainNumber_cases (n : Node) :
    plainNumber n = .error .notConstant ∨
      ∃ literal, n.literal? = some literal ∧ literal.isNumber = true ∧
        plainNumber n = .ok (.ofLiteral literal) := by
  unfold plainNumber
  split
  case h_1 literal hliteral =>
    by_cases hnumber : literal.isNumber = true
    · exact Or.inr ⟨literal, hliteral, hnumber, if_pos hnumber⟩
    · exact Or.inl (if_neg hnumber)
  case h_2 => exact Or.inl rfl

/-- A sign can stand before every number. -/
theorem applySign_isOk {literal : Literal} (h : literal.isNumber = true) (op : UnaryOp) :
    ∃ v, applySign op (.ofLiteral literal) = .ok v := by
  cases literal with
  | int n => exact ⟨_, rfl⟩
  | float x => exact ⟨_, rfl⟩
  | imaginary x => exact ⟨_, rfl⟩
  | _ => cases h

theorem error_of_plainNumber {n : Node} {e : EvaluationError} (h : plainNumber n = .error e) :
    e = .notConstant := by
  rcases plainNumber_cases n with hn | ⟨literal, -, -, hn⟩
  · rw [hn] at h
    exact (Except.error.inj h).symm
  · rw [hn] at h
    cases h

theorem error_of_signedNumber {n : Node} {e : EvaluationError} (h : signedNumber n = .error e) :
    e = .notConstant := by
  unfold signedNumber at h
  split at h
  case h_1 op operand hshape =>
    split at h
    case isTrue =>
      rcases plainNumber_cases operand with hn | ⟨literal, -, hnumber, hn⟩
      · rw [hn] at h
        exact (Except.error.inj h).symm
      · obtain ⟨v, hv⟩ := applySign_isOk hnumber op
        rw [hn, Except.bind, hv] at h
        cases h
    case isFalse => exact (Except.error.inj h).symm
  case h_2 => exact error_of_plainNumber h

/-- A real part can only be missing because a whole number is too large. -/
theorem realPart_eq_error {v : Value} {e : EvaluationError}
    (h : Evaluation.realPart v = some (.error e)) :
    e = .tooLarge ∧ ∃ k, v = .int k ∧ Double.ofInt? k = none := by
  cases v with
  | int k =>
    simp only [Evaluation.realPart, Option.some.injEq] at h
    split at h
    case h_1 => cases h
    case h_2 hnone => exact ⟨(Except.error.inj h).symm, k, rfl, hnone⟩
  | bool b => cases h
  | float x => cases h
  | _ => cases h

theorem error_of_addImaginary {op : BinaryOp} {v w : Value} {e : EvaluationError}
    (h : addImaginary op v w = .error e) :
    e = .notConstant ∨
      e = .tooLarge ∧ ∃ k x y, v = .int k ∧ Double.ofInt? k = none ∧ w = .complex x y := by
  unfold addImaginary at h
  split at h
  case h_1 hpart =>
    obtain ⟨rfl, k, hv, hk⟩ := realPart_eq_error hpart
    exact Or.inr ⟨(Except.error.inj h).symm, k, _, _, hv, hk, rfl⟩
  case h_2 => split at h <;> cases h
  case h_3 => exact Or.inl (Except.error.inj h).symm

theorem complexNumber_failsWith {n left right : Node} {op : BinaryOp} {e : EvaluationError}
    (hshape : n.shape = .binary left op right) (h : complexNumber left op right = .error e) :
    n.FailsWith e := by
  unfold complexNumber at h
  split at h
  case isFalse =>
    obtain rfl := Except.error.inj h
    exact .notConstant
  case isTrue hop =>
    cases hleft : signedNumber left with
    | error e' =>
      rw [hleft] at h
      obtain rfl := Except.error.inj h
      rw [error_of_signedNumber hleft]
      exact .notConstant
    | ok v =>
      rcases plainNumber_cases right with hright | ⟨literal, hliteral, hnumber, hright⟩
      · rw [hleft, hright] at h
        obtain rfl := Except.error.inj h
        exact .notConstant
      · rw [hleft, hright] at h
        rcases error_of_addImaginary h with rfl | ⟨rfl, k, x, y, rfl, hk, hw⟩
        · exact .notConstant
        · -- only the imaginary numbers among the literals have a complex value
          obtain ⟨z, rfl⟩ : ∃ z, literal = .imaginary z := by
            cases literal with
            | imaginary z => exact ⟨z, rfl⟩
            | _ => cases hw
          exact .tooLarge n.mem_walk_self ⟨left, op, right, k, z, hshape, hop, hleft, hk, hliteral⟩

theorem eq_error_of_map_eq_error {α β : Type} {f : α → β} {r : Except EvaluationError α}
    {e : EvaluationError} (h : r.map f = .error e) : r = .error e := by
  cases r with
  | error e' => exact congrArg Except.error (Except.error.inj h)
  | ok a => cases h

theorem error_mem_of_collect {results : List Evaluation.Result} {e : EvaluationError}
    (h : collect results = .error e) : .error e ∈ results := by
  fun_induction collect results with
  | case1 => cases h
  | case2 e' rest =>
    obtain rfl := Except.error.inj h
    exact List.mem_cons_self
  | case3 v rest ih => exact List.mem_cons_of_mem _ (ih (eq_error_of_map_eq_error h))

theorem error_mem_of_collectSet {members : List Value} {results : List Evaluation.Result}
    {e : EvaluationError} (h : collectSet members results = .error e) :
    e = .notKey ∨ .error e ∈ results := by
  fun_induction collectSet members results with
  | case1 => cases h
  | case2 members e' rest =>
    obtain rfl := Except.error.inj h
    exact Or.inr List.mem_cons_self
  | case3 members v rest hkey ih => exact (ih h).imp_right (List.mem_cons_of_mem _)
  | case4 members v rest hkey => exact Or.inl (Except.error.inj h).symm

theorem error_mem_of_collectDict {entries : List (Value × Value)}
    {keys values : List Evaluation.Result} {e : EvaluationError}
    (h : collectDict entries keys values = .error e) :
    e = .notKey ∨ .error e ∈ keys ∨ .error e ∈ values := by
  fun_induction collectDict entries keys values with
  | case1 => cases h
  | case2 entries e' keys values =>
    obtain rfl := Except.error.inj h
    exact Or.inr (Or.inl List.mem_cons_self)
  | case3 => cases h
  | case4 entries k keys e' values =>
    obtain rfl := Except.error.inj h
    exact Or.inr (Or.inr List.mem_cons_self)
  | case5 entries k keys v values hkey ih =>
    rcases ih h with hnot | hkeys | hvalues
    · exact Or.inl hnot
    · exact Or.inr (Or.inl (List.mem_cons_of_mem _ hkeys))
    · exact Or.inr (Or.inr (List.mem_cons_of_mem _ hvalues))
  | case6 entries k keys v values hkey => exact Or.inl (Except.error.inj h).symm

/-- **An evaluation fails for a reason**: those that are listed, and no other. -/
theorem Node.failsWith_of_literalValue {n : Node} {e : EvaluationError}
    (h : n.literalValue = .error e) : n.FailsWith e := by
  induction n using Node.childInduction generalizing e with
  | step n ih =>
    have hchild {c : Node} {e : EvaluationError} (hc : c ∈ n.children)
        (he : c.literalValue = .error e) : n.FailsWith e := (ih c hc he).of_child hc
    have hmem {cs : List Node} {e : EvaluationError} (hcs : ∀ c ∈ cs, c ∈ n.children)
        (he : .error e ∈ literalValues cs) : n.FailsWith e := by
      rw [literalValues_eq_map] at he
      obtain ⟨c, hc, he⟩ := List.mem_map.mp he
      exact hchild (hcs c hc) he
    have hnumber {e : EvaluationError} (he : signedNumber n = .error e) : n.FailsWith e := by
      rw [error_of_signedNumber he]
      exact .notConstant
    obtain ⟨id, position, shape⟩ := n
    cases shape with
    | constant value kind =>
      rw [literalValue] at h
      cases h
    | tuple elements usage =>
      rw [literalValue] at h
      exact hmem (fun c hc => hc) (error_mem_of_collect (eq_error_of_map_eq_error h))
    | list elements usage =>
      rw [literalValue] at h
      exact hmem (fun c hc => hc) (error_mem_of_collect (eq_error_of_map_eq_error h))
    | setOf elements =>
      rw [literalValue] at h
      rcases error_mem_of_collectSet (eq_error_of_map_eq_error h) with rfl | he
      · exact .notKey
      · exact hmem (fun c hc => hc) he
    | dict keys values =>
      rw [literalValue] at h
      split at h
      case isFalse =>
        obtain rfl := Except.error.inj h
        exact .notConstant
      case isTrue =>
        rcases error_mem_of_collectDict (eq_error_of_map_eq_error h) with rfl | he | he
        · exact .notKey
        · rw [literalKeys_eq_map] at he
          obtain ⟨key, hkey, he⟩ := List.mem_map.mp he
          cases key with
          | none =>
            obtain rfl := Except.error.inj he
            exact .notConstant
          | some k =>
            exact hchild (List.mem_append_left _ (List.mem_filterMap.mpr ⟨some k, hkey, rfl⟩)) he
        · exact hmem (fun c hc => List.mem_append_right _ hc) he
    | call func args keywords =>
      rw [literalValue] at h
      split at h
      case isTrue => cases h
      case isFalse =>
        obtain rfl := Except.error.inj h
        exact .notConstant
    | binary left op right =>
      rw [literalValue] at h
      exact complexNumber_failsWith rfl h
    | _ => exact hnumber h

/-- **Agreement of the evaluators.** On an expression without names, without truth values as
operands and with as many values as keys in its dictionaries, both evaluators give the same value or
the same failure. A failure is one of three: the expression is not constant, it has a member that
cannot be one, or it has a sum with a number that is too large. -/
theorem namedValue_agrees_literalValue (n : Node) (h : n.IsSpelledOut) :
    (∃ v, n.namedValue = .ok v ∧ n.literalValue = .ok v) ∨
      ∃ e, n.namedValue = .error e ∧ n.literalValue = .error e ∧ n.FailsWith e := by
  rw [Node.namedValue_eq_literalValue h]
  cases hvalue : n.literalValue with
  | ok v => exact Or.inl ⟨v, rfl, rfl⟩
  | error e => exact Or.inr ⟨e, rfl, rfl, Node.failsWith_of_literalValue hvalue⟩

/-- A dictionary of readings: `{'low': (-2.5, 3 - 4j), 'all': [None, {1}]}`. -/
def readings : Node :=
  .mk 0 (some ⟨1, 0⟩) (.dict
    [some (.mk 1 (some ⟨1, 1⟩) (.constant (.text "low") none)),
      some (.mk 2 (some ⟨1, 24⟩) (.constant (.text "all") none))]
    [.mk 3 (some ⟨1, 8⟩) (.tuple
      [.mk 4 (some ⟨1, 9⟩) (.unary .minus
        (.mk 5 (some ⟨1, 10⟩) (.constant (.float (.finite false 5 (-1))) none))),
      .mk 6 (some ⟨1, 15⟩) (.binary (.mk 7 (some ⟨1, 15⟩) (.constant (.int 3) none)) .sub
        (.mk 8 (some ⟨1, 19⟩) (.constant (.imaginary (.finite false 1 2)) none)))] (some .load)),
    .mk 9 (some ⟨1, 31⟩) (.list
      [.mk 10 (some ⟨1, 32⟩) (.constant .none none),
      .mk 11 (some ⟨1, 38⟩) (.setOf [.mk 12 (some ⟨1, 39⟩) (.constant (.int 1) none)])]
      (some .load))])

theorem namedValue_agrees_literalValue_readings : readings.IsSpelledOut ∧
    ((∃ v, readings.namedValue = .ok v ∧ readings.literalValue = .ok v) ∨
      ∃ e, readings.namedValue = .error e ∧ readings.literalValue = .error e ∧
        readings.FailsWith e) := by
  have h : readings.IsSpelledOut := ⟨by decide, by decide, by decide⟩
  exact ⟨h, namedValue_agrees_literalValue readings h⟩

/-- The sum of a whole number and the imaginary unit. -/
def sumWithUnit (k : Int) : Node :=
  .mk 0 (some ⟨1, 0⟩) (.binary (.mk 1 (some ⟨1, 0⟩) (.constant (.int k) none)) .add
    (.mk 2 (some ⟨1, 312⟩) (.constant (.imaginary (.finite false 1 0)) none)))

theorem sumWithUnit_fails {k : Int} (h : Double.ofInt? k = none) :
    (sumWithUnit k).namedValue = .error .tooLarge ∧
      (sumWithUnit k).literalValue = .error .tooLarge := by
  have hsum : addImaginary .add (.int k) (.complex (.finite false 0 0) (.finite false 1 0)) =
      .error .tooLarge := by
    simp only [addImaginary, Evaluation.realPart, h]
  exact ⟨hsum, hsum⟩

/-- The sum of a whole number past the range of doubles and the imaginary unit. -/
def hugeSum : Node :=
  sumWithUnit (Int.ofNat (Nat.pow 2 1024))

theorem hugeSum_fails : hugeSum.namedValue = .error .tooLarge ∧
    hugeSum.literalValue = .error .tooLarge :=
  sumWithUnit_fails (by decide +kernel)

/-- A dictionary with a value and no key. -/
def keylessValue : Node :=
  .mk 0 (some ⟨1, 0⟩) (.dict [] [.mk 1 (some ⟨1, 1⟩) (.constant (.int 1) none)])

/-- Without names and truth values as operands there are still failures of a third sort, and a
dictionary without a key for each value has a value for one of the evaluators only. -/
theorem namedValue_departs_literalValue :
    ((∀ m ∈ hugeSum.walk, m.kind ≠ .name) ∧
      (∀ m ∈ hugeSum.walk, ∀ c ∈ m.operandNodes, c.isTruthValue = false) ∧
      hugeSum.namedValue = .error .tooLarge ∧ hugeSum.literalValue = .error .tooLarge) ∧
    (∀ m ∈ keylessValue.walk, m.kind ≠ .name) ∧
      (∀ m ∈ keylessValue.walk, ∀ c ∈ m.operandNodes, c.isTruthValue = false) ∧
      keylessValue.namedValue = .ok (.dict []) ∧
      keylessValue.literalValue = .error .notConstant :=
  ⟨⟨by decide, by decide, hugeSum_fails⟩, by decide, by decide, rfl, rfl⟩

end Stricture
