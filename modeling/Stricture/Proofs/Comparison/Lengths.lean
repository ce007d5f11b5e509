import Stricture.Proofs.Comparison.Bounds
import Stricture.Proofs.Comparison.Order
import Stricture.Proofs.Display.Duplicates

/-!
# Lengths in comparisons

To compare a length with zero, or in some ways with one, only asks whether there is anything at all.
The check looks at the lengths of a chain of comparisons one after the other, and holds against each
the operand at an index that counts from the end of the chain. The index is always in range
(`isSome_pick?_iff`). It leads to the operand right after the length, except for a length that
stands last: there the index is zero, and the operand is the second one of the chain
(`partnerPlace`). In chains of three or more operators that one is no neighbour.
-/

namespace Stricture

open Rules Evaluation

/-! ### Numbers that are written out -/

/-- A number, with or without a sign, that equals the given whole number. -/
inductive Node.IsNumeral (n : Node) (k : Int) : Prop
  | plain {literal : Literal} (h : n.literal? = some literal) (hnumber : literal.isNumber = true)
      (hk : literal.isWhole k = true) : n.IsNumeral k
  | plus {operand : Node} {literal : Literal} (h : n.shape = .unary .plus operand)
      (hliteral : operand.literal? = some literal) (hnumber : literal.isNumber = true)
      (hk : literal.isWhole k = true) : n.IsNumeral k
  | minus {operand : Node} {literal : Literal} (h : n.shape = .unary .minus operand)
      (hliteral : operand.literal? = some literal) (hnumber : literal.isNumber = true)
      (hk : literal.isWhole (-k) = true) : n.IsNumeral k

theorem Double.sameInt_zero (x : Double) : x.sameInt 0 = x.isZero := by
  cases x with
  | finite negative m e =>
    by_cases hm : m = 0
    · simp [sameInt, isZero, hm]
    · have hpos : 0 < m * Nat.pow 2 e.toNat :=
        Nat.mul_pos (Nat.pos_of_ne_zero hm) (Nat.two_pow_pos e.toNat)
      have hne : (0 : Int) ≠ (if negative then -1 else 1) * (m * Nat.pow 2 e.toNat : Nat) := by
        cases negative with
        | true => simp only [if_true]; omega
        | false => simp only [Bool.false_eq_true, if_false]; omega
      simp only [sameInt, isZero]
      rw [if_neg hm, beq_eq_false_iff_ne.mpr hne, beq_eq_false_iff_ne.mpr hm, Bool.and_false]
  | infinite negative => rfl
  | undefined => rfl

namespace Value

variable {literal : Literal}

theorem sameNumber_ofLiteral (h : literal.isNumber = true) (k : Int) :
    (ofLiteral literal).sameNumber (.int k) = literal.isWhole k := by
  cases literal with
  | int m => exact Bool.and_true _
  | float x => exact Bool.and_true _
  | imaginary x =>
    show ((Double.finite false 0 0).sameInt k && x.sameInt 0) = (x.isZero && k == 0)
    rw [x.sameInt_zero, Bool.and_comm]
    rfl
  | _ => cases h

theorem sameNumber_negated (h : literal.isNumber = true) (k : Int) :
    (ofLiteral literal).negated.sameNumber (.int k) = literal.isWhole (-k) := by
  have hother : (Literal.int (-k)).isNumber = true := rfl
  have hopposite : (ofLiteral (.int (-k))).negated = .int k := congrArg int (Int.neg_neg k)
  have hsome : (ofLiteral literal).negated.number?.isSome = true := by
    rw [number?_negated h, Option.isSome_map]
    exact number?_ofLiteral h
  calc (ofLiteral literal).negated.sameNumber (.int k)
      = (ofLiteral literal).negated.same (.int k) := (same_eq_sameNumber hsome _).symm
    _ = (ofLiteral literal).same (ofLiteral (.int (-k))) := by
        rw [← hopposite, same_negated h hother]
    _ = (ofLiteral literal).sameNumber (.int (-k)) := same_eq_sameNumber (number?_ofLiteral h) _
    _ = literal.isWhole (-k) := sameNumber_ofLiteral h (-k)

end Value

section Numerals

variable {n : Node} {k : Int}

theorem applySign_plus {literal : Literal} (h : literal.isNumber = true) :
    applySign .plus (.ofLiteral literal) = .ok (.ofLiteral literal) := by
  cases literal with
  | int | float | imaginary => rfl
  | _ => cases h

theorem applySign_minus {literal : Literal} (h : literal.isNumber = true) :
    applySign .minus (.ofLiteral literal) = .ok (Value.ofLiteral literal).negated := by
  cases literal with
  | int | float | imaginary => rfl
  | _ => cases h

theorem plainNumber_eq {literal : Literal} (h : n.literal? = some literal)
    (hnumber : literal.isNumber = true) : plainNumber n = .ok (.ofLiteral literal) := by
  rw [plainNumber, h]
  exact if_pos hnumber

/-- The number of a numeral, as the check reads it. -/
theorem Node.IsNumeral.exists_value (h : n.IsNumeral k) :
    ∃ v, n.literalValue = .ok v ∧ v.sameNumber (.int k) = true := by
  obtain ⟨i, position, shape⟩ := n
  cases h with
  | @plain literal h hnumber hk =>
    cases shape with
    | constant value kind =>
      obtain rfl : value = literal := Option.some.inj h
      exact ⟨_, rfl, (Value.sameNumber_ofLiteral hnumber k).trans hk⟩
    | _ => cases h
  | @plus operand literal h hliteral hnumber hk =>
    obtain rfl : shape = .unary .plus operand := h
    refine ⟨.ofLiteral literal, ?_, (Value.sameNumber_ofLiteral hnumber k).trans hk⟩
    show (plainNumber operand).bind (applySign .plus) = _
    rw [plainNumber_eq hliteral hnumber]
    exact applySign_plus hnumber
  | @minus operand literal h hliteral hnumber hk =>
    obtain rfl : shape = .unary .minus operand := h
    refine ⟨(Value.ofLiteral literal).negated, ?_, (Value.sameNumber_negated hnumber k).trans hk⟩
    show (plainNumber operand).bind (applySign .minus) = _
    rw [plainNumber_eq hliteral hnumber]
    exact applySign_minus hnumber

theorem Node.IsNumeral.looks (h : n.IsNumeral k) : (n.isNumber || n.kind == .unary) = true := by
  cases h with
  | plain h hnumber =>
    rw [Node.isNumber, h, Option.any_some, hnumber]
    rfl
  | plus h | minus h =>
    rw [Node.kind, h]
    exact Bool.or_true _

theorem isSign_iff {op : UnaryOp} : isSign op = true ↔ op = .plus ∨ op = .minus := by
  rw [isSign, Bool.or_eq_true, beq_iff_eq, beq_iff_eq]

theorem Node.isNumeral_of_sign {op : UnaryOp} {operand : Node} {v : Value}
    (h : n.shape = .unary op operand) (hv : signedNumber n = .ok v)
    (hk : v.sameNumber (.int k) = true) : n.IsNumeral k := by
  rw [signedNumber, h] at hv
  dsimp only at hv
  split at hv
  case isFalse => cases hv
  case isTrue hsign =>
    rcases plainNumber_cases operand with hplain | ⟨literal, hliteral, hnumber, hplain⟩
    · rw [hplain] at hv
      cases hv
    · rw [hplain] at hv
      rcases isSign_iff.mp hsign with rfl | rfl
      · obtain rfl := Except.ok.inj ((applySign_plus hnumber).symm.trans hv)
        rw [Value.sameNumber_ofLiteral hnumber] at hk
        exact .plus h hliteral hnumber hk
      · obtain rfl := Except.ok.inj ((applySign_minus hnumber).symm.trans hv)
        rw [Value.sameNumber_negated hnumber] at hk
        exact .minus h hliteral hnumber hk

/-- Among all that looks like a number, only numerals are read as whole numbers. -/
theorem Node.isNumeral_of_literalValue {v : Value}
    (hlooks : (n.isNumber || n.kind == .unary) = true) (hv : n.literalValue = .ok v)
    (hk : v.sameNumber (.int k) = true) : n.IsNumeral k := by
  rcases (Bool.or_eq_true _ _).mp hlooks with hnumber | hkind
  · obtain ⟨literal, hliteral, hnumber⟩ := (Option.any_eq_true _ _).mp hnumber
    refine .plain hliteral hnumber ?_
    obtain ⟨i, position, shape⟩ := n
    cases shape with
    | constant value kind =>
      obtain rfl : value = literal := Option.some.inj hliteral
      obtain rfl : Value.ofLiteral value = v := Except.ok.inj hv
      exact (Value.sameNumber_ofLiteral hnumber k).symm.trans hk
    | _ => cases hliteral
  · obtain ⟨op, operand, hshape⟩ := exists_unary (beq_iff_eq.mp hkind)
    obtain ⟨i, position, shape⟩ := n
    obtain rfl : shape = .unary op operand := hshape
    exact isNumeral_of_sign rfl hv hk

/-- **When a length is of no use against an operand**: it is zero, or it is one, by some
operators. -/
theorem isUsefulLength_eq_false_iff {op : CompareOp} :
    isUsefulLength op n = .ok false ↔
      n.IsNumeral 0 ∨ n.IsNumeral 1 ∧ (op = .gtE ∨ op = .lt) := by
  have hiff (v : Value) (hlooks : (n.isNumber || n.kind == .unary) = true)
      (hv : n.literalValue = .ok v) (k : Int) : v.sameNumber (.int k) = true ↔ n.IsNumeral k := by
    constructor
    · exact Node.isNumeral_of_literalValue hlooks hv
    · intro h
      obtain ⟨w, hw, hk⟩ := h.exists_value
      rwa [Except.ok.inj (hv.symm.trans hw)]
  unfold isUsefulLength
  split
  case isTrue hlooks =>
    cases hv : n.literalValue with
    | error e =>
      constructor
      · intro h
        cases h
      · rintro (h | ⟨h, -⟩)
        all_goals
          obtain ⟨w, hw, -⟩ := h.exists_value
          rw [hv] at hw
          cases hw
    | ok v =>
      rw [← hiff v hlooks hv 0, ← hiff v hlooks hv 1]
      dsimp only [bind, Except.bind, pure, Except.pure]
      split
      case isTrue hzero => exact iff_of_true rfl (.inl hzero)
      case isFalse hzero =>
        rw [or_iff_right hzero]
        split
        case isTrue hone =>
          rw [and_iff_right hone, Except.ok.injEq, Bool.not_eq_false', Bool.or_eq_true, beq_iff_eq,
            beq_iff_eq]
        case isFalse hone => exact iff_of_false (fun h => nomatch h) fun h => hone h.1
  case isFalse hlooks =>
    constructor
    · intro h
      cases h
    · rintro (h | ⟨h, -⟩)
      all_goals exact absurd h.looks hlooks

end Numerals

/-! ### Places in a chain -/

section Places

variable {α : Type} {items : List α} {count place : Nat}

/-- The item at an index. A negative index counts from the end. -/
def pick? (items : List α) (index : Int) : Option α :=
  if 0 ≤ index then items[index.toNat]?
  else if -(items.length : Int) ≤ index then items[(items.length + index).toNat]?
  else none

theorem isSome_pick?_iff {index : Int} :
    (pick? items index).isSome = true ↔ -(items.length : Int) ≤ index ∧ index < items.length := by
  unfold pick?
  split
  case isTrue hpos =>
    rw [isSome_getElem?]
    omega
  case isFalse hneg =>
    split
    case isTrue hlow =>
      rw [isSome_getElem?]
      omega
    case isFalse hlow =>
      rw [Option.isSome_none]
      exact iff_of_false Bool.false_ne_true fun h => hlow h.1

/-- What belongs to a length is picked by an index that counts from the end. For a length that
stands last it is zero, and so it does not count from the end any more. -/
theorem lengthPartner?_eq_pick? (hplace : place ≤ count) :
    lengthPartner? items count place = pick? items ((place : Int) - count) := by
  unfold lengthPartner? pick?
  split
  case isTrue hlt =>
    rw [if_neg (by omega)]
    split
    case isTrue hlow =>
      rw [List.getElem?_reverse (by omega)]
      congr 1
      omega
    case isFalse hlow =>
      rw [List.getElem?_eq_none]
      rw [List.length_reverse]
      omega
  case isFalse hlast =>
    obtain rfl : place = count := by omega
    rw [if_pos (by omega), Int.sub_self, List.head?_eq_getElem?]
    rfl

/-- The place of the operand that is held against a length: the next one, or the second of the chain
if the length stands last. -/
def partnerPlace (count place : Nat) : Nat :=
  if place < count then place + 1 else 1

theorem lengthPartner?_eq_getElem? (hitems : items.length = count) :
    lengthPartner? items count place = items[partnerPlace count place - 1]? := by
  unfold lengthPartner? partnerPlace
  split
  case isTrue hlt =>
    rw [List.getElem?_reverse (by omega)]
    congr 1
    omega
  case isFalse => exact List.head?_eq_getElem?

theorem one_le_partnerPlace (count place : Nat) : 1 ≤ partnerPlace count place := by
  unfold partnerPlace
  split <;> omega

/-- A neighbour is held against a length, unless the length stands last and is the only one after
the first operand, or has at least two others between. -/
theorem partnerPlace_cases (hplace : place ≤ count) :
    partnerPlace count place = place + 1 ∨ place = partnerPlace count place + 1 ∨
      place = count ∧ partnerPlace count place = 1 ∧ (count ≤ 1 ∨ 3 ≤ count) := by
  unfold partnerPlace
  split <;> omega

end Places

/-! ### The lengths of one chain -/

/-- A call of what the printer writes as the given text. -/
def Node.IsCallOf (n : Node) (printer : Printer) (text : String) : Prop :=
  ∃ func args keywords line, n.shape = .call func args keywords ∧
    printer.node Precedence.tightest func = .ok line ∧ Text.strip line = text

/-- A call of the name `len`. -/
def Node.CallsLen (n : Node) : Prop :=
  ∃ func args keywords, n.shape = .call func args keywords ∧ func.name? = some "len"

/-- A printer that writes names as they are shows the calls of this name. -/
theorem Node.CallsLen.isCallOf {n : Node} (h : n.CallsLen) {printer : Printer}
    (hprinter : printer.WritesNames) : n.IsCallOf printer "len" := by
  obtain ⟨func, args, keywords, hshape, hname⟩ := h
  exact ⟨func, args, keywords, "len", hshape, hprinter _ func "len" hname, rfl⟩

/-- The operand of a chain at a place is zero, or it is one and the operator before it only asks
whether there is anything. -/
def AsksForAny (ops : List CompareOp) (operands : List Node) (place : Nat) : Prop :=
  ∃ op right, ops[place - 1]? = some op ∧ operands[place]? = some right ∧
    (right.IsNumeral 0 ∨ right.IsNumeral 1 ∧ (op = .gtE ∨ op = .lt))

/-- What is said about the length at a place. -/
def lengthReport (n : Node) (ops : List CompareOp) (rights : List Node) (place : Nat) : Report :=
  match isUsefulLengthAt ops rights place with
  | .error fault => .stopped fault
  | .ok isUseful => .ofFindings (reportIf (!isUseful) (Violation.uselessLenCompare.atNode n))

section Chain

variable {q : Program} {seen : Rendered} {s t : Site} {left : Node} {ops : List CompareOp}
  {rights : List Node} {place : Nat} {rest : List Site}

/-- Within a chain there is always something to hold against a length. -/
theorem exists_partners (hlength : ops.length = rights.length) (hne : ops ≠ [])
    (hplace : place ≤ rights.length) :
    ∃ op right, lengthPartner? ops rights.length place = some op ∧
      lengthPartner? rights rights.length place = some right := by
  have hpos : 0 < ops.length := List.length_pos_iff.mpr hne
  have hop : (lengthPartner? ops rights.length place).isSome = true := by
    rw [lengthPartner?_eq_pick? hplace, isSome_pick?_iff]
    omega
  have hright : (lengthPartner? rights rights.length place).isSome = true := by
    rw [lengthPartner?_eq_pick? hplace, isSome_pick?_iff]
    omega
  obtain ⟨op, hop⟩ := Option.isSome_iff_exists.mp hop
  obtain ⟨right, hright⟩ := Option.isSome_iff_exists.mp hright
  exact ⟨op, right, hop, hright⟩

theorem isUsefulLengthAt_eq_false_iff (hlength : ops.length = rights.length) (hne : ops ≠ [])
    (hplace : place ≤ rights.length) :
    isUsefulLengthAt ops rights place = .ok false ↔
      AsksForAny ops (left :: rights) (partnerPlace rights.length place) := by
  obtain ⟨op, right, hop, hright⟩ := exists_partners hlength hne hplace
  have hmap : (isUsefulLength op right).mapError Fault.evaluation = .ok false ↔
      isUsefulLength op right = .ok false := by
    cases isUsefulLength op right <;> simp [Except.mapError]
  rw [isUsefulLengthAt, hop, hright]
  dsimp only
  rw [hmap, isUsefulLength_eq_false_iff, AsksForAny]
  rw [lengthPartner?_eq_getElem? hlength] at hop
  rw [lengthPartner?_eq_getElem? rfl] at hright
  obtain ⟨k, hk⟩ := Nat.exists_eq_add_of_le' (one_le_partnerPlace rights.length place)
  rw [hk, Nat.add_sub_cancel] at hop hright ⊢
  rw [List.getElem?_cons_succ, hop, hright]
  simp

theorem isUsefulLengthAt_ne_noOperator (hlength : ops.length = rights.length) (hne : ops ≠ [])
    (hplace : place ≤ rights.length) : isUsefulLengthAt ops rights place ≠ .error .noOperator := by
  obtain ⟨op, right, hop, hright⟩ := exists_partners hlength hne hplace
  rw [isUsefulLengthAt, hop, hright]
  dsimp only
  cases isUsefulLength op right <;> simp [Except.mapError]

theorem mem_lengthReport_iff {n : Node} {finding : Finding} :
    finding ∈ (lengthReport n ops rights place).findings ↔
      isUsefulLengthAt ops rights place = .ok false ∧
        finding = Violation.uselessLenCompare.atNode n := by
  rw [lengthReport]
  cases isUsefulLengthAt ops rights place with
  | error fault => simp [Report.stopped]
  | ok isUseful => cases isUseful <;> simp [Report.ofFindings, reportIf]

theorem fault_lengthReport_iff {n : Node} {fault : Fault} :
    (lengthReport n ops rights place).fault = some fault ↔
      isUsefulLengthAt ops rights place = .error fault := by
  rw [lengthReport]
  cases isUsefulLengthAt ops rights place <;> simp [Report.stopped, Report.ofFindings]

theorem shape_of_call?_eq_some {n : Node} {c : CallParts} (h : n.call? = some c) :
    n.shape = .call c.func c.args c.keywords := by
  unfold Node.call? at h
  split at h
  case h_1 hshape =>
    obtain rfl := Option.some.inj h
    exact hshape
  case h_2 => cases h

theorem line_eq_ok (h : seen.firstError? [t] = none) : seen.line t = .ok (seen.text t) := by
  have herror : seen.error? t = none := by simpa [Rendered.firstError?] using h
  unfold Rendered.error? at herror
  split at herror
  case h_1 line hline =>
    rw [Rendered.text, hline]
    rfl
  case h_2 => cases herror

theorem line_eq_error {e : RenderingError} (h : seen.firstError? [t] = some e) :
    seen.line t = .error e := by
  have herror : seen.error? t = some e := by
    obtain ⟨u, hu, herror⟩ := List.exists_of_findSome?_eq_some h
    rwa [List.mem_singleton.mp hu] at herror
  unfold Rendered.error? at herror
  split at herror
  case h_1 => cases herror
  case h_2 hline => rw [hline, Option.some.inj herror]

/-- What is called has no slot of its own, so its text is always the same. -/
theorem Program.line_called (ht : t ∈ q.walk) {func : Node} {args keywords : List Node}
    (h : t.node.shape = .call func args keywords) (seen : Rendered) :
    seen.line (t.under func) = seen.printer.node Precedence.tightest func := by
  have hnodup : (func :: (args ++ keywords)).Nodup := by
    have hchildren := nodup_children ht
    rwa [Node.children, h] at hchildren
  have hnot : args.any func.is = false := by
    rw [List.any_eq_false]
    intro arg harg his
    have hchild {c : Node} (hc : c ∈ func :: (args ++ keywords)) : t.under c ∈ q.walk :=
      under_mem_walk ht (by rwa [Node.children, h])
    have hsame : t.under func = t.under arg :=
      eq_of_id_eq (hchild List.mem_cons_self)
        (hchild (List.mem_cons_of_mem _ (List.mem_append_left _ harg))) (Node.is_iff.mp his)
    obtain rfl : func = arg := congrArg Site.node hsame
    exact (List.nodup_cons.mp hnodup).1 (List.mem_append_left _ harg)
  have hslot : seen.slot (t.under func) = Precedence.tightest := by
    simp only [Rendered.slot, Site.under, Node.slot, h, hnot]
    simp
  rw [Rendered.line, hslot]
  rfl

/-- **What one operand adds**: nothing can be said about a call without a text, an operand other
than a length is passed over, and for a length the report about it comes first. -/
theorem Program.lengthCompares_cases (ht : t ∈ q.walk) (seen : Rendered) (s : Site)
    (ops : List CompareOp) (rights : List Node) (place : Nat) (rest : List Site) :
    (∃ func args keywords e, t.node.shape = .call func args keywords ∧
      seen.printer.node Precedence.tightest func = .error e ∧
      (lengthCompares seen s ops rights place (t :: rest)).1 = .stopped (.rendering e)) ∨
    (¬ t.node.IsCallOf seen.printer "len" ∧ ∃ seen' : Rendered, seen'.printer = seen.printer ∧
      (lengthCompares seen s ops rights place (t :: rest)).1 =
        (lengthCompares seen' s ops rights (place + 1) rest).1) ∨
    (t.node.IsCallOf seen.printer "len" ∧ ∃ seen' : Rendered, seen'.printer = seen.printer ∧
      (lengthCompares seen s ops rights place (t :: rest)).1 =
        (lengthReport s.node ops rights place).andThen
          (lengthCompares seen' s ops rights (place + 1) rest).1) := by
  rw [lengthCompares]
  split
  case h_1 hcall =>
    refine .inr (.inl ⟨?_, seen, rfl, rfl⟩)
    rintro ⟨func, args, keywords, line, hshape, -⟩
    rw [Node.call?, hshape] at hcall
    cases hcall
  case h_2 c hcall =>
    have hshape := shape_of_call?_eq_some hcall
    dsimp only
    unfold RenderingRule.requiring
    split
    case h_1 e herror =>
      have hline := line_eq_error herror
      rw [line_called ht hshape] at hline
      exact .inl ⟨c.func, c.args, c.keywords, e, hshape, hline, rfl⟩
    case h_2 hwritten =>
      have hline := line_eq_ok hwritten
      rw [line_called ht hshape] at hline
      split
      case isTrue hlength =>
        refine .inr (.inr ⟨?_, seen.mark (t.under c.func), rfl, ?_⟩)
        · refine ⟨c.func, c.args, c.keywords, _, hshape, hline, ?_⟩
          rw [beq_iff_eq, Rendered.calledName, hshape] at hlength
          exact hlength
        · rw [lengthReport]
          cases isUsefulLengthAt ops rights place with
          | error fault => rfl
          | ok isUseful => rfl
      case isFalse hlength =>
        refine .inr (.inl ⟨?_, seen.mark (t.under c.func), rfl, rfl⟩)
        rintro ⟨func, args, keywords, line, hcalled, hok, hstrip⟩
        refine hlength (beq_iff_eq.mpr ?_)
        rw [Rendered.calledName, hcalled]
        dsimp only
        rw [Rendered.text, line_called ht hcalled, hok]
        exact hstrip

/-- Every finding comes from a length that is of no use. -/
theorem Program.mem_lengthCompares {finding : Finding} {operands : List Site}
    (hwalk : ∀ t ∈ operands, t ∈ q.walk)
    (h : finding ∈ (lengthCompares seen s ops rights place operands).1.findings) :
    finding = Violation.uselessLenCompare.atNode s.node ∧
      ∃ i t, operands[i]? = some t ∧ t.node.IsCallOf seen.printer "len" ∧
        isUsefulLengthAt ops rights (place + i) = .ok false := by
  induction operands generalizing seen place with
  | nil => exact absurd h List.not_mem_nil
  | cons t rest ih =>
    -- what the rest says is about the places after this one
    have hlater {seen' : Rendered} (hprinter : seen'.printer = seen.printer)
        (h : finding ∈ (lengthCompares seen' s ops rights (place + 1) rest).1.findings) :
        finding = Violation.uselessLenCompare.atNode s.node ∧
          ∃ i u, (t :: rest)[i]? = some u ∧ u.node.IsCallOf seen.printer "len" ∧
            isUsefulLengthAt ops rights (place + i) = .ok false := by
      obtain ⟨heq, i, u, hu, hlength, huseless⟩ :=
        ih (fun u hu => hwalk u (List.mem_cons_of_mem t hu)) h
      refine ⟨heq, i + 1, u, hu, hprinter ▸ hlength, ?_⟩
      rwa [Nat.add_right_comm] at huseless
    rcases lengthCompares_cases (hwalk t List.mem_cons_self) seen s ops rights place rest with
      ⟨-, -, -, e, -, -, hreport⟩ | ⟨-, seen', hprinter, hreport⟩ |
      ⟨hlength, seen', hprinter, hreport⟩
    · rw [hreport] at h
      exact absurd h List.not_mem_nil
    · rw [hreport] at h
      exact hlater hprinter h
    · rw [hreport] at h
      rcases Report.mem_andThen h with hhere | hrest
      · obtain ⟨huseless, heq⟩ := mem_lengthReport_iff.mp hhere
        exact ⟨heq, 0, t, rfl, hlength, huseless⟩
      · exact hlater hprinter hrest

/-- If nothing stops the check, every length that is of no use is found. -/
theorem Program.atNode_mem_lengthCompares {operands : List Site} {i : Nat}
    (hwalk : ∀ t ∈ operands, t ∈ q.walk)
    (hfault : (lengthCompares seen s ops rights place operands).1.fault = none)
    (ht : operands[i]? = some t) (hcalls : t.node.IsCallOf seen.printer "len")
    (huseless : isUsefulLengthAt ops rights (place + i) = .ok false) :
    Violation.uselessLenCompare.atNode s.node ∈
      (lengthCompares seen s ops rights place operands).1.findings := by
  induction operands generalizing seen place i with
  | nil => cases ht
  | cons u rest ih =>
    have hrest : ∀ t ∈ rest, t ∈ q.walk := fun t ht => hwalk t (List.mem_cons_of_mem u ht)
    rcases lengthCompares_cases (hwalk u List.mem_cons_self) seen s ops rights place rest with
      ⟨-, -, -, e, -, -, hreport⟩ | ⟨hother, seen', hprinter, hreport⟩ |
        ⟨-, seen', hprinter, hreport⟩
    · rw [hreport] at hfault
      cases hfault
    · rw [hreport] at hfault ⊢
      cases i with
      | zero =>
        obtain rfl : u = t := Option.some.inj ht
        exact absurd hcalls hother
      | succ i => exact ih hrest hfault ht (hprinter ▸ hcalls) (by rwa [Nat.add_right_comm])
    · rw [hreport, Report.fault_andThen, Option.or_eq_none_iff] at hfault
      rw [hreport, Report.findings_andThen hfault.1, List.mem_append]
      cases i with
      | zero => exact .inl (mem_lengthReport_iff.mpr ⟨huseless, rfl⟩)
      | succ i =>
        exact .inr (ih hrest hfault.2 ht (hprinter ▸ hcalls) (by rwa [Nat.add_right_comm]))

/-- What stops the check is a call without a text, or a length that cannot be judged. -/
theorem Program.fault_lengthCompares {fault : Fault} {operands : List Site}
    (hwalk : ∀ t ∈ operands, t ∈ q.walk)
    (h : (lengthCompares seen s ops rights place operands).1.fault = some fault) :
    (∃ e, fault = .rendering e) ∨
      ∃ i < operands.length, isUsefulLengthAt ops rights (place + i) = .error fault := by
  induction operands generalizing seen place with
  | nil => cases h
  | cons t rest ih =>
    have hlater {seen : Rendered}
        (h : (lengthCompares seen s ops rights (place + 1) rest).1.fault = some fault) :
        (∃ e, fault = .rendering e) ∨
          ∃ i < (t :: rest).length, isUsefulLengthAt ops rights (place + i) = .error fault := by
      refine (ih (fun u hu => hwalk u (List.mem_cons_of_mem t hu)) h).imp_right ?_
      rintro ⟨i, hi, herror⟩
      exact ⟨i + 1, Nat.succ_lt_succ hi, by rwa [Nat.add_right_comm] at herror⟩
    rcases lengthCompares_cases (hwalk t List.mem_cons_self) seen s ops rights place rest with
      ⟨-, -, -, e, -, -, hreport⟩ | ⟨-, seen', -, hreport⟩ | ⟨-, seen', -, hreport⟩
    · rw [hreport] at h
      exact .inl ⟨e, (Option.some.inj h).symm⟩
    · rw [hreport] at h
      exact hlater h
    · rw [hreport, Report.fault_andThen, Option.or_eq_some_iff] at h
      rcases h with hhere | ⟨-, hrest⟩
      · exact .inr ⟨0, Nat.succ_pos _, fault_lengthReport_iff.mp hhere⟩
      · exact hlater hrest

end Chain

/-! ### The whole check -/

section Sites

variable {q : Program} {seen : Rendered} {s : Site} {left : Node} {ops : List CompareOp}
  {rights : List Node}

theorem Program.mem_walk_of_mem_operands (hs : s ∈ q.walk) {t : Site} (ht : t ∈ s.operands) :
    t ∈ q.walk := by
  unfold Site.operands at ht
  split at ht
  case h_1 left ops rights hshape =>
    obtain ⟨c, hc, rfl⟩ := List.mem_map.mp ht
    exact under_mem_walk hs (by rwa [Node.children, hshape])
  case h_2 => exact absurd ht List.not_mem_nil

theorem comparisons_eq (h : s.node.shape = .compare left ops rights) :
    (comparisons seen s).1 = ((operandFindings s.node ops (left :: rights) rights).andThen
      (lengthCompares seen s ops rights 0 s.operands).1).andThen (chainFindings s.node ops) := by
  rw [comparisons, h]
  dsimp only
  split
  case h_1 fault hfault =>
    have hstop (later : Report) :
        (operandFindings s.node ops (left :: rights) rights).andThen later =
          operandFindings s.node ops (left :: rights) rights := by
      rw [Report.andThen, hfault]
    rw [hstop, hstop]
  case h_2 => rfl

theorem exists_compare_of_comparisons (h : (comparisons seen s).1 ≠ .empty) :
    ∃ left ops rights, s.node.shape = .compare left ops rights := by
  rw [comparisons] at h
  split at h
  case h_1 left ops rights hshape => exact ⟨left, ops, rights, hshape⟩
  case h_2 => exact absurd rfl h

theorem violation_operandFindings {n : Node} {operands : List Node} {f : Finding}
    (h : f ∈ (operandFindings n ops operands rights).findings) :
    f.violation ≠ .uselessLenCompare := by
  unfold operandFindings at h
  split at h
  case h_1 => exact absurd h List.not_mem_nil
  case h_2 =>
    rcases List.mem_append.mp h with hpairs | hmember
    · rcases List.mem_append.mp hpairs with hconstant | hsame
      · rw [(mem_reportIf hconstant).2]
        exact nofun
      · rw [(mem_reportIf hsame).2]
        exact nofun
    · rcases List.mem_append.mp hmember with hmany | hwrong
      · rw [(mem_reportIf hmany).2]
        exact nofun
      · obtain ⟨pair, -, rfl⟩ := List.mem_map.mp hwrong
        exact nofun

theorem violation_chainFindings {n : Node} {f : Finding} (h : f ∈ (chainFindings n ops).findings) :
    f.violation ≠ .uselessLenCompare := by
  unfold chainFindings at h
  split at h
  case isTrue => exact absurd h List.not_mem_nil
  case isFalse =>
    rcases List.mem_append.mp h with hmixed | hfalling
    · rw [(mem_reportIf hmixed).2]
      exact nofun
    · rw [(mem_reportIf hfalling).2]
      exact nofun

/-- Only the search for lengths reports them. -/
theorem mem_comparisons {finding : Finding} (h : finding ∈ (comparisons seen s).1.findings)
    (hviolation : finding.violation = .uselessLenCompare) :
    ∃ left ops rights, s.node.shape = .compare left ops rights ∧
      finding ∈ (lengthCompares seen s ops rights 0 s.operands).1.findings := by
  have hne : (comparisons seen s).1 ≠ .empty := fun hempty =>
    List.not_mem_nil (hempty ▸ h)
  obtain ⟨left, ops, rights, hshape⟩ := exists_compare_of_comparisons hne
  rw [comparisons_eq hshape] at h
  rcases Report.mem_andThen h with hfirst | hchain
  · rcases Report.mem_andThen hfirst with hoperands | hlengths
    · exact absurd hviolation (violation_operandFindings hoperands)
    · exact ⟨left, ops, rights, hshape, hlengths⟩
  · exact absurd hviolation (violation_chainFindings hchain)

theorem fault_operandFindings {n : Node} {operands : List Node} :
    (operandFindings n ops operands rights).fault ≠ some .noOperator := by
  unfold operandFindings
  split
  case h_1 => exact nofun
  case h_2 => exact nofun

/-- In a whole chain there is an operator and an operand for every length. -/
theorem Program.fault_comparisons (hs : s ∈ q.walk) (hwhole : s.node.hasWholeChain = true) :
    (comparisons seen s).1.fault ≠ some .noOperator := by
  intro hfault
  have hne : (comparisons seen s).1 ≠ .empty := by
    intro hempty
    rw [hempty] at hfault
    cases hfault
  obtain ⟨left, ops, rights, hshape⟩ := exists_compare_of_comparisons hne
  obtain ⟨hops, hlength⟩ := Node.length_eq_of_hasWholeChain hwhole hshape
  rw [comparisons_eq hshape, Report.fault_andThen, Report.fault_andThen, Option.or_eq_some_iff,
    Option.or_eq_some_iff] at hfault
  rcases hfault with (hoperands | ⟨-, hlengths⟩) | ⟨-, hchain⟩
  · exact fault_operandFindings hoperands
  · rcases fault_lengthCompares (fun t => mem_walk_of_mem_operands hs) hlengths with
      ⟨e, he⟩ | ⟨i, hi, herror⟩
    · cases he
    · rw [Site.operands, hshape, List.length_map, List.length_cons] at hi
      exact isUsefulLengthAt_ne_noOperator hlength hops (by omega) herror
  · rw [chainFindings, if_neg (by rwa [List.isEmpty_iff])] at hchain
    cases hchain

/-- What is found in a whole chain stands at the chain. -/
theorem Program.exists_length_of_mem_comparisons {finding : Finding} (hs : s ∈ q.walk)
    (hwhole : s.node.hasWholeChain = true)
    (h : finding ∈ (comparisons seen s).1.findings)
    (hviolation : finding.violation = .uselessLenCompare) :
    finding = Violation.uselessLenCompare.atNode s.node ∧
      ∃ left ops rights, s.node.shape = .compare left ops rights ∧
        ∃ place ≤ rights.length,
          (∃ call, (left :: rights)[place]? = some call ∧ call.IsCallOf seen.printer "len") ∧
          AsksForAny ops (left :: rights) (partnerPlace rights.length place) := by
  obtain ⟨left, ops, rights, hshape, hmem⟩ := mem_comparisons h hviolation
  obtain ⟨hops, hlength⟩ := Node.length_eq_of_hasWholeChain hwhole hshape
  obtain ⟨heq, place, t, ht, hcall, huseless⟩ :=
    mem_lengthCompares (fun t => mem_walk_of_mem_operands hs) hmem
  rw [Nat.zero_add] at huseless
  rw [Site.getElem?_operands hshape] at ht
  obtain ⟨call, hget, rfl⟩ := Option.map_eq_some_iff.mp ht
  have hplace : place ≤ rights.length :=
    Nat.le_of_lt_succ (List.getElem?_eq_some_iff.mp hget).1
  exact ⟨heq, left, ops, rights, hshape, place, hplace, ⟨call, hget, hcall⟩,
    (isUsefulLengthAt_eq_false_iff hlength hops hplace).mp huseless⟩

/-- If nothing stops the check, every call of `len` that is of no use is found. -/
theorem Program.atNode_mem_comparisons (hs : s ∈ q.walk) (hwhole : s.node.hasWholeChain = true)
    (hfault : (comparisons seen s).1.fault = none) (h : s.node.shape = .compare left ops rights)
    {place : Nat} (hplace : place ≤ rights.length) {call : Node}
    (hcall : (left :: rights)[place]? = some call) (hcalls : call.IsCallOf seen.printer "len")
    (hasks : AsksForAny ops (left :: rights) (partnerPlace rights.length place)) :
    Violation.uselessLenCompare.atNode s.node ∈ (comparisons seen s).1.findings := by
  obtain ⟨hops, hlength⟩ := Node.length_eq_of_hasWholeChain hwhole h
  have huseless := (isUsefulLengthAt_eq_false_iff hlength hops hplace).mpr hasks
  have hget : s.operands[place]? = some (s.under call) := by
    rw [Site.getElem?_operands h, hcall]
    rfl
  rw [comparisons_eq h, Report.fault_andThen, Report.fault_andThen, Option.or_eq_none_iff,
    Option.or_eq_none_iff] at hfault
  obtain ⟨⟨hoperands, hlengths⟩, -⟩ := hfault
  have hfirst : ((operandFindings s.node ops (left :: rights) rights).andThen
      (lengthCompares seen s ops rights 0 s.operands).1).fault = none := by
    rw [Report.fault_andThen, hoperands, hlengths]
    rfl
  rw [comparisons_eq h, Report.findings_andThen hfirst, Report.findings_andThen hoperands]
  refine List.mem_append_left _ (List.mem_append_right _ ?_)
  exact atNode_mem_lengthCompares (fun t => mem_walk_of_mem_operands hs) hlengths hget hcalls
    (by rwa [Nat.zero_add])

end Sites

/-- No call is a numeral. -/
theorem Node.IsCallOf.not_isNumeral {n : Node} {printer : Printer} {text : String}
    (h : n.IsCallOf printer text) (k : Int) : ¬ n.IsNumeral k := by
  obtain ⟨func, args, keywords, line, hshape, -⟩ := h
  rintro (⟨hliteral, -⟩ | ⟨hsign, -⟩ | ⟨hsign, -⟩)
  · rw [Node.literal?, hshape] at hliteral
    cases hliteral
  · rw [hshape] at hsign
    cases hsign
  · rw [hshape] at hsign
    cases hsign

/-- What is held against a length is its neighbour, unless the length stands last, after at least
three operators. -/
theorem neighbour_of_asksForAny {left call : Node} {printer : Printer} {text : String}
    {ops : List CompareOp} {rights : List Node} {place : Nat} (hplace : place ≤ rights.length)
    (hget : (left :: rights)[place]? = some call)
    (hcall : call.IsCallOf printer text)
    (hasks : AsksForAny ops (left :: rights) (partnerPlace rights.length place)) :
    partnerPlace rights.length place = place + 1 ∨
      place = partnerPlace rights.length place + 1 ∨
      place = rights.length ∧ partnerPlace rights.length place = 1 ∧ 3 ≤ rights.length := by
  rcases partnerPlace_cases hplace with hnext | hbefore | ⟨hlast, hone, hfew | hmany⟩
  · exact .inl hnext
  · exact .inr (.inl hbefore)
  · by_cases hself : place = 1
    · -- the length would be held against itself
      obtain ⟨op, right, -, hright, hnumeral⟩ := hasks
      rw [hone, ← hself, hget] at hright
      obtain rfl := Option.some.inj hright
      rcases hnumeral with hzero | ⟨hnumeral, -⟩
      · exact absurd hzero (hcall.not_isNumeral 0)
      · exact absurd hnumeral (hcall.not_isNumeral 1)
    · left
      omega
  · exact .inr (.inr ⟨hlast, hone, hmany⟩)

theorem comparisons_keepsPrinter : comparisons.KeepsPrinter := by
  have hlengths {seen : Rendered} {s : Site} {ops : List CompareOp} {rights : List Node}
      {place : Nat} {operands : List Site} :
      (lengthCompares seen s ops rights place operands).2.printer = seen.printer := by
    induction operands generalizing seen place with
    | nil => rfl
    | cons t rest ih =>
      rw [lengthCompares]
      split
      case h_1 => exact ih
      case h_2 c _ =>
        dsimp only
        unfold RenderingRule.requiring
        split
        case h_1 => rfl
        case h_2 =>
          split
          case isFalse => exact ih
          case isTrue =>
            split
            case h_1 => rfl
            case h_2 => exact ih
  intro seen s
  unfold comparisons
  dsimp only
  split
  case h_1 =>
    split
    case h_1 => rfl
    case h_2 => exact hlengths
  case h_2 => rfl

/-- **Lengths in comparisons.** If all chains are whole, there is always an operator and an operand
to hold against a length: the indices, which count from the end, are in range. If a chain is
reported, it has a call of what is written `len`, and what is held against it is zero, or one after
`>=` or `<`; it is a neighbour of the length, unless the length stands last, after at least three
operators. If nothing stops the check, all chains with such a call are reported. Calls of the name
`len` are such calls, whatever the printer, as long as it writes names as they are. -/
theorem comparisons_reports_lengths (subject : Subject) (memory : Memory)
    (hwhole : ∀ n ∈ subject.program.root.walk, n.hasWholeChain = true) :
    (Check.comparisons.judge subject memory).1.fault ≠ some .noOperator ∧
    (∀ n ∈ subject.program.root.walk, ∀ left ops rights, n.shape = .compare left ops rights →
      ∀ place ≤ rights.length, ∃ op right,
        lengthPartner? ops rights.length place = some op ∧
        pick? ops (place - rights.length) = some op ∧
        lengthPartner? rights rights.length place = some right ∧
        pick? rights (place - rights.length) = some right) ∧
    (∀ finding ∈ (Check.comparisons.judge subject memory).1.findings,
      finding.violation = .uselessLenCompare →
        ∃ n ∈ subject.program.root.walk, finding = Violation.uselessLenCompare.atNode n ∧
          ∃ left ops rights, n.shape = .compare left ops rights ∧
            ∃ place partner, (∃ call, (left :: rights)[place]? = some call ∧
                call.IsCallOf memory.rendered.printer "len") ∧
              AsksForAny ops (left :: rights) partner ∧
              (partner = place + 1 ∨ place = partner + 1 ∨
                place = rights.length ∧ partner = 1 ∧ 3 ≤ rights.length)) ∧
    ((Check.comparisons.judge subject memory).1.fault = none →
      ∀ n ∈ subject.program.root.walk, ∀ left ops rights, n.shape = .compare left ops rights →
        ∀ place ≤ rights.length, ∀ call, (left :: rights)[place]? = some call →
          call.IsCallOf memory.rendered.printer "len" →
          AsksForAny ops (left :: rights) (partnerPlace rights.length place) →
            Violation.uselessLenCompare.atNode n ∈
              (Check.comparisons.judge subject memory).1.findings) ∧
    (memory.rendered.printer.WritesNames →
      ∀ n : Node, n.CallsLen → n.IsCallOf memory.rendered.printer "len") := by
  have hsite {past rest : List Site} {s : Site}
      (hsplit : subject.program.sites = past ++ s :: rest) :
      s ∈ subject.program.walk ∧ s.node.hasWholeChain = true := by
    have hs := Program.mem_walk_of_sites_eq hsplit
    exact ⟨hs, hwhole s.node (Program.node_mem_walk hs)⟩
  have hprinter (past : List Site) := comparisons_keepsPrinter.visit memory.rendered past
  refine ⟨fun hfault => ?_, ?_, ?_, ?_, fun hnames n hn => hn.isCallOf hnames⟩
  · obtain ⟨past, s, rest, hsplit, hstops⟩ := RenderingRule.fault_visit hfault
    exact Program.fault_comparisons (hsite hsplit).1 (hsite hsplit).2 hstops
  · intro n hn left ops rights hshape place hplace
    obtain ⟨hops, hlength⟩ := Node.length_eq_of_hasWholeChain (hwhole n hn) hshape
    obtain ⟨op, right, hop, hright⟩ := exists_partners hlength hops hplace
    refine ⟨op, right, hop, ?_, hright, ?_⟩
    · rwa [← lengthPartner?_eq_pick? hplace]
    · rwa [← lengthPartner?_eq_pick? hplace]
  · intro finding hfinding hviolation
    obtain ⟨past, s, rest, hsplit, hmem⟩ := RenderingRule.mem_visit hfinding
    obtain ⟨hs, hchain⟩ := hsite hsplit
    obtain ⟨heq, left, ops, rights, hshape, place, hplace, ⟨call, hget, hcall⟩, hasks⟩ :=
      Program.exists_length_of_mem_comparisons hs hchain hmem hviolation
    rw [hprinter] at hcall
    exact ⟨s.node, Program.node_mem_walk hs, heq, left, ops, rights, hshape, place, _,
      ⟨call, hget, hcall⟩, hasks, neighbour_of_asksForAny hplace hget hcall hasks⟩
  · intro hfault n hn left ops rights hshape place hplace call hcall hcalls hasks
    obtain ⟨s, hs, rfl⟩ := Program.exists_site hn
    obtain ⟨past, rest, hsplit⟩ := List.append_of_mem (Program.mem_walk_iff_mem_sites.mp hs)
    have hreport : (Check.comparisons.judge subject memory).1 =
        (comparisons.visit memory.rendered (past ++ s :: rest)).1 := hsplit ▸ rfl
    rw [hreport] at hfault ⊢
    refine RenderingRule.subset_visit hfault ?_
    exact Program.atNode_mem_comparisons hs (hsite hsplit).2
      (RenderingRule.fault_visit_eq_none_iff.mp hfault past s rest rfl) hshape hplace hcall
      (hprinter past ▸ hcalls) hasks

/-- A variable. -/
def firstItem : Node :=
  .mk 3 none (.name "first" (some .load))

/-- The call `len(items)`. -/
def itemsLength : Node :=
  .mk 6 none (.call (.mk 7 none (.name "len" (some .load)))
    [.mk 8 none (.name "items" (some .load))] [])

/-- The chain `first == len(items) == 0`. -/
def emptyChain : Node :=
  .mk 2 (some ⟨1, 0⟩) (.compare firstItem [.eq, .eq] [itemsLength, digit 4 0])

/-- The chain as a subject. -/
def emptySubject : Subject :=
  ⟨{ root := expressionFile emptyChain, distinct := by decide }, [], "empty.py", .initial⟩

theorem comparisons_reports_lengths_emptySubject :
    (∀ n ∈ emptySubject.program.root.walk, n.hasWholeChain = true) ∧
    (Check.comparisons.judge emptySubject {}).1 =
      .ofFindings [Violation.uselessLenCompare.atNode emptyChain] ∧
    ∃ n ∈ emptySubject.program.root.walk,
      Violation.uselessLenCompare.atNode emptyChain = Violation.uselessLenCompare.atNode n ∧
      ∃ left ops rights, n.shape = .compare left ops rights ∧
        ∃ place partner,
          (∃ call, (left :: rights)[place]? = some call ∧ call.IsCallOf {} "len") ∧
          AsksForAny ops (left :: rights) partner ∧
          (partner = place + 1 ∨ place = partner + 1 ∨
            place = rights.length ∧ partner = 1 ∧ 3 ≤ rights.length) := by
  have hwhole : ∀ n ∈ emptySubject.program.root.walk, n.hasWholeChain = true := by decide
  obtain ⟨-, -, hlaw, -⟩ := comparisons_reports_lengths emptySubject {} hwhole
  exact ⟨hwhole, rfl, hlaw _ List.mem_cons_self rfl⟩

/-- Another variable. -/
def secondItem : Node :=
  .mk 5 none (.name "second" (some .load))

/-- The chain `first == 0 == second == len(items)`. -/
def distantChain : Node :=
  .mk 2 (some ⟨1, 0⟩) (.compare firstItem [.eq, .eq, .eq] [digit 4 0, secondItem, itemsLength])

/-- The chain as a subject. -/
def distantSubject : Subject :=
  ⟨{ root := expressionFile distantChain, distinct := by decide }, [], "distant.py", .initial⟩

/-- **A length is held against a distant number.** In `first == 0 == second == len(items)` no
neighbour of the length is a number, but the chain is reported. -/
theorem comparisons_reports_distant_number :
    (Check.comparisons.judge distantSubject {}).1 =
      .ofFindings [Violation.uselessLenCompare.atNode distantChain] ∧
    ∃ left ops rights, distantChain.shape = .compare left ops rights ∧
      ops.length = rights.length ∧
      ∀ place partner call right, (left :: rights)[place]? = some call → call.IsCallOf {} "len" →
        (left :: rights)[partner]? = some right → partner = place + 1 ∨ place = partner + 1 →
          ∀ k, ¬ right.IsNumeral k := by
  refine ⟨rfl, firstItem, _, [digit 4 0, secondItem, itemsLength], rfl, rfl, ?_⟩
  intro place partner call right hget hcall hright hnext k hnumeral
  obtain ⟨func, args, keywords, line, hshape, -⟩ := hcall
  -- the only call stands last, and the operand before it is a variable
  match place with
  | 0 | 1 | 2 =>
    obtain rfl := Option.some.inj hget
    cases hshape
  | 3 =>
    rcases hnext with rfl | hbefore
    · cases hright
    · obtain rfl : partner = 2 := by omega
      obtain rfl := Option.some.inj hright
      rcases hnumeral with ⟨hliteral, -⟩ | ⟨hsign, -⟩ | ⟨hsign, -⟩
      · cases hliteral
      · cases hsign
      · cases hsign
  | later + 4 => cases hget

end Stricture
