import Stricture.Proofs.Comparison.Lengths
import Stricture.Proofs.Evaluation.Outcomes

/-!
# Comparisons that stop their check

The check of comparisons evaluates operands twice. It asks of the operands, from the left, whether
they are literals, up to the first two that stand side by side; and it asks for the number that is
held against a length. Only expressions that are not constant are expected to have no value at the
first place, and nothing is expected at the second.

So the check is stopped by an operand with a member that cannot be one, such as `{[1]}`, or with a
sum that overflows (`Node.BreaksOff`), and by a prefix operator that makes no number beside a
length, as in `len(items) > -limit` (`Node.IsOpaquePrefix`). Nothing else stops it, and what comes
after is not looked at any more.
-/

namespace Stricture

open Rules Evaluation

/-! ### Literals side by side -/

/-- The evaluation of the expression fails, and not because it is not constant. -/
def Node.BreaksOff (n : Node) : Prop :=
  Fails Node.literalValue n .notKey ∨ Fails Node.literalValue n .tooLarge

/-- Two literals stand side by side. -/
def HasLiteralPair (operands : List Node) : Prop :=
  ∃ a b, [a, b] <:+: operands ∧ HasValue Node.literalValue a ∧ HasValue Node.literalValue b

section Literals

variable {n a b : Node}

theorem isLiteral_eq_true_iff (h : Outcomes Node.literalValue n) :
    n.isLiteral = .ok true ↔ HasValue Node.literalValue n := by
  rw [← h.hasValue, Node.isLiteral]
  cases hv : n.literalValue with
  | ok v => simp
  | error e => cases e <;> simp

theorem exists_isLiteral_eq_error_iff (h : Outcomes Node.literalValue n) :
    (∃ e, n.isLiteral = .error e) ↔ n.BreaksOff := by
  rw [Node.BreaksOff, ← h.fails, ← h.fails, Node.isLiteral]
  cases hv : n.literalValue with
  | ok v => simp
  | error e =>
    -- a sign in front of a name is no failure of this evaluator
    have hsort := Node.failsWith_of_literalValue hv
    cases hsort with
    | notConstant | notKey | tooLarge => simp

theorem hasLiteralPair_singleton (a : Node) : ¬ HasLiteralPair [a] := by
  rintro ⟨x, y, hinfix, -⟩
  have hlength := hinfix.length_le
  simp at hlength

theorem hasLiteralPair_cons_cons {rest : List Node} :
    HasLiteralPair (a :: b :: rest) ↔
      (HasValue Node.literalValue a ∧ HasValue Node.literalValue b) ∨
        HasLiteralPair (b :: rest) := by
  constructor
  · rintro ⟨x, y, hinfix, hx, hy⟩
    rcases List.infix_cons_iff.mp hinfix with hprefix | hrest
    · obtain ⟨rfl, htail⟩ := List.cons_prefix_cons.mp hprefix
      obtain ⟨rfl, -⟩ := List.cons_prefix_cons.mp htail
      exact .inl ⟨hx, hy⟩
    · exact .inr ⟨x, y, hrest, hx, hy⟩
  · rintro (⟨ha, hb⟩ | ⟨x, y, hinfix, hx, hy⟩)
    · exact ⟨a, b, (List.prefix_append [a, b] rest).isInfix, ha, hb⟩
    · exact ⟨x, y, hinfix.trans (List.suffix_cons a _).isInfix, hx, hy⟩

/-- If it is not the first item that is looked for, it stands in the rest. -/
theorem exists_split_cons_iff {α : Type} {P : List α → α → Prop} {x : α} {rest : List α}
    (hx : ¬ P [] x) :
    (∃ before y after, x :: rest = before ++ y :: after ∧ P before y) ↔
      ∃ before y after, rest = before ++ y :: after ∧ P (x :: before) y := by
  constructor
  · rintro ⟨before, y, after, hsplit, hy⟩
    rcases List.cons_eq_append_iff.mp hsplit with ⟨rfl, heq⟩ | ⟨before', rfl, heq⟩
    · exact absurd ((List.cons.inj heq).1 ▸ hy) hx
    · exact ⟨before', y, after, heq, hy⟩
  · rintro ⟨before, y, after, rfl, hy⟩
    exact ⟨x :: before, y, after, rfl, hy⟩

/-- The rest of the operands, after one of which is known whether it is a literal. -/
theorem exists_go_eq_error_iff {known : Bool} {rest : List Node} (ha : a.isLiteral = .ok known)
    (houtcomes : ∀ n ∈ a :: rest, Outcomes Node.literalValue n) :
    (∃ e, literalPair.go known rest = .error e) ↔ ∃ before n after,
      rest = before ++ n :: after ∧ ¬ HasLiteralPair (a :: before) ∧ n.BreaksOff := by
  induction rest generalizing a known with
  | nil => simp [literalPair.go]
  | cons next rest ih =>
    have hnext := houtcomes next (by simp)
    rw [literalPair.go]
    cases hliteral : next.isLiteral with
    | error e =>
      have hbreaks : next.BreaksOff := (exists_isLiteral_eq_error_iff hnext).mp ⟨e, hliteral⟩
      exact iff_of_true ⟨e, rfl⟩ ⟨[], next, rest, rfl, hasLiteralPair_singleton a, hbreaks⟩
    | ok isLiteral =>
      -- this operand does not break off, so it stands before one that does
      have hfine : ¬ next.BreaksOff := by
        rw [← exists_isLiteral_eq_error_iff hnext, hliteral]
        simp
      have hpair : (known && isLiteral) = true ↔
          HasValue Node.literalValue a ∧ HasValue Node.literalValue next := by
        rw [← isLiteral_eq_true_iff (houtcomes a (by simp)), ← isLiteral_eq_true_iff hnext, ha,
          hliteral]
        simp
      rw [exists_split_cons_iff fun h => hfine h.2]
      dsimp only [bind, Except.bind, pure, Except.pure]
      split
      case isTrue hboth =>
        refine iff_of_false (by simp) ?_
        rintro ⟨before, n, after, -, hnone, -⟩
        exact hnone (hasLiteralPair_cons_cons.mpr (.inl (hpair.mp hboth)))
      case isFalse hnot =>
        rw [ih hliteral fun m hm => houtcomes m (List.mem_cons_of_mem a hm)]
        refine exists₃_congr fun before n after => and_congr_right fun _ => ?_
        refine and_congr_left fun _ => ?_
        rw [hasLiteralPair_cons_cons, ← hpair, or_iff_right hnot]

/-- **The search for literals** is stopped by an operand that breaks off, unless two literals stand
side by side before it. -/
theorem exists_literalPair_eq_error_iff {operands : List Node}
    (houtcomes : ∀ n ∈ operands, Outcomes Node.literalValue n) :
    (∃ e, literalPair operands = .error e) ↔ ∃ before n after,
      operands = before ++ n :: after ∧ ¬ HasLiteralPair before ∧ n.BreaksOff := by
  cases operands with
  | nil => simp [literalPair]
  | cons first rest =>
    have hfirst := houtcomes first List.mem_cons_self
    have hnone : ¬ HasLiteralPair [] := by
      rintro ⟨x, y, hinfix, -⟩
      simp at hinfix
    rw [literalPair]
    cases hliteral : first.isLiteral with
    | error e =>
      have hbreaks : first.BreaksOff := (exists_isLiteral_eq_error_iff hfirst).mp ⟨e, hliteral⟩
      exact iff_of_true ⟨e, rfl⟩ ⟨[], first, rest, rfl, hnone, hbreaks⟩
    | ok known =>
      have hfine : ¬ first.BreaksOff := by
        rw [← exists_isLiteral_eq_error_iff hfirst, hliteral]
        simp
      rw [exists_split_cons_iff fun h => hfine h.2]
      exact exists_go_eq_error_iff hliteral houtcomes

end Literals

/-! ### Numbers beside lengths -/

/-- A prefix operator that makes no number: it is no sign, or it stands before something else than a
number. -/
def Node.IsOpaquePrefix (n : Node) : Prop :=
  ∃ op operand, n.shape = .unary op operand ∧ ¬ (isSign op = true ∧ operand.isNumber = true)

section Numbers

variable {n : Node}

theorem Node.IsOpaquePrefix.kind_eq (h : n.IsOpaquePrefix) : n.kind = .unary := by
  obtain ⟨op, operand, hshape, -⟩ := h
  rw [Node.kind, hshape]
  rfl

/-- A prefix operator has a value if it is the sign of a number. -/
theorem literalValue_of_unary {op : UnaryOp} {operand : Node} (h : n.shape = .unary op operand) :
    (¬ n.IsOpaquePrefix ∧ ∃ v, n.literalValue = .ok v) ∨
      n.IsOpaquePrefix ∧ n.literalValue = .error .notConstant := by
  obtain ⟨id, position, shape⟩ := n
  obtain rfl : shape = .unary op operand := h
  have hvalue : (Node.mk id position (.unary op operand)).literalValue =
      if isSign op then (plainNumber operand).bind (applySign op) else .error .notConstant := rfl
  by_cases hboth : isSign op = true ∧ operand.isNumber = true
  · obtain ⟨literal, hliteral, hnumber⟩ := (Option.any_eq_true _ _).mp hboth.2
    obtain ⟨v, hv⟩ := applySign_isOk hnumber op
    refine .inl ⟨?_, v, ?_⟩
    · rintro ⟨op', operand', hshape, hnot⟩
      obtain ⟨rfl, rfl⟩ := Shape.unary.inj hshape
      exact hnot hboth
    · rw [hvalue, if_pos hboth.1, plainNumber_eq hliteral hnumber]
      exact hv
  · refine .inr ⟨⟨op, operand, rfl, hboth⟩, ?_⟩
    rw [hvalue]
    split
    case isFalse => rfl
    case isTrue hsign =>
      rcases plainNumber_cases operand with hplain | ⟨literal, hliteral, hnumber, -⟩
      · rw [hplain]
        rfl
      · exact absurd ⟨hsign, by rw [Node.isNumber, hliteral, Option.any_some, hnumber]⟩ hboth

/-- What looks like a number has a value, unless a prefix operator makes no number. -/
theorem literalValue_of_looks (h : (n.isNumber || n.kind == .unary) = true) :
    (¬ n.IsOpaquePrefix ∧ ∃ v, n.literalValue = .ok v) ∨
      n.IsOpaquePrefix ∧ n.literalValue = .error .notConstant := by
  rcases (Bool.or_eq_true _ _).mp h with hnumber | hkind
  · obtain ⟨id, position, shape⟩ := n
    cases shape with
    | constant literal kind => exact .inl ⟨fun hprefixed => (by cases hprefixed.kind_eq), _, rfl⟩
    | _ => cases hnumber
  · obtain ⟨op, operand, hshape⟩ := Node.exists_unary (beq_iff_eq.mp hkind)
    exact literalValue_of_unary hshape

/-- A length cannot be judged against a prefix operator that makes no number. -/
theorem isUsefulLength_eq_error_iff {op : CompareOp} {e : EvaluationError} :
    isUsefulLength op n = .error e ↔ e = .notConstant ∧ n.IsOpaquePrefix := by
  unfold isUsefulLength
  split
  case isFalse hlooks =>
    refine iff_of_false (by simp) fun h => hlooks ?_
    rw [h.2.kind_eq]
    simp
  case isTrue hlooks =>
    rcases literalValue_of_looks hlooks with ⟨hnot, v, hv⟩ | ⟨hprefixed, hv⟩
    · refine iff_of_false ?_ fun h => hnot h.2
      rw [hv]
      dsimp only [bind, Except.bind, pure, Except.pure]
      split
      · simp
      · split <;> simp
    · rw [hv]
      simp [bind, Except.bind, hprefixed, eq_comm]

variable {left : Node} {ops : List CompareOp} {rights : List Node} {place : Nat}

theorem isUsefulLengthAt_eq_error_iff (hlength : ops.length = rights.length) (hne : ops ≠ [])
    (hplace : place ≤ rights.length) {fault : Fault} :
    isUsefulLengthAt ops rights place = .error fault ↔ fault = .evaluation .notConstant ∧
      ∃ partner, (left :: rights)[partnerPlace rights.length place]? = some partner ∧
        partner.IsOpaquePrefix := by
  obtain ⟨op, right, hop, hright⟩ := exists_partners hlength hne hplace
  have hmap : (isUsefulLength op right).mapError Fault.evaluation = .error fault ↔
      fault = .evaluation .notConstant ∧ right.IsOpaquePrefix := by
    cases huseful : isUsefulLength op right with
    | ok isUseful =>
      refine iff_of_false (by simp [Except.mapError]) fun h => ?_
      rw [isUsefulLength_eq_error_iff.mpr ⟨rfl, h.2⟩] at huseful
      cases huseful
    | error e =>
      obtain ⟨rfl, hprefixed⟩ := isUsefulLength_eq_error_iff.mp huseful
      simp [Except.mapError, hprefixed, eq_comm]
  rw [isUsefulLengthAt, hop, hright]
  dsimp only
  rw [hmap]
  rw [lengthPartner?_eq_getElem? rfl] at hright
  obtain ⟨k, hk⟩ := Nat.exists_eq_add_of_le' (one_le_partnerPlace rights.length place)
  rw [hk, Nat.add_sub_cancel] at hright
  rw [hk, List.getElem?_cons_succ, hright]
  simp

end Numbers

/-! ### The lengths of one chain -/

section Lengths

variable {q : Program} {s t : Site} {seen : Rendered}

/-- If the expression is a call, what it calls has a text. -/
def Node.callsText (n : Node) (printer : Printer) : Bool :=
  match n.shape with
  | .call func _ _ => (printer.node Precedence.tightest func).isOk
  | _ => true

theorem Node.exists_line_of_callsText {n func : Node} {printer : Printer}
    {args keywords : List Node} (htext : n.callsText printer = true)
    (h : n.shape = .call func args keywords) :
    ∃ line, printer.node Precedence.tightest func = .ok line := by
  rw [callsText, h] at htext
  dsimp only at htext
  cases hline : printer.node Precedence.tightest func with
  | ok line => exact ⟨line, rfl⟩
  | error e =>
    rw [hline] at htext
    cases htext

/-- The lengths of a chain can all be judged, or they stop the check. -/
theorem Program.fault_lengthCompares_eq_none_iff {operands : List Site} {ops : List CompareOp}
    {rights : List Node} {place : Nat} (hwalk : ∀ t ∈ operands, t ∈ q.walk)
    (htexts : ∀ t ∈ operands, t.node.callsText seen.printer = true) :
    (lengthCompares seen s ops rights place operands).1.fault = none ↔
      ∀ i t, operands[i]? = some t → t.node.IsCallOf seen.printer "len" →
        ∀ fault, isUsefulLengthAt ops rights (place + i) ≠ .error fault := by
  induction operands generalizing seen place with
  | nil => simp [lengthCompares, Report.empty]
  | cons t rest ih =>
    -- what the rest says is about the places after this one
    have hrest {seen' : Rendered} (hprinter : seen'.printer = seen.printer) :
        (lengthCompares seen' s ops rights (place + 1) rest).1.fault = none ↔
          ∀ i u, (t :: rest)[i + 1]? = some u → u.node.IsCallOf seen.printer "len" →
            ∀ fault, isUsefulLengthAt ops rights (place + (i + 1)) ≠ .error fault := by
      rw [ih (fun u hu => hwalk u (List.mem_cons_of_mem t hu))
        fun u hu => hprinter ▸ htexts u (List.mem_cons_of_mem t hu), hprinter]
      simp only [List.getElem?_cons_succ, Nat.add_right_comm, Nat.add_assoc]
    have hsplit (P : Nat → Prop) : (∀ i, P i) ↔ P 0 ∧ ∀ i, P (i + 1) :=
      ⟨fun h => ⟨h 0, fun i => h (i + 1)⟩, fun h i => Nat.casesOn i h.1 h.2⟩
    rw [hsplit]
    rcases lengthCompares_cases (hwalk t List.mem_cons_self) seen s ops rights place rest with
      ⟨func, args, keywords, e, hshape, herror, -⟩ | ⟨hother, seen', hprinter, hreport⟩ |
      ⟨hlength, seen', hprinter, hreport⟩
    · obtain ⟨line, hline⟩ := Node.exists_line_of_callsText (htexts t List.mem_cons_self) hshape
      rw [hline] at herror
      cases herror
    · rw [hreport, hrest hprinter]
      refine (and_iff_right fun u hu hcall => ?_).symm
      obtain rfl : t = u := Option.some.inj hu
      exact absurd hcall hother
    · rw [hreport, Report.fault_andThen, Option.or_eq_none_iff, hrest hprinter,
        Option.eq_none_iff_forall_ne_some]
      refine and_congr_left fun _ => ?_
      simp only [ne_eq, fault_lengthReport_iff]
      constructor
      · intro h u hu _
        exact h
      · intro h
        exact h t rfl hlength

end Lengths

/-! ### The whole check -/

/-- What stops the check at a comparison: an operand breaks off, unless two literals stand side by
side before it; or a length is held against a prefix operator that makes no number. -/
inductive Node.StopsComparisons (n : Node) (printer : Printer) : Prop
  | operand {left operand : Node} {ops : List CompareOp} {rights before after : List Node}
      (h : n.shape = .compare left ops rights)
      (hsplit : left :: rights = before ++ operand :: after)
      (hpair : ¬ HasLiteralPair before) (hbreaks : operand.BreaksOff) :
      n.StopsComparisons printer
  | length {left call partner : Node} {ops : List CompareOp} {rights : List Node} {place : Nat}
      (h : n.shape = .compare left ops rights) (hcall : (left :: rights)[place]? = some call)
      (hlength : call.IsCallOf printer "len")
      (hpartner : (left :: rights)[partnerPlace rights.length place]? = some partner)
      (hprefixed : partner.IsOpaquePrefix) : n.StopsComparisons printer

section Sites

variable {q : Program} {s : Site} {seen : Rendered} {left : Node} {ops : List CompareOp}
  {rights : List Node}

theorem fault_operandFindings_eq_none_iff {n : Node} {operands : List Node} :
    (operandFindings n ops operands rights).fault = none ↔
      ¬ ∃ e, literalPair operands = .error e := by
  unfold operandFindings
  cases literalPair operands <;> simp [Report.stopped, Report.ofFindings]

theorem Program.fault_lengths_eq_none_iff (hs : s ∈ q.walk)
    (hwhole : s.node.hasWholeChain = true)
    (htexts : ∀ n ∈ q.root.walk, n.callsText seen.printer = true)
    (h : s.node.shape = .compare left ops rights) :
    (lengthCompares seen s ops rights 0 s.operands).1.fault = none ↔
      ¬ ∃ place call partner, (left :: rights)[place]? = some call ∧
        call.IsCallOf seen.printer "len" ∧
        (left :: rights)[partnerPlace rights.length place]? = some partner ∧
        partner.IsOpaquePrefix := by
  obtain ⟨hne, hlength⟩ := Node.length_eq_of_hasWholeChain hwhole h
  have hwalk (t : Site) (ht : t ∈ s.operands) : t ∈ q.walk := mem_walk_of_mem_operands hs ht
  have hplace {place : Nat} {call : Node} (hcall : (left :: rights)[place]? = some call) :
      place ≤ rights.length := Nat.le_of_lt_succ (List.getElem?_eq_some_iff.mp hcall).1
  rw [fault_lengthCompares_eq_none_iff hwalk fun t ht => htexts _ (node_mem_walk (hwalk t ht))]
  simp only [Nat.zero_add]
  constructor
  · rintro hjudged ⟨place, call, partner, hcall, hlen, hpartner, hprefixed⟩
    refine hjudged place (s.under call) ?_ hlen _
      ((isUsefulLengthAt_eq_error_iff hlength hne (hplace hcall)).mpr
        ⟨rfl, partner, hpartner, hprefixed⟩)
    rw [Site.getElem?_operands h, hcall]
    rfl
  · intro hnone place t ht hlen fault herror
    rw [Site.getElem?_operands h] at ht
    obtain ⟨call, hcall, rfl⟩ := Option.map_eq_some_iff.mp ht
    obtain ⟨-, partner, hpartner, hprefixed⟩ :=
      (isUsefulLengthAt_eq_error_iff hlength hne (hplace hcall)).mp herror
    exact hnone ⟨place, call, partner, hcall, hlen, hpartner, hprefixed⟩

/-- **One comparison** lets the check go on exactly if it does not stop it. -/
theorem Program.fault_comparisons_eq_none_iff (hs : s ∈ q.walk)
    (hwhole : ∀ n ∈ q.root.walk, n.hasWholeChain = true)
    (hpaired : ∀ n ∈ q.root.walk, n.isPaired = true)
    (htexts : ∀ n ∈ q.root.walk, n.callsText seen.printer = true) :
    (comparisons seen s).1.fault = none ↔ ¬ s.node.StopsComparisons seen.printer := by
  by_cases hcompare : ∃ left ops rights, s.node.shape = .compare left ops rights
  case neg =>
    have hempty : (comparisons seen s).1 = .empty :=
      Classical.byContradiction fun h => hcompare (exists_compare_of_comparisons h)
    refine iff_of_true (by rw [hempty]; rfl) ?_
    rintro (⟨hshape, -, -, -⟩ | ⟨hshape, -, -, -, -⟩)
    · exact hcompare ⟨_, _, _, hshape⟩
    · exact hcompare ⟨_, _, _, hshape⟩
  case pos =>
    obtain ⟨left, ops, rights, hshape⟩ := hcompare
    have hself := hwhole _ (node_mem_walk hs)
    obtain ⟨hne, -⟩ := Node.length_eq_of_hasWholeChain hself hshape
    have houtcomes (n : Node) (hn : n ∈ left :: rights) : Outcomes Node.literalValue n := by
      have hwalk : n ∈ q.root.walk :=
        child_mem_walk (node_mem_walk hs) (by rwa [Node.children, hshape])
      exact literalValue_isReader.outcomes fun m hm => hpaired m (mem_walk_of_mem_walk hwalk hm)
    have hchain : (chainFindings s.node ops).fault = none := by
      rw [chainFindings, if_neg (by rwa [List.isEmpty_iff])]
      rfl
    rw [comparisons_eq hshape, Report.fault_andThen, hchain, Option.or_none, Report.fault_andThen,
      Option.or_eq_none_iff, fault_operandFindings_eq_none_iff,
      exists_literalPair_eq_error_iff houtcomes, fault_lengths_eq_none_iff hs hself htexts hshape,
      ← not_or]
    refine not_congr ⟨?_, ?_⟩
    · rintro (⟨before, n, after, hsplit, hpair, hbreaks⟩ |
        ⟨place, call, partner, hcall, hlen, hpartner, hprefixed⟩)
      · exact .operand hshape hsplit hpair hbreaks
      · exact .length hshape hcall hlen hpartner hprefixed
    · rintro (⟨h, hsplit, hpair, hbreaks⟩ | ⟨h, hcall, hlen, hpartner, hprefixed⟩)
      · obtain ⟨rfl, rfl, rfl⟩ := Shape.compare.inj (hshape.symm.trans h)
        exact .inl ⟨_, _, _, hsplit, hpair, hbreaks⟩
      · obtain ⟨rfl, rfl, rfl⟩ := Shape.compare.inj (hshape.symm.trans h)
        exact .inr ⟨_, _, _, hcall, hlen, hpartner, hprefixed⟩

end Sites

/-- **When the check of comparisons comes to its end**: if no comparison stops it. If one does,
everything after it is lost: the report is the one for the sites up to the comparison. Chains have
to be whole, dictionaries need a value for each key, and the printer needs a text for what is
called. -/
theorem comparisons_completes_iff (subject : Subject) (memory : Memory)
    (hwhole : ∀ n ∈ subject.program.root.walk, n.hasWholeChain = true)
    (hpaired : ∀ n ∈ subject.program.root.walk, n.isPaired = true)
    (htexts : ∀ n ∈ subject.program.root.walk, n.callsText memory.rendered.printer = true) :
    ((Check.comparisons.judge subject memory).1.fault = none ↔
      ∀ n ∈ subject.program.root.walk, ¬ n.StopsComparisons memory.rendered.printer) ∧
    ∀ past s rest, subject.program.sites = past ++ s :: rest →
      s.node.StopsComparisons memory.rendered.printer →
      (Check.comparisons.judge subject memory).1 =
        (comparisons.visit memory.rendered (past ++ [s])).1 := by
  have hsite (s : Site) (hs : s ∈ subject.program.sites) (later : Rendered)
      (hprinter : later.printer = memory.rendered.printer) :
      (comparisons later s).1.fault = none ↔
        ¬ s.node.StopsComparisons memory.rendered.printer := by
    rw [← hprinter] at htexts ⊢
    exact Program.fault_comparisons_eq_none_iff (Program.mem_walk_iff_mem_sites.mpr hs) hwhole
      hpaired htexts
  refine ⟨?_, fun past s rest hsplit hstops => ?_⟩
  · refine (comparisons_keepsPrinter.fault_visit_eq_none_iff_forall hsite).trans ?_
    constructor
    · intro hall n hn
      obtain ⟨s, hs, rfl⟩ := Program.exists_site hn
      exact hall s (Program.mem_walk_iff_mem_sites.mp hs)
    · intro hall s hs
      exact hall s.node (Program.node_mem_walk_of_mem_sites hs)
  · have hreport : (Check.comparisons.judge subject memory).1 =
        (comparisons.visit memory.rendered subject.program.sites).1 := rfl
    have hs : s ∈ subject.program.sites := hsplit ▸ List.mem_append_right past List.mem_cons_self
    rw [hreport, hsplit]
    have hprinter := comparisons_keepsPrinter.visit memory.rendered past
    exact RenderingRule.visit_eq_of_fault
      (fun hends => (hsite s hs _ hprinter).mp hends hstops) rest

/-- The chain `{(1, 2)} == first > len(items) > -1`. -/
def pairChain : Node :=
  .mk 2 (some ⟨1, 0⟩) (.compare
    (.mk 9 none (.setOf [.mk 10 none (.tuple [digit 11 1, digit 12 2] (some .load))]))
    [.eq, .gt, .gt] [firstItem, itemsLength, .mk 13 none (.unary .minus (digit 14 1))])

/-- The chain as a subject. -/
def pairSubject : Subject :=
  ⟨{ root := expressionFile pairChain, distinct := by decide }, [], "pairs.py", .initial⟩

theorem comparisons_completes_iff_pairSubject :
    (∀ n ∈ pairSubject.program.root.walk, n.hasWholeChain = true) ∧
    (∀ n ∈ pairSubject.program.root.walk, n.isPaired = true) ∧
    (∀ n ∈ pairSubject.program.root.walk, n.callsText {} = true) ∧
    (Check.comparisons.judge pairSubject {}).1.fault = none ∧
    ∀ n ∈ pairSubject.program.root.walk, ¬ n.StopsComparisons {} := by
  have hwhole : ∀ n ∈ pairSubject.program.root.walk, n.hasWholeChain = true := by decide
  have hpaired : ∀ n ∈ pairSubject.program.root.walk, n.isPaired = true := by decide
  have htexts : ∀ n ∈ pairSubject.program.root.walk, n.callsText {} = true := by decide
  have hends : (Check.comparisons.judge pairSubject {}).1.fault = none := rfl
  exact ⟨hwhole, hpaired, htexts, hends,
    (comparisons_completes_iff pairSubject {} hwhole hpaired htexts).1.mp hends⟩

/-- The comparison `{[1]} == first`. -/
def listTest : Node :=
  .mk 2 (some ⟨1, 0⟩) (.compare
    (.mk 4 none (.setOf [.mk 5 none (.list [digit 6 1] (some .load))])) [.eq] [firstItem])

/-- The comparison `len(items) > -first`. -/
def minusTest : Node :=
  .mk 2 (some ⟨1, 0⟩) (.compare itemsLength [.gt] [.mk 4 none (.unary .minus firstItem)])

/-- The comparison `1 == 1`. -/
def sameTest : Node :=
  .mk 10 (some ⟨2, 0⟩) (.compare (digit 11 1) [.eq] [digit 12 1])

/-- `{[1]} == first`, and then `1 == 1`. -/
def listSubject : Subject :=
  ⟨{ root := twoExpressions listTest sameTest, distinct := by decide }, [], "lists.py", .initial⟩

/-- `len(items) > -first`, and then `1 == 1`. -/
def minusSubject : Subject :=
  ⟨{ root := twoExpressions minusTest sameTest, distinct := by decide }, [], "minus.py", .initial⟩

/-- **The check gives up.** `1 == 1` alone is reported. It is not reported after `{[1]} == first`
or after `len(items) > -first`, because these comparisons stop the check. -/
theorem comparisons_gives_up :
    (comparisons {} sameTest.top).1 = .ofFindings [Violation.constantCompare.atNode sameTest] ∧
    (sameTest ∈ listSubject.program.root.walk ∧
      (Check.comparisons.judge listSubject {}).1 = .stopped (.evaluation .notKey)) ∧
    sameTest ∈ minusSubject.program.root.walk ∧
      (Check.comparisons.judge minusSubject {}).1 = .stopped (.evaluation .notConstant) :=
  ⟨rfl, ⟨mem_walk_twoExpressions, rfl⟩, mem_walk_twoExpressions, rfl⟩

end Stricture
