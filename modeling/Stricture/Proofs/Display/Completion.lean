import Stricture.Proofs.Comparison.Order
import Stricture.Proofs.Display.Duplicates
import Stricture.Proofs.Evaluation.Outcomes

/-!
# Displays that stop their check

The check of displays reads the items of a set or a dictionary and counts their values. An item that
cannot be evaluated is passed over, except for a sum that overflows. A list, a set or a dictionary
is counted by its text, since it cannot be counted itself.

Only the outermost container is looked at for that. A tuple that holds a list is counted as it is,
and stops the check, however deep the list lies inside of it (`not_isCounted_iff`).
Neither texts nor values can be written if there is a number with too many digits in them
(`Value.written?_eq_none_iff`). Values are not counted at all where two items have one text, so the
check goes on there. This is all that can stop it (`Site.StopsDisplays`), and what comes after is
not looked at any more.
-/

namespace Stricture

open Rules Evaluation

/-! ### Items that overflow -/

section Overflow

variable {n : Node} {e : EvaluationError}

theorem plainOperand_ne_tooLarge : plainOperand n ≠ .error .tooLarge := by
  unfold plainOperand
  split
  case h_2 => split <;> simp
  all_goals simp

theorem applySign_ne_tooLarge {op : UnaryOp} {v : Value} : applySign op v ≠ .error .tooLarge := by
  unfold applySign
  split <;> simp

/-- Only sums overflow, not their operands. -/
theorem signedOperand_ne_tooLarge : signedOperand n ≠ .error .tooLarge := by
  unfold signedOperand
  split
  case h_1 op operand _ =>
    split
    case isTrue =>
      cases hoperand : plainOperand operand with
      | ok v => exact applySign_ne_tooLarge
      | error e =>
        intro h
        obtain rfl := Except.error.inj h
        exact plainOperand_ne_tooLarge hoperand
    case isFalse => simp
  case h_2 => exact plainOperand_ne_tooLarge

/-- What overflows is evaluated, so that it is never passed over. -/
theorem isValuedItem_of_tooLarge (h : n.namedValue = .error .tooLarge) : isValuedItem n = true := by
  have hsigned (hn : n.namedValue = signedOperand n) : isValuedItem n = true :=
    absurd (hn ▸ h) signedOperand_ne_tooLarge
  obtain ⟨id, position, shape⟩ := n
  cases shape with
  | constant value kind => cases h
  | tuple | list | setOf | dict | binary => rfl
  | functionDef mode | forLoop mode | withBlock mode => cases mode <;> exact hsigned rfl
  | _ => exact hsigned rfl

theorem itemValue_eq_error_iff {item : Option Site} :
    itemValue item = .error e ↔ e = .tooLarge ∧
      ∃ t, item = some t ∧ t.node.bareItem.namedValue = .error .tooLarge := by
  cases item with
  | none => simp [itemValue]
  | some t =>
    have hbare : t.node.unwrapUnary.unwrapStarred = t.node.bareItem := rfl
    simp only [itemValue, hbare, Option.some.injEq, exists_eq_left']
    by_cases hvalued : isValuedItem t.node.bareItem = true
    · rw [if_pos hvalued]
      cases t.node.bareItem.namedValue with
      | ok v => simp
      | error e' => cases e' <;> simp [eq_comm]
    · rw [if_neg hvalued]
      refine iff_of_false (by simp) fun h => hvalued (isValuedItem_of_tooLarge h.2)

/-- An item is read unless it is compared by its text and has none, or it overflows. -/
theorem isRead_iff {line : Site → Line} {item : Option Site} : IsRead line item ↔
    ∀ t, item = some t →
      (isSimpleItem t.node.unwrapUnary = true → ∃ text, line t = .ok text) ∧
        t.node.bareItem.namedValue ≠ .error .tooLarge := by
  constructor
  · rintro ⟨r, hr⟩ t rfl
    obtain ⟨htext, hvalue⟩ := readItem_eq_ok_iff.mp hr
    refine ⟨fun hsimple => ?_, fun hfails => ?_⟩
    · cases hline : line t with
      | ok text => exact ⟨text, rfl⟩
      | error e => simp [itemText, hsimple, hline, Except.map] at htext
    · rw [itemValue_eq_error_iff.mpr ⟨rfl, t, rfl, hfails⟩] at hvalue
      cases hvalue
  · intro h
    have htext : ∃ text, itemText line item = .ok text := by
      cases item with
      | none => exact ⟨none, rfl⟩
      | some t =>
        by_cases hsimple : isSimpleItem t.node.unwrapUnary = true
        · obtain ⟨text, hline⟩ := (h t rfl).1 hsimple
          exact ⟨some (bareText text), by simp [itemText, hsimple, hline, Except.map]⟩
        · exact ⟨none, by simp [itemText, hsimple]⟩
    have hvalue : ∃ v, itemValue item = .ok v := by
      cases hitem : itemValue item with
      | ok v => exact ⟨v, rfl⟩
      | error e =>
        obtain ⟨-, t, rfl, hfails⟩ := itemValue_eq_error_iff.mp hitem
        exact absurd hfails (h t rfl).2
    obtain ⟨text, htext⟩ := htext
    obtain ⟨v, hvalue⟩ := hvalue
    exact ⟨(text, v), readItem_eq_ok_iff.mpr ⟨htext, hvalue⟩⟩

end Overflow

/-! ### Items that cannot be counted -/

section Counting

variable {write : Value → Option String} {n : Node} {v : Value}

/-- A value can be counted: it is a key, or it may change and has a text. -/
def IsCounted (write : Value → Option String) (v : Value) : Prop :=
  ∃ key, comparedValue write v = some key ∧ key.isKey = true

theorem isCounted_iff_of_isMutable (h : v.isMutable = true) :
    IsCounted write v ↔ write v ≠ none := by
  rw [IsCounted, comparedValue, if_pos h, Option.ne_none_iff_exists']
  constructor
  · rintro ⟨key, hkey, -⟩
    obtain ⟨text, htext, -⟩ := Option.map_eq_some_iff.mp hkey
    exact ⟨text, htext⟩
  · rintro ⟨text, htext⟩
    exact ⟨.text text, by rw [htext]; rfl, rfl⟩

theorem isCounted_iff_of_not_isMutable (h : v.isMutable = false) :
    IsCounted write v ↔ v.isKey = true := by
  simp [IsCounted, comparedValue, h]

theorem isMutable_eq_false_of_isKey (h : v.isKey = true) : v.isMutable = false := by
  cases v with
  | list | setOf | dict => cases h
  | _ => rfl

/-- Tuples are written as tuples, what may change as what may change, and all other values are
keys. -/
theorem sort_of_namedValue (hv : n.namedValue = .ok v) :
    (n.kind = .tuple ∧ v.isMutable = false) ∨
      (n.isAny [.list, .setOf, .dict] = true ∧ v.isMutable = true) ∨
      (n.isContainer = false ∧ v.isKey = true) := by
  by_cases hcontainer : n.isContainer = true
  · obtain ⟨id, position, shape⟩ := n
    rcases Node.isContainer_cases hcontainer with
      ⟨elements, usage, hshape⟩ | ⟨elements, usage, hshape⟩ | ⟨elements, hshape⟩ |
      ⟨keys, values, hshape⟩ <;> obtain rfl := hshape <;> rw [Node.namedValue] at hv <;>
      obtain ⟨vs, rfl⟩ := exists_eq_of_map_eq_ok hv
    · exact .inl ⟨rfl, rfl⟩
    · exact .inr (.inl ⟨rfl, rfl⟩)
    · exact .inr (.inl ⟨rfl, rfl⟩)
    · exact .inr (.inl ⟨rfl, rfl⟩)
  · have hplain : n.isContainer = false := Bool.eq_false_iff.mpr hcontainer
    -- a call has no value here, so that everything else can be counted
    have hcall : n.kind ≠ .call := by
      intro hcall
      obtain ⟨id, position, shape⟩ := n
      cases shape with
      | call => cases hv
      | functionDef mode | forLoop mode | withBlock mode => cases mode <;> cases hcall
      | _ => cases hcall
    exact .inr (.inr ⟨hplain, by rwa [← Bool.not_eq_false, namedValue_isReader.plain hplain hv]⟩)

/-- **What cannot be counted**: a tuple that holds, at some depth, what may change; and a list, a
set or a dictionary that cannot be written. -/
theorem not_isCounted_iff (h : Outcomes Node.namedValue n) (hv : n.namedValue = .ok v) :
    ¬ IsCounted write v ↔
      n.kind = .tuple ∧ n.Changes ∨ n.isAny [.list, .setOf, .dict] = true ∧ write v = none := by
  rcases sort_of_namedValue hv with ⟨hkind, himmutable⟩ | ⟨hkind, hmutable⟩ | ⟨hplain, hkey⟩
  · rw [isCounted_iff_of_not_isMutable himmutable, Bool.not_eq_true, h.changes hv]
    simp [hkind, Node.isAny]
  · rw [isCounted_iff_of_isMutable hmutable, not_not]
    have htuple : n.kind ≠ .tuple := by
      intro htuple
      simp [Node.isAny, htuple] at hkind
    simp [hkind, htuple]
  · rw [isCounted_iff_of_not_isMutable (isMutable_eq_false_of_isKey hkey)]
    have hkinds : n.kind ∉ [.tuple, .list, .setOf, .dict] := by
      rwa [← List.contains_iff_mem, Bool.not_eq_true]
    simp only [List.mem_cons, not_or] at hkinds
    simp [hkey, Node.isAny, hkinds]

/-- Values are counted up to the first one that cannot be. -/
theorem fault_repeatedValues_eq_none_iff {seen values : List Value} :
    (repeatedValues write n seen values).fault = none ↔ ∀ v ∈ values, IsCounted write v := by
  induction values generalizing seen with
  | nil => simp [repeatedValues, Report.empty]
  | cons v rest ih =>
    rw [repeatedValues, List.forall_mem_cons]
    split
    case h_1 hnone =>
      refine iff_of_false (by simp [Report.stopped]) ?_
      rintro ⟨⟨key, hkey, -⟩, -⟩
      rw [hnone] at hkey
      cases hkey
    case h_2 key hcompared =>
      split
      case isTrue hkey =>
        rw [Report.fault_andThen, Option.or_eq_none_iff, ih]
        exact and_congr_left fun _ => iff_of_true rfl ⟨key, hcompared, hkey⟩
      case isFalse hkey =>
        refine iff_of_false (by simp [Report.stopped]) ?_
        rintro ⟨⟨other, hother, hiskey⟩, -⟩
        obtain rfl := Option.some.inj (hcompared.symm.trans hother)
        exact hkey hiskey

end Counting

/-! ### Numbers that are too long -/

namespace Value

/-- A number has too many digits from a power of ten on. -/
theorem isTooLong_iff {n : Int} : isTooLong n = true ↔ Nat.pow 10 maxDigits ≤ n.natAbs := by
  rw [isTooLong, decide_eq_true_iff, ← not_le, Nat.length_repr_le_iff (by decide), not_lt,
    Nat.pow_eq]

theorem written?_eq_none_iff {v : Value} : v.written? = Option.none ↔ v.holdsLong = true := by
  unfold written?
  split <;> simp [*]

end Value

/-- A number with too many digits has no text. -/
theorem Node.render_of_isTooLong {k : Int} (h : Value.isTooLong k = true) {n : Node}
    {kind : Option String} (hshape : n.shape = .constant (.int k) kind) (slot : Nat) :
    n.render true slot = .error .wrongConversion := by
  obtain ⟨id, position, shape⟩ := n
  obtain rfl : shape = .constant (.int k) kind := hshape
  have hnumber : Rendering.number (.int k) = .error .wrongConversion := by
    have hnone : (Value.int k).written? = none := Value.written?_eq_none_iff.mpr h
    change Rendering.valueLine (Value.int k).written? = _
    rw [hnone]
    rfl
  change Line.delimit Precedence.number slot (Rendering.number (.int k)) = _
  rw [hnumber, Line.delimit]
  split <;> rfl

/-! ### The whole check -/

/-- What stops the check at a display: an item that is compared by its text has none, or an item
overflows. If no two items look alike, so that values are counted, it is stopped as well by a tuple
that has a value and holds what may change, and by a list, a set or a dictionary whose value cannot
be written. -/
inductive Site.StopsDisplays (seen : Rendered) (s : Site) : Prop
  | unwritten {t : Site} {e : RenderingError} (ht : some t ∈ displayItems s)
      (hsimple : isSimpleItem t.node.unwrapUnary = true) (h : seen.line t = .error e) :
      s.StopsDisplays seen
  | overflow {t : Site} (ht : some t ∈ displayItems s)
      (h : Fails Node.namedValue t.node.bareItem .tooLarge) : s.StopsDisplays seen
  | changing {t : Site} (ht : some t ∈ displayItems s) (hkind : t.node.bareItem.kind = .tuple)
      (hvalue : HasValue Node.namedValue t.node.bareItem) (h : t.node.bareItem.Changes)
      (htexts : ¬ seen.HasTextTwice s) : s.StopsDisplays seen
  | unwritable {t : Site} {v : Value} (ht : some t ∈ displayItems s)
      (hkind : t.node.bareItem.isAny [.list, .setOf, .dict] = true)
      (hvalue : t.node.bareItem.namedValue = .ok v) (h : seen.printer.value v = none)
      (htexts : ¬ seen.HasTextTwice s) : s.StopsDisplays seen

section Sites

variable {s : Site} {seen : Rendered}

theorem Node.bareItem_mem_walk (n : Node) : n.bareItem ∈ n.walk := by
  rw [mem_walk_iff]
  refine (mem_walk_iff.mp n.unwrapUnary_mem_walk).trans ?_
  unfold bareItem unwrapStarred
  split
  case h_1 hshape => exact .single (mem_children_of_shape hshape (by simp [Shape.children]))
  case h_2 => exact .refl

/-- All items are read unless one of them has no text or overflows. -/
theorem forall_isRead_iff
    (houtcomes : ∀ t, some t ∈ displayItems s → Outcomes Node.namedValue t.node.bareItem) :
    (∀ item ∈ displayItems s, IsRead seen.line item) ↔ ∀ t, some t ∈ displayItems s →
      (∀ e, isSimpleItem t.node.unwrapUnary = true → seen.line t ≠ .error e) ∧
        ¬ Fails Node.namedValue t.node.bareItem .tooLarge := by
  have hone {t : Site} (ht : some t ∈ displayItems s) : IsRead seen.line (some t) ↔
      (∀ e, isSimpleItem t.node.unwrapUnary = true → seen.line t ≠ .error e) ∧
        ¬ Fails Node.namedValue t.node.bareItem .tooLarge := by
    simp only [isRead_iff, Option.some.injEq, forall_eq', Ne, (houtcomes t ht).fails]
    refine and_congr_left fun _ => ⟨fun h e hsimple herror => ?_, fun h hsimple => ?_⟩
    · obtain ⟨text, htext⟩ := h hsimple
      rw [htext] at herror
      cases herror
    · cases hline : seen.line t with
      | ok text => exact ⟨text, rfl⟩
      | error e => exact absurd hline (h e hsimple)
  refine ⟨fun h t ht => (hone ht).mp (h _ ht), fun h item hitem => ?_⟩
  cases item with
  | none => exact ⟨(none, some .none), rfl⟩
  | some t => exact (hone hitem).mpr (h t hitem)

theorem isRead_of_fault_displays (h : (displays seen s).1.fault = none) {item : Option Site}
    (hitem : item ∈ displayItems s) : IsRead seen.line item := by
  rw [displays, Report.fault_andThen, Option.or_eq_none_iff] at h
  cases hread : readItems seen.line (displayItems s) with
  | ok read => exact (readItems_eq_ok_iff.mp hread).1 item hitem
  | error fault =>
    rw [repeatedItems, hread] at h
    cases h.1

/-- The values of a display can all be counted unless a tuple among them holds what may change, or
what may change itself cannot be written. -/
theorem forall_isCounted_iff {write : Value → Option String}
    (houtcomes : ∀ t, some t ∈ displayItems s → Outcomes Node.namedValue t.node.bareItem) :
    (∀ v ∈ (displayItems s).filterMap knownValue?, IsCounted write v) ↔
      ∀ t v, some t ∈ displayItems s → t.node.bareItem.namedValue = .ok v →
        ¬ (t.node.bareItem.kind = .tuple ∧ t.node.bareItem.Changes ∨
          t.node.bareItem.isAny [.list, .setOf, .dict] = true ∧ write v = none) := by
  constructor
  · intro h t v ht hv hnot
    have hvalued : isValuedItem t.node.bareItem = true := by
      rcases hnot with ⟨hkind, -⟩ | ⟨hkind, -⟩
      · simp [isValuedItem, Node.isAny, hkind]
      · have hkinds := List.contains_iff_mem.mp hkind
        simp only [isValuedItem, Node.isAny, Bool.or_eq_true, List.contains_iff_mem]
        exact .inr (List.mem_cons_of_mem _ (List.mem_of_mem_dropLast hkinds))
    have hknown : knownValue? (some t) = some v := knownValue?_eq_some_iff.mpr ⟨hvalued, hv⟩
    exact (not_isCounted_iff (houtcomes t ht) hv).mpr hnot
      (h v (List.mem_filterMap.mpr ⟨_, ht, hknown⟩))
  · intro h v hv
    obtain ⟨item, hitem, hknown⟩ := List.mem_filterMap.mp hv
    cases item with
    | none =>
      obtain rfl : Value.none = v := Option.some.inj hknown
      exact ⟨.none, rfl, rfl⟩
    | some t =>
      obtain ⟨-, hvalue⟩ := knownValue?_eq_some_iff.mp hknown
      exact not_not.mp fun hnot =>
        h t v hitem hvalue ((not_isCounted_iff (houtcomes t hitem) hvalue).mp hnot)

/-- **One display** lets the check go on exactly if it does not stop it. -/
theorem fault_displays_eq_none_iff
    (houtcomes : ∀ t, some t ∈ displayItems s → Outcomes Node.namedValue t.node.bareItem) :
    (displays seen s).1.fault = none ↔ ¬ s.StopsDisplays seen := by
  have hchanging : (displays seen s).1.fault = (repeatedItems seen s).fault := by
    simp [displays, Report.fault_andThen, Report.ofFindings]
  rw [hchanging, repeatedItems]
  cases hread : readItems seen.line (displayItems s) with
  | error fault =>
    refine iff_of_false (by simp [Report.stopped]) fun hnot => ?_
    -- nothing stops the reading, so it does not fail
    have hall : ∀ item ∈ displayItems s, IsRead seen.line item :=
      (forall_isRead_iff houtcomes).mpr fun t ht =>
        ⟨fun e hsimple h => hnot (.unwritten ht hsimple h), fun h => hnot (.overflow ht h)⟩
    rw [readItems_eq_ok_iff.mpr ⟨hall, rfl, rfl⟩] at hread
    cases hread
  | ok read =>
    obtain ⟨hall, htexts, hvalues⟩ := readItems_eq_ok_iff.mp hread
    have hitems := (forall_isRead_iff houtcomes).mp hall
    dsimp only
    rw [htexts]
    cases htext : (repeated ((displayItems s).filterMap (knownText? seen.line))).head? with
    | some text =>
      have htwice : seen.HasTextTwice s := by
        by_contra hno
        rw [(head?_repeated_eq_none_iff hall).mpr hno] at htext
        cases htext
      refine iff_of_true rfl ?_
      rintro (⟨ht, hsimple, h⟩ | ⟨ht, h⟩ | ⟨-, -, -, -, hno⟩ | ⟨-, -, -, -, hno⟩)
      · exact (hitems _ ht).1 _ hsimple h
      · exact (hitems _ ht).2 h
      · exact hno htwice
      · exact hno htwice
    | none =>
      have hno : ¬ seen.HasTextTwice s := (head?_repeated_eq_none_iff hall).mp htext
      rw [fault_repeatedValues_eq_none_iff, hvalues, forall_isCounted_iff houtcomes]
      constructor
      · rintro hcounted
          (⟨ht, hsimple, h⟩ | ⟨ht, h⟩ | ⟨ht, hkind, hvalue, h, -⟩ | ⟨ht, hkind, hvalue, h, -⟩)
        · exact (hitems _ ht).1 _ hsimple h
        · exact (hitems _ ht).2 h
        · obtain ⟨v, hv⟩ := (houtcomes _ ht).hasValue.mpr hvalue
          exact hcounted _ v ht hv (.inl ⟨hkind, h⟩)
        · exact hcounted _ _ ht hvalue (.inr ⟨hkind, h⟩)
      · rintro hnot t v ht hv (⟨hkind, h⟩ | ⟨hkind, h⟩)
        · exact hnot (.changing ht hkind ((houtcomes t ht).hasValue.mp ⟨v, hv⟩) h hno)
        · exact hnot (.unwritable ht hkind hv h hno)

end Sites

theorem judge_displays (subject : Subject) (memory : Memory) :
    (Check.displays.judge subject memory).1 =
      (displays.visit memory.rendered subject.program.sites).1 := rfl

/-- **When the check of displays comes to its end**: if no display stops it. If one does, everything
after it is lost: the report is the one for the sites up to the display. Whatever the printer, the
texts of items are those that they have when the display is visited. Dictionaries need a value for
each key. -/
theorem displays_completes_iff (subject : Subject) (memory : Memory)
    (hpaired : ∀ n ∈ subject.program.root.walk, n.isPaired = true) :
    ((Check.displays.judge subject memory).1.fault = none ↔
      ∀ past s rest, subject.program.sites = past ++ s :: rest →
        ¬ s.StopsDisplays (displays.visit memory.rendered past).2) ∧
    ∀ past s rest, subject.program.sites = past ++ s :: rest →
      s.StopsDisplays (displays.visit memory.rendered past).2 →
      (Check.displays.judge subject memory).1 =
        (displays.visit memory.rendered (past ++ [s])).1 := by
  have hsite (past : List Site) (s : Site) (rest : List Site)
      (hsplit : subject.program.sites = past ++ s :: rest) (seen : Rendered) :
      (displays seen s).1.fault = none ↔ ¬ s.StopsDisplays seen := by
    have hs : s ∈ subject.program.sites := hsplit ▸ List.mem_append_right past List.mem_cons_self
    refine fault_displays_eq_none_iff fun t ht => ?_
    have ht : t.node ∈ subject.program.root.walk :=
      Program.child_mem_walk (Program.node_mem_walk_of_mem_sites hs)
        (Node.mem_children_of_mem_displayItems ht)
    have hbare := Program.mem_walk_of_mem_walk ht t.node.bareItem_mem_walk
    exact namedValue_isReader.outcomes fun m hm => hpaired m (Program.mem_walk_of_mem_walk hbare hm)
  refine ⟨?_, fun past s rest hsplit hstops => ?_⟩
  · rw [judge_displays, RenderingRule.fault_visit_eq_none_iff]
    exact forall₄_congr fun past s rest hsplit => hsite past s rest hsplit _
  · rw [judge_displays, hsplit]
    exact RenderingRule.visit_eq_of_fault
      (fun hends => (hsite past s rest hsplit _).mp hends hstops) rest

/-- The dictionary `{(1, 2): 3, **rest}` and the set `{[1]}`. -/
def countedItems : Node :=
  twoExpressions
    (.mk 2 (some ⟨1, 0⟩) (.dict
      [some (.mk 3 none (.tuple [digit 4 1, digit 5 2] (some .load))), none]
      [digit 6 3, .mk 7 none (.name "rest" (some .load))]))
    (.mk 10 (some ⟨2, 0⟩) (.setOf [.mk 11 none (.list [digit 12 1] (some .load))]))

/-- The two displays as a subject. -/
def countedSubject : Subject :=
  ⟨{ root := countedItems, distinct := by decide }, [], "items.py", .initial⟩

theorem displays_completes_iff_countedSubject :
    (∀ n ∈ countedSubject.program.root.walk, n.isPaired = true) ∧
    (Check.displays.judge countedSubject {}).1.fault = none ∧
    ∀ past s rest, countedSubject.program.sites = past ++ s :: rest →
      ¬ s.StopsDisplays (displays.visit {} past).2 := by
  have hpaired : ∀ n ∈ countedSubject.program.root.walk, n.isPaired = true := by decide
  have hends : (Check.displays.judge countedSubject {}).1.fault = none := rfl
  exact ⟨hpaired, hends, (displays_completes_iff countedSubject {} hpaired).1.mp hends⟩

/-- The set `{([1],)}`. -/
def nestedSet : Node :=
  .mk 2 (some ⟨1, 0⟩) (.setOf
    [.mk 3 none (.tuple [.mk 4 none (.list [digit 5 1] (some .load))] (some .load))])

/-- The set `{1, 1}`. -/
def sameSet : Node :=
  .mk 10 (some ⟨2, 0⟩) (.setOf [digit 11 1, digit 12 1])

/-- `{([1],)}`, and then `{1, 1}`. -/
def nestedSubject : Subject :=
  ⟨{ root := twoExpressions nestedSet sameSet, distinct := by decide }, [], "sets.py", .initial⟩

/-- A set of one item. -/
def singleSet (item : Node) : Node :=
  .mk 3 (some ⟨1, 0⟩) (.setOf [item])

/-- A file with such a set. -/
def singleSetFile (item : Node) : Node :=
  .mk 5 none (.file [.mk 4 (some ⟨1, 0⟩) (.expression (singleSet item))])

theorem displayItems_singleSet {item : Node} {s : Site} (h : s.node = singleSet item) :
    displayItems s = [some (s.under item)] := by
  rw [displayItems, h]
  rfl

theorem singleSet_mem_walk (item : Node) : singleSet item ∈ (singleSetFile item).walk := by
  refine Node.mem_walk_of_mem_children List.mem_cons_self ?_
  exact Node.mem_walk_of_mem_children List.mem_cons_self (singleSet item).mem_walk_self

theorem displays_keepsPrinter : displays.KeepsPrinter := by
  intro seen s
  exact Rendered.printer_markAll seen _

/-- Where a set of one item stops the check wherever it stands, the check of a file with it does not
come to its end. -/
theorem fault_judge_singleSet {subject : Subject} {item : Node}
    (hroot : subject.program.root = singleSetFile item)
    (h : ∀ (seen : Rendered) (s : Site), seen.printer = {} → s.node = singleSet item →
      (displays seen s).1.fault ≠ none) :
    (Check.displays.judge subject {}).1.fault ≠ none := by
  intro hends
  obtain ⟨s, hs, hnode⟩ := Program.exists_site (hroot ▸ singleSet_mem_walk item)
  obtain ⟨past, rest, hsplit⟩ := List.append_of_mem (Program.mem_walk_iff_mem_sites.mp hs)
  rw [judge_displays, RenderingRule.fault_visit_eq_none_iff] at hends
  exact h _ s (displays_keepsPrinter.visit {} past) hnode (hends past s rest hsplit)

/-- The set of a sum that overflows, as a subject. -/
def hugeSubject : Subject :=
  ⟨{ root := singleSetFile hugeSum, distinct := by decide }, [], "sums.py", .initial⟩

/-- The first whole number with too many digits. -/
def longNumber : Int :=
  Int.ofNat (Nat.pow 10 Value.maxDigits)

theorem isTooLong_longNumber : Value.isTooLong longNumber = true := by
  rw [Value.isTooLong_iff, longNumber, Int.ofNat_eq_natCast, Int.natAbs_natCast]

/-- The set of this number, as a subject. -/
def longSubject : Subject :=
  ⟨{ root := singleSetFile (digit 0 longNumber), distinct := by decide }, [], "long.py", .initial⟩

/-- The list of one number. -/
def singleList (k : Int) : Node :=
  .mk 1 none (.list [digit 0 k] (some .load))

/-- The set of the list of the number, as a subject. -/
def longListSubject : Subject :=
  ⟨{ root := singleSetFile (singleList longNumber), distinct := by decide }, [], "lists.py",
    .initial⟩

section Stops

variable {seen : Rendered} {s : Site} {k : Int}

theorem fault_displays_of_tooLarge {item : Node} (hitem : item.bareItem = item)
    (h : item.namedValue = .error .tooLarge) (hnode : s.node = singleSet item) :
    (displays seen s).1.fault ≠ none := by
  intro hends
  have hread := isRead_of_fault_displays hends (displayItems_singleSet hnode ▸ List.mem_cons_self)
  refine (isRead_iff.mp hread _ rfl).2 ?_
  rwa [Site.under, hitem]

theorem fault_displays_of_isTooLong (h : Value.isTooLong k = true) (hprinter : seen.printer = {})
    (hnode : s.node = singleSet (digit 0 k)) : (displays seen s).1.fault ≠ none := by
  intro hends
  have hread := isRead_of_fault_displays hends (displayItems_singleSet hnode ▸ List.mem_cons_self)
  obtain ⟨text, htext⟩ := (isRead_iff.mp hread _ rfl).1 rfl
  rw [Rendered.line, hprinter] at htext
  cases htext.symm.trans (Node.render_of_isTooLong h rfl _)

theorem fault_displays_of_singleList (h : Value.isTooLong k = true) (hprinter : seen.printer = {})
    (hnode : s.node = singleSet (singleList k)) : (displays seen s).1.fault ≠ none := by
  have hitems := displayItems_singleSet hnode
  have houtcomes (t : Site) (ht : some t ∈ displayItems s) :
      Outcomes Node.namedValue t.node.bareItem := by
    rw [hitems, List.mem_singleton, Option.some.injEq] at ht
    subst ht
    refine namedValue_isReader.outcomes fun m hm => ?_
    rcases List.mem_cons.mp hm with rfl | hm
    · rfl
    · obtain rfl := List.mem_singleton.mp hm
      rfl
  intro hends
  refine (fault_displays_eq_none_iff houtcomes).mp hends
    (.unwritable (hitems ▸ List.mem_cons_self) rfl rfl ?_ ?_)
  · rw [hprinter]
    exact Value.written?_eq_none_iff.mpr (by
      simp [Value.holdsLong, Value.anyHoldsLong, Value.ofLiteral, h])
  · rintro ⟨a, b, hpair, -⟩
    have hlength := hpair.length_le
    rw [hitems] at hlength
    simp at hlength

end Stops

/-- **The check gives up.** `{1, 1}` alone is reported. It is not reported after `{([1],)}`, because
this set stops the check. A sum that overflows stops it as well, and so does a number with too many
digits, in a set or in a list that is in a set. -/
theorem displays_gives_up :
    (displays {} sameSet.top).1 =
      .ofFindings [Violation.nonUniqueItemsInHash.atNode sameSet "1"] ∧
    (sameSet ∈ nestedSubject.program.root.walk ∧
      (Check.displays.judge nestedSubject {}).1 = .stopped .notKey) ∧
    (Check.displays.judge hugeSubject {}).1.fault ≠ none ∧
    (Check.displays.judge longSubject {}).1.fault ≠ none ∧
    (Check.displays.judge longListSubject {}).1.fault ≠ none := by
  refine ⟨rfl, ⟨mem_walk_twoExpressions, rfl⟩, fault_judge_singleSet rfl ?_,
    fault_judge_singleSet rfl ?_, fault_judge_singleSet rfl ?_⟩
  · intro seen s _ hnode
    exact fault_displays_of_tooLarge rfl hugeSum_fails.1 hnode
  · intro seen s hprinter hnode
    exact fault_displays_of_isTooLong isTooLong_longNumber hprinter hnode
  · intro seen s hprinter hnode
    exact fault_displays_of_singleList isTooLong_longNumber hprinter hnode

end Stricture
