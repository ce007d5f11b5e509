import Stricture.Proofs.Evaluation.Agreement
import Stricture.Proofs.Evaluation.Equality
import Stricture.Rules.Display

/-!
# Duplicate items of sets and dictionaries

A display is reported if two of its items look alike or count alike (`exists_report_iff`). What is
compared is not always what is written: prefix operators and stars are taken off, a name has the
value of a text, an entry that spreads another dictionary has the value of nothing, and a container
that may change is replaced by its text.

So two items that count alike may be duplicates (`AreDuplicates`: they have one text, or they are
literals with equal values), or they only resemble each other in one of these ways
(`Rendered.Resembles`). There is no other way (`Rendered.TakesForEqual.areDuplicates_or_resembles`).
-/

namespace Stricture

open Evaluation Rules

/-! ### Reading the items -/

/-- Two members of what a function makes of a list come from two members of the list. -/
theorem exists_pair_of_sublist_filterMap {α β : Type} {f : α → Option β} {as : List α} {b c : β}
    (h : [b, c].Sublist (as.filterMap f)) :
    ∃ x y, [x, y].Sublist as ∧ f x = some b ∧ f y = some c := by
  obtain ⟨kept, hkept, hpair⟩ := List.sublist_filterMap_iff.mp h
  obtain ⟨front, x, rest, rfl, -, hx, hrest⟩ := List.filterMap_eq_cons_iff.mp hpair.symm
  obtain ⟨middle, y, back, rfl, -, hy, -⟩ := List.filterMap_eq_cons_iff.mp hrest
  refine ⟨x, y, List.Sublist.trans ?_ hkept, hx, hy⟩
  have hback : [y].Sublist (middle ++ y :: back) := List.singleton_sublist.mpr (by simp)
  exact (hback.cons_cons x).trans (List.sublist_append_right front _)

/-- The text by which an item is compared, if it is known. -/
def knownText? (line : Site → Line) (item : Option Site) : Option String :=
  match itemText line item with
  | .ok t => t
  | .error _ => none

/-- The value by which an item is compared, if it is known. -/
def knownValue? (item : Option Site) : Option Value :=
  match itemValue item with
  | .ok v => v
  | .error _ => none

/-- What is compared in the place of an item: the item without prefix operators and a star. -/
def Node.bareItem (n : Node) : Node :=
  n.unwrapUnary.unwrapStarred

/-- An item is read: it has a text if it is compared by it, and its value is not too large. -/
def IsRead (line : Site → Line) (item : Option Site) : Prop :=
  ∃ r, readItem line item = .ok r

section Reading

variable {line : Site → Line} {item : Option Site} {items : List (Option Site)}

theorem readItem_eq_ok_iff {r : Option String × Option Value} :
    readItem line item = .ok r ↔ itemText line item = .ok r.1 ∧ itemValue item = .ok r.2 := by
  obtain ⟨text, value⟩ := r
  unfold readItem
  cases itemText line item with
  | error e => simp [Except.mapError, bind, Except.bind]
  | ok t =>
    cases itemValue item with
    | error e => simp [Except.mapError, bind, Except.bind]
    | ok v => simp [Except.mapError, bind, Except.bind, pure, Except.pure]

/-- All items are read if each of them is. -/
theorem readItems_eq_ok_iff {texts : List String} {values : List Value} :
    readItems line items = .ok (texts, values) ↔ (∀ item ∈ items, IsRead line item) ∧
      texts = items.filterMap (knownText? line) ∧ values = items.filterMap knownValue? := by
  induction items generalizing texts values with
  | nil => simp [readItems, eq_comm]
  | cons item rest ih =>
    rw [readItems, List.forall_mem_cons]
    cases hitem : readItem line item with
    | error fault =>
      have hno : ¬ IsRead line item := by
        rintro ⟨r, hr⟩
        rw [hitem] at hr
        cases hr
      simp [bind, Except.bind, hno]
    | ok r =>
      obtain ⟨htext, hvalue⟩ := readItem_eq_ok_iff.mp hitem
      have hknownText : knownText? line item = r.1 := by rw [knownText?, htext]
      have hknownValue : knownValue? item = r.2 := by rw [knownValue?, hvalue]
      have hyes : IsRead line item := ⟨r, hitem⟩
      rw [List.filterMap_cons, List.filterMap_cons, hknownText, hknownValue]
      cases hrest : readItems line rest with
      | error fault =>
        have hno : ¬ ∀ item ∈ rest, IsRead line item := by
          intro hall
          rw [ih.mpr ⟨hall, rfl, rfl⟩] at hrest
          cases hrest
        simp only [hno, false_and, and_false, iff_false]
        exact fun h => by cases h
      | ok read =>
        obtain ⟨hall, htexts, hvalues⟩ := ih.mp hrest
        obtain ⟨text, value⟩ := r
        rw [and_iff_right ⟨hyes, hall⟩]
        simp only [bind, Except.bind, pure, Except.pure, Except.ok.injEq, Prod.mk.injEq, htexts,
          hvalues]
        cases text <;> cases value <;> simp [eq_comm]

end Reading

theorem knownValue?_eq_some_iff {t : Site} {v : Value} :
    knownValue? (some t) = some v ↔
      isValuedItem t.node.bareItem = true ∧ t.node.bareItem.namedValue = .ok v := by
  have hbare : t.node.unwrapUnary.unwrapStarred = t.node.bareItem := rfl
  simp only [knownValue?, itemValue, hbare]
  by_cases hvalued : isValuedItem t.node.bareItem = true
  · rw [if_pos hvalued]
    cases t.node.bareItem.namedValue with
    | ok w => simp [hvalued]
    | error e => cases e <;> simp
  · simp [hvalued]

/-! ### Items that look alike -/

/-- Two items that are compared by their texts have one text, blanks and brackets at its ends
apart. -/
def Rendered.LookAlike (seen : Rendered) (a b : Site) : Prop :=
  isSimpleItem a.node.unwrapUnary = true ∧ isSimpleItem b.node.unwrapUnary = true ∧
    bareText (seen.text a) = bareText (seen.text b)

/-- Two items of the display look alike. -/
def Rendered.HasTextTwice (seen : Rendered) (s : Site) : Prop :=
  ∃ a b, [some a, some b].Sublist (displayItems s) ∧ seen.LookAlike a b

section Texts

variable {seen : Rendered} {s a b : Site}

theorem Rendered.text_of_line {line : String} (h : seen.line a = .ok line) :
    seen.text a = line := by
  rw [Rendered.text, h]
  rfl

/-- The text of an item that was read. -/
theorem knownText?_eq_some_iff {item : Option Site} {text : String}
    (hread : IsRead seen.line item) :
    knownText? seen.line item = some text ↔
      ∃ a, item = some a ∧ isSimpleItem a.node.unwrapUnary = true ∧
        bareText (seen.text a) = text := by
  obtain ⟨r, hr⟩ := hread
  obtain ⟨htext, -⟩ := readItem_eq_ok_iff.mp hr
  cases item with
  | none => simp [knownText?, itemText]
  | some a =>
    by_cases hsimple : isSimpleItem a.node.unwrapUnary = true
    · cases hline : seen.line a with
      | error e => simp [itemText, hsimple, hline, Except.map] at htext
      | ok line =>
        simp [knownText?, itemText, hsimple, hline, Except.map, Rendered.text_of_line hline]
    · simp [knownText?, itemText, hsimple]

/-- A text occurs twice exactly if two items look alike. -/
theorem head?_repeated_eq_none_iff
    (hread : ∀ item ∈ displayItems s, IsRead seen.line item) :
    (repeated ((displayItems s).filterMap (knownText? seen.line))).head? = none ↔
      ¬ seen.HasTextTwice s := by
  rw [List.head?_eq_none_iff, List.eq_nil_iff_forall_not_mem, ← not_exists, not_iff_not]
  constructor
  · rintro ⟨text, htext⟩
    have htwice := List.replicate_sublist_iff.mpr (mem_repeated_iff.mp htext)
    obtain ⟨x, y, hpair, hx, hy⟩ := exists_pair_of_sublist_filterMap htwice
    have hx' := hread x (hpair.subset List.mem_cons_self)
    have hy' := hread y (hpair.subset (List.mem_cons_of_mem x List.mem_cons_self))
    obtain ⟨a, rfl, ha, htext⟩ := (knownText?_eq_some_iff hx').mp hx
    obtain ⟨b, rfl, hb, htext'⟩ := (knownText?_eq_some_iff hy').mp hy
    exact ⟨a, b, hpair, ha, hb, htext.trans htext'.symm⟩
  · rintro ⟨a, b, hpair, ha, hb, htext⟩
    have ha' := hread _ (hpair.subset List.mem_cons_self)
    have hb' := hread _ (hpair.subset (List.mem_cons_of_mem _ List.mem_cons_self))
    refine ⟨bareText (seen.text a), mem_repeated_iff.mpr (List.replicate_sublist_iff.mp ?_)⟩
    have hmap := hpair.filterMap (knownText? seen.line)
    rwa [List.filterMap_cons_some ((knownText?_eq_some_iff ha').mpr ⟨a, rfl, ha, rfl⟩),
      List.filterMap_cons_some ((knownText?_eq_some_iff hb').mpr ⟨b, rfl, hb, htext.symm⟩)] at hmap

end Texts

/-! ### Items that count alike -/

/-- Two items are taken for equal: their values are known, and what is compared in their place is
equal. -/
def Rendered.TakesForEqual (seen : Rendered) (x y : Option Site) : Prop :=
  ∃ v w key other, knownValue? x = some v ∧ knownValue? y = some w ∧
    comparedValue seen.printer.value v = some key ∧
    comparedValue seen.printer.value w = some other ∧ other.same key = true

section Values

variable {write : Value → Option String} {n : Node} {seen values : List Value} {f : Finding}

/-- A value is reported because it equals one that was seen before, in an earlier part of the
display or in this one. -/
theorem exists_same_of_mem_repeatedValues (h : f ∈ (repeatedValues write n seen values).findings) :
    (∃ key ∈ seen, ∃ w ∈ values, ∃ other, comparedValue write w = some other ∧
      other.same key = true) ∨
    ∃ v w key other, [v, w].Sublist values ∧ comparedValue write v = some key ∧
      comparedValue write w = some other ∧ other.same key = true := by
  induction values generalizing seen with
  | nil => exact absurd h List.not_mem_nil
  | cons v rest ih =>
    rw [repeatedValues] at h
    split at h
    case h_1 => exact absurd h List.not_mem_nil
    case h_2 key hkey =>
      split at h
      case isFalse => exact absurd h List.not_mem_nil
      case isTrue =>
        rcases Report.mem_andThen h with hnow | hlater
        · obtain ⟨hany, -⟩ := mem_reportIf hnow
          obtain ⟨k, hk, hsame⟩ := List.any_eq_true.mp hany
          exact Or.inl ⟨k, hk, v, List.mem_cons_self, key, hkey, hsame⟩
        · rcases ih hlater with
            ⟨k, hk, w, hw, other, hother, hsame⟩ | ⟨u, w, k, other, hpair, hboth⟩
          · rcases List.mem_append.mp hk with hseen | hself
            · exact Or.inl ⟨k, hseen, w, List.mem_cons_of_mem v hw, other, hother, hsame⟩
            · -- the later value equals the one at hand
              rw [List.mem_singleton.mp hself] at hsame
              exact Or.inr ⟨v, w, key, other, (List.singleton_sublist.mpr hw).cons_cons v, hkey,
                hother, hsame⟩
          · exact Or.inr ⟨u, w, k, other, hpair.cons v, hboth⟩

/-- If nothing stops the count, every value that equals one that was seen before is reported. -/
theorem exists_mem_repeatedValues (hfault : (repeatedValues write n seen values).fault = none)
    (h : (∃ key ∈ seen, ∃ w ∈ values, ∃ other, comparedValue write w = some other ∧
        other.same key = true) ∨
      ∃ v w key other, [v, w].Sublist values ∧ comparedValue write v = some key ∧
        comparedValue write w = some other ∧ other.same key = true) :
    ∃ f ∈ (repeatedValues write n seen values).findings,
      f.violation = .nonUniqueItemsInHash := by
  induction values generalizing seen with
  | nil =>
    rcases h with ⟨key, -, w, hw, -⟩ | ⟨v, w, key, other, hpair, -⟩
    · cases hw
    · cases hpair
  | cons v rest ih =>
    rw [repeatedValues] at hfault ⊢
    split at hfault
    case h_1 => cases hfault
    case h_2 key hkey =>
      split at hfault
      case isFalse => cases hfault
      case isTrue hiskey =>
        rw [Report.fault_andThen, Option.or_eq_none_iff] at hfault
        simp only [hiskey, if_true]
        rw [Report.findings_andThen hfault.1]
        -- a later value that equals one seen before, or the one at hand
        have hlater {k w other : Value} (hk : k ∈ seen ++ [key]) (hw : w ∈ rest)
            (hother : comparedValue write w = some other) (hsame : other.same k = true) :
            ∃ f ∈ (Report.ofFindings (reportIf (seen.any key.same)
              (Violation.nonUniqueItemsInHash.atNode n v.display))).findings ++
              (repeatedValues write n (seen ++ [key]) rest).findings,
              f.violation = .nonUniqueItemsInHash := by
          obtain ⟨f, hf, hv⟩ := ih hfault.2 (.inl ⟨k, hk, w, hw, other, hother, hsame⟩)
          exact ⟨f, List.mem_append_right _ hf, hv⟩
        rcases h with ⟨k, hk, w, hw, other, hother, hsame⟩ | ⟨u, w, k, other, hpair, hu, hw, hsame⟩
        · rcases List.mem_cons.mp hw with rfl | hrest
          · obtain rfl := Option.some.inj (hkey.symm.trans hother)
            have hany : seen.any key.same = true := List.any_eq_true.mpr ⟨k, hk, hsame⟩
            refine ⟨Violation.nonUniqueItemsInHash.atNode n w.display,
              List.mem_append_left _ ?_, rfl⟩
            rw [hany]
            exact List.mem_singleton.mpr rfl
          · exact hlater (List.mem_append_left _ hk) hrest hother hsame
        · rcases List.cons_sublist_cons'.mp hpair with hinside | ⟨rfl, hsingle⟩
          · obtain ⟨f, hf, hv⟩ := ih hfault.2 (.inr ⟨u, w, k, other, hinside, hu, hw, hsame⟩)
            exact ⟨f, List.mem_append_right _ hf, hv⟩
          · obtain rfl := Option.some.inj (hkey.symm.trans hu)
            exact hlater (List.mem_append_right _ List.mem_cons_self)
              (List.singleton_sublist.mp hsingle) hw hsame

end Values

section Report

variable {seen : Rendered} {s : Site}

/-- The other rule for displays reports something else. -/
theorem mem_repeatedItems {f : Finding} (hf : f ∈ (displays seen s).1.findings)
    (hv : f.violation = .nonUniqueItemsInHash) : f ∈ (repeatedItems seen s).findings := by
  rcases Report.mem_andThen hf with hrepeated | hchanging
  · exact hrepeated
  · obtain ⟨t, -, ht⟩ := List.mem_flatMap.mp hchanging
    obtain ⟨-, rfl⟩ := mem_reportIf ht
    cases hv

/-- **What is reported looks alike or counts alike.** Behind every report of duplicates there are
two items of the display with one text, or with one value as far as values are known. -/
theorem alike_of_mem_displays {f : Finding} (hf : f ∈ (displays seen s).1.findings)
    (hv : f.violation = .nonUniqueItemsInHash) :
    seen.HasTextTwice s ∨ ∃ x y, [x, y].Sublist (displayItems s) ∧ seen.TakesForEqual x y := by
  have hrepeated := mem_repeatedItems hf hv
  unfold repeatedItems at hrepeated
  split at hrepeated
  case h_1 => exact absurd hrepeated List.not_mem_nil
  case h_2 texts values hok =>
    obtain ⟨hread, rfl, rfl⟩ := readItems_eq_ok_iff.mp hok
    split at hrepeated
    case h_1 t ht =>
      refine .inl (by_contra fun hnone => ?_)
      rw [(head?_repeated_eq_none_iff hread).mpr hnone] at ht
      cases ht
    case h_2 =>
      rcases exists_same_of_mem_repeatedValues hrepeated with
        ⟨key, hkey, -⟩ | ⟨v, w, key, other, hpair, hkey, hother, hsame⟩
      · cases hkey
      · obtain ⟨x, y, hsub, hx, hy⟩ := exists_pair_of_sublist_filterMap hpair
        exact .inr ⟨x, y, hsub, v, w, key, other, hx, hy, hkey, hother, hsame⟩

/-- If nothing stops the check, what looks alike or counts alike is reported. -/
theorem exists_report_iff (hfault : (displays seen s).1.fault = none) :
    (∃ f ∈ (displays seen s).1.findings, f.violation = .nonUniqueItemsInHash) ↔
      seen.HasTextTwice s ∨ ∃ x y, [x, y].Sublist (displayItems s) ∧ seen.TakesForEqual x y := by
  refine ⟨fun ⟨f, hf, hv⟩ => alike_of_mem_displays hf hv, fun halike => ?_⟩
  rw [displays, Report.fault_andThen, Option.or_eq_none_iff] at hfault
  obtain ⟨f, hf, hv⟩ : ∃ f ∈ (repeatedItems seen s).findings,
      f.violation = .nonUniqueItemsInHash := by
    have hnone := hfault.1
    unfold repeatedItems at hnone ⊢
    split at hnone
    case h_1 => cases hnone
    case h_2 texts values hok =>
      obtain ⟨hread, rfl, rfl⟩ := readItems_eq_ok_iff.mp hok
      split at hnone
      case h_1 t ht =>
        exact ⟨_, List.mem_singleton.mpr rfl, rfl⟩
      case h_2 ht =>
        refine exists_mem_repeatedValues hnone (.inr ?_)
        rcases halike with hlook | ⟨x, y, hpair, v, w, key, other, hx, hy, hkeys⟩
        · exact absurd hlook ((head?_repeated_eq_none_iff hread).mp ht)
        · have hmap := hpair.filterMap knownValue?
          rw [List.filterMap_cons_some hx, List.filterMap_cons_some hy] at hmap
          exact ⟨v, w, key, other, hmap, hkeys⟩
  exact ⟨f, by rw [displays, Report.findings_andThen hfault.1]; exact List.mem_append_left _ hf, hv⟩

end Report

/-! ### Values of constants -/

section Atoms

variable {n : Node} {v w : Value}

theorem exists_eq_of_map_eq_ok {α : Type} {f : α → Value} {r : Except EvaluationError α}
    (h : r.map f = .ok v) : ∃ a, v = f a := by
  cases r with
  | error e => cases h
  | ok a => exact ⟨a, (Except.ok.inj h).symm⟩

/-- A sum is a complex number. -/
theorem exists_complex_of_addImaginary {op : BinaryOp} {a b : Value}
    (h : addImaginary op a b = .ok v) : ∃ x y, v = .complex x y := by
  unfold addImaginary at h
  split at h
  case h_1 => cases h
  case h_2 =>
    split at h
    case isTrue => exact ⟨_, _, (Except.ok.inj h).symm⟩
    case isFalse => exact ⟨_, _, (Except.ok.inj h).symm⟩
  case h_3 => cases h

theorem exists_of_bind_eq_ok {α β : Type} {r : Except EvaluationError α}
    {f : α → Except EvaluationError β} {b : β} (h : r.bind f = .ok b) :
    ∃ a, r = .ok a ∧ f a = .ok b := by
  cases r with
  | error e => cases h
  | ok a => exact ⟨a, rfl, h⟩

theorem exists_complex_of_complexOperand {left right : Node} {op : BinaryOp}
    (h : complexOperand left op right = .ok v) : ∃ x y, v = .complex x y := by
  unfold complexOperand at h
  split at h
  case isTrue =>
    obtain ⟨a, -, ha⟩ := exists_of_bind_eq_ok h
    obtain ⟨b, -, hb⟩ := exists_of_bind_eq_ok ha
    exact exists_complex_of_addImaginary hb
  case isFalse => cases h

theorem number?_of_applySign {op : UnaryOp} (h : applySign op v = .ok w) :
    w.number?.isSome = true := by
  cases v with
  | bool | int | float => obtain rfl := Except.ok.inj h; rfl
  | complex x y =>
    obtain rfl := Except.ok.inj h
    split <;> rfl
  | _ => cases h

/-- A sign makes a number of what is behind it. -/
theorem number?_of_unary {id : Nat} {position : Option Position} {op : UnaryOp} {operand : Node}
    (h : (Node.mk id position (.unary op operand)).namedValue = .ok v) :
    v.number?.isSome = true := by
  have hsigned : signedOperand (.mk id position (.unary op operand)) = .ok v := h
  simp only [signedOperand, Node.shape] at hsigned
  split at hsigned
  case isTrue =>
    obtain ⟨a, -, ha⟩ := exists_of_bind_eq_ok hsigned
    exact number?_of_applySign ha
  case isFalse => cases hsigned

/-- What has the value of nothing is nothing. -/
theorem literal?_of_namedValue_none (h : n.namedValue = .ok .none) : n.literal? = some .none := by
  obtain ⟨id, position, shape⟩ := n
  cases shape with
  | constant value kind =>
    cases value with
    | none => rfl
    | _ => cases h
  | tuple | list | setOf | dict =>
    rw [Node.namedValue] at h
    obtain ⟨vs, hv⟩ := exists_eq_of_map_eq_ok h
    cases hv
  | binary left op right =>
    obtain ⟨x, y, hv⟩ := exists_complex_of_complexOperand h
    cases hv
  | unary op operand => cases number?_of_unary h
  | functionDef mode | forLoop mode | withBlock mode => cases mode <;> cases h
  | _ => cases h

/-- What has the value of a text is this text, or a name that is spelled like it. -/
theorem literal?_or_name?_of_namedValue_text {text : String} (h : n.namedValue = .ok (.text text)) :
    n.literal? = some (.text text) ∨ n.name? = some text := by
  obtain ⟨id, position, shape⟩ := n
  cases shape with
  | constant value kind =>
    cases value with
    | text t =>
      obtain rfl := Value.text.inj (Except.ok.inj h)
      exact .inl rfl
    | _ => cases h
  | name id usage =>
    obtain rfl := Value.text.inj (Except.ok.inj h)
    exact .inr rfl
  | tuple | list | setOf | dict =>
    rw [Node.namedValue] at h
    obtain ⟨vs, hv⟩ := exists_eq_of_map_eq_ok h
    cases hv
  | binary left op right =>
    obtain ⟨x, y, hv⟩ := exists_complex_of_complexOperand h
    cases hv
  | unary op operand => cases number?_of_unary h
  | functionDef mode | forLoop mode | withBlock mode => cases mode <;> cases h
  | _ => cases h

end Atoms

/-! ### Duplicates, and what only resembles them -/

/-- Two items are duplicates: they have one text, blanks and brackets at its ends apart, or they are
literals with equal values. -/
def Rendered.AreDuplicates (seen : Rendered) (a b : Site) : Prop :=
  bareText (seen.text a) = bareText (seen.text b) ∨
    ∃ v w, a.node.literalValue = .ok v ∧ b.node.literalValue = .ok w ∧ v.equal w = true

/-- How items come to be taken for equal that are not. -/
inductive Rendered.Resembles (seen : Rendered) : Option Site → Option Site → Prop
  | symm {x y} (h : seen.Resembles x y) : seen.Resembles y x
  /-- Entries that spread dictionaries have no keys, and are all counted as nothing. -/
  | spreads : seen.Resembles none none
  /-- So are they beside nothing itself. -/
  | spread {t} (h : t.node.bareItem.literal? = some .none) : seen.Resembles none (some t)
  /-- A prefix operator or a star in front of an item is left out. -/
  | stripped {t u} (h : t.node.bareItem ≠ t.node) : seen.Resembles (some t) (some u)
  /-- In one of the items, at some depth, a name counts as a text or a truth value as a number. Two
  uses of one name are no such items. -/
  | unspelled {t u} (h : ¬ t.node.IsSpelledOut)
      (hnames : ∀ id, t.node.name? = some id → u.node.name? ≠ some id) :
      seen.Resembles (some t) (some u)
  /-- A container that may change counts as its text, and this is the other item. -/
  | written {t u v text} (hvalue : t.node.literalValue = .ok v) (hmutable : v.isMutable = true)
      (htext : seen.printer.value v = some text) (hother : u.node.literal? = some (.text text)) :
      seen.Resembles (some t) (some u)
  /-- Two such containers have one text although they are different. -/
  | alike {t u v w text} (hv : t.node.literalValue = .ok v) (hw : u.node.literalValue = .ok w)
      (htext : seen.printer.value v = some text) (htext' : seen.printer.value w = some text)
      (hdiffer : v.equal w = false) : seen.Resembles (some t) (some u)

section Classification

variable {seen : Rendered} {x y : Option Site} {a b : Site} {v w key : Value}

theorem comparedValue_eq_some_iff {write : Value → Option String} :
    comparedValue write v = some key ↔
      (v.isMutable = true ∧ ∃ text, write v = some text ∧ key = .text text) ∨
      (v.isMutable = false ∧ key = v) := by
  unfold comparedValue
  split
  case isTrue h => simp [h, eq_comm]
  case isFalse h => simp [h, eq_comm]

theorem Rendered.TakesForEqual.symm (h : seen.TakesForEqual x y) : seen.TakesForEqual y x := by
  obtain ⟨v, w, key, other, hv, hw, hkey, hother, hsame⟩ := h
  exact ⟨w, v, other, key, hw, hv, hother, hkey, Value.same_comm other key ▸ hsame⟩

theorem Rendered.text_of_name (hprinter : seen.printer.WritesNames) {id : String}
    (h : a.node.name? = some id) : seen.text a = id :=
  Rendered.text_of_line (hprinter _ _ id h)

/-- An entry that spreads a dictionary is taken for another one, or for nothing. -/
theorem Rendered.TakesForEqual.resembles_of_none (h : seen.TakesForEqual none y) :
    seen.Resembles none y := by
  obtain ⟨v, w, key, other, hv, hw, hkey, hother, hsame⟩ := h
  obtain rfl : Value.none = v := Option.some.inj hv
  obtain rfl : Value.none = key := Option.some.inj hkey
  obtain rfl := Value.eq_none_of_same hsame
  cases y with
  | none => exact .spreads
  | some t =>
    rcases comparedValue_eq_some_iff.mp hother with ⟨-, text, -, htext⟩ | ⟨-, rfl⟩
    · cases htext
    · exact .spread (literal?_of_namedValue_none (knownValue?_eq_some_iff.mp hw).2)

/-- Items that are written out in full are taken for equal if they are, or if the text of a
container is mistaken. -/
theorem resembles_of_isSpelledOut (ha : a.node.IsSpelledOut) (hb : b.node.IsSpelledOut)
    (hbareA : a.node.bareItem = a.node) (hbareB : b.node.bareItem = b.node)
    (h : seen.TakesForEqual (some a) (some b)) :
    seen.AreDuplicates a b ∨ seen.Resembles (some a) (some b) := by
  obtain ⟨v, w, key, other, hv, hw, hkey, hother, hsame⟩ := h
  have hvalueA := (knownValue?_eq_some_iff.mp hv).2
  have hvalueB := (knownValue?_eq_some_iff.mp hw).2
  rw [hbareA] at hvalueA
  rw [hbareB] at hvalueB
  have hliteralA : a.node.literalValue = .ok v := Node.namedValue_eq_literalValue ha ▸ hvalueA
  have hliteralB : b.node.literalValue = .ok w := Node.namedValue_eq_literalValue hb ▸ hvalueB
  -- a text that is written out in full is no name
  have hconstant {n : Node} {text : String} (hn : n.IsSpelledOut)
      (htext : n.namedValue = .ok (.text text)) : n.literal? = some (.text text) := by
    rcases literal?_or_name?_of_namedValue_text htext with hliteral | hname
    · exact hliteral
    · exact absurd (Node.kind_eq_name_iff.mpr (by rw [hname]; rfl)) hn.kind_ne
  rcases comparedValue_eq_some_iff.mp hkey with ⟨hmutable, text, htext, rfl⟩ | ⟨hmutable, rfl⟩
  · obtain rfl := Value.eq_text_of_same hsame
    rcases comparedValue_eq_some_iff.mp hother with
      ⟨hmutable', text', htext', heq⟩ | ⟨hmutable', rfl⟩
    · obtain rfl := Value.text.inj heq
      cases hequal : v.equal w with
      | true => exact .inl (.inr ⟨v, w, hliteralA, hliteralB, hequal⟩)
      | false => exact .inr (.alike hliteralA hliteralB htext htext' hequal)
    · exact .inr (.written hliteralA hmutable htext (hconstant hb hvalueB))
  · rcases comparedValue_eq_some_iff.mp hother with
      ⟨hmutable', text', htext', rfl⟩ | ⟨hmutable', rfl⟩
    · rw [Value.same_comm] at hsame
      obtain rfl := Value.eq_text_of_same hsame
      exact .inr (.symm (.written hliteralB hmutable' htext' (hconstant ha hvalueA)))
    · rw [Value.same_comm] at hsame
      exact .inl (.inr ⟨_, _, hliteralA, hliteralB, Value.equal_of_same hsame⟩)

/-- **Items that count alike** are duplicates, or they resemble each other in one of the ways that
are listed. -/
theorem Rendered.TakesForEqual.areDuplicates_or_resembles (hprinter : seen.printer.WritesNames)
    (h : seen.TakesForEqual x y) :
    (∃ a b, x = some a ∧ y = some b ∧ seen.AreDuplicates a b) ∨ seen.Resembles x y := by
  cases x with
  | none => exact .inr h.resembles_of_none
  | some a =>
    cases y with
    | none => exact .inr (.symm h.symm.resembles_of_none)
    | some b =>
      -- two uses of one name have one text
      have hnames (id : String) (ha : a.node.name? = some id) (hb : b.node.name? = some id) :
          seen.AreDuplicates a b :=
        .inl (by rw [seen.text_of_name hprinter ha, seen.text_of_name hprinter hb])
      by_cases hduplicates : seen.AreDuplicates a b
      · exact .inl ⟨a, b, rfl, rfl, hduplicates⟩
      refine .inr ?_
      by_cases hbareA : a.node.bareItem = a.node
      · by_cases hbareB : b.node.bareItem = b.node
        · by_cases hspelledA : a.node.IsSpelledOut
          · by_cases hspelledB : b.node.IsSpelledOut
            · exact (resembles_of_isSpelledOut hspelledA hspelledB hbareA hbareB h).resolve_left
                hduplicates
            · exact .symm (.unspelled hspelledB fun id hb ha => hduplicates (hnames id ha hb))
          · exact .unspelled hspelledA fun id ha hb => hduplicates (hnames id ha hb)
        · exact .symm (.stripped hbareB)
      · exact .stripped hbareA

end Classification

/-- Two items that are written in the display are duplicates. -/
def Rendered.HasDuplicate (seen : Rendered) (s : Site) : Prop :=
  ∃ a b, [some a, some b].Sublist (displayItems s) ∧ seen.AreDuplicates a b

/-- **Reports of duplicates.** Whatever the printer, as long as it writes names as they are: if
nothing stops the check, a display is reported exactly if two of its items look alike or count
alike. A report means that the display has duplicates, or that two items which count alike only
resemble each other; without such items, reports are right. -/
theorem displays_reports_duplicates (seen : Rendered) (s : Site)
    (hprinter : seen.printer.WritesNames) :
    ((displays seen s).1.fault = none →
      ((∃ f ∈ (displays seen s).1.findings, f.violation = .nonUniqueItemsInHash) ↔
        seen.HasTextTwice s ∨
          ∃ x y, [x, y].Sublist (displayItems s) ∧ seen.TakesForEqual x y)) ∧
    ∀ f ∈ (displays seen s).1.findings, f.violation = .nonUniqueItemsInHash →
      seen.HasDuplicate s ∨
        ∃ x y, [x, y].Sublist (displayItems s) ∧ seen.TakesForEqual x y ∧ seen.Resembles x y := by
  refine ⟨exists_report_iff, fun f hf hv => ?_⟩
  rcases alike_of_mem_displays hf hv with ⟨a, b, hpair, -, -, htext⟩ | ⟨x, y, hpair, htaken⟩
  · exact .inl ⟨a, b, hpair, .inl htext⟩
  · rcases htaken.areDuplicates_or_resembles hprinter with
      ⟨a, b, rfl, rfl, hduplicates⟩ | hresembles
    · exact .inl ⟨a, b, hpair, hduplicates⟩
    · exact .inr ⟨x, y, hpair, htaken, hresembles⟩

/-- The set `{[1], *rest, -2, [1]}`. -/
def repeatedList : Site :=
  Node.top (.mk 0 (some ⟨1, 0⟩) (.setOf [
    .mk 1 (some ⟨1, 1⟩) (.list [.mk 2 (some ⟨1, 2⟩) (.constant (.int 1) none)] (some .load)),
    .mk 3 (some ⟨1, 6⟩) (.starred (.mk 4 (some ⟨1, 7⟩) (.name "rest" (some .load))) (some .load)),
    .mk 5 (some ⟨1, 13⟩) (.unary .minus (.mk 6 (some ⟨1, 14⟩) (.constant (.int 2) none))),
    .mk 7 (some ⟨1, 17⟩) (.list [.mk 8 (some ⟨1, 18⟩) (.constant (.int 1) none)] (some .load))]))

theorem displays_reports_duplicates_repeatedList : ({} : Rendered).printer.WritesNames ∧
    (displays {} repeatedList).1.fault = none ∧
    (∃ f ∈ (displays {} repeatedList).1.findings, f.violation = .nonUniqueItemsInHash) ∧
    (({} : Rendered).HasTextTwice repeatedList ∨
      ∃ x y, [x, y].Sublist (displayItems repeatedList) ∧ ({} : Rendered).TakesForEqual x y) ∧
    ({} : Rendered).HasDuplicate repeatedList := by
  have hprinter := Printer.writesNames_default
  have hends : (displays {} repeatedList).1.fault = none := rfl
  have hreport : ∃ f ∈ (displays {} repeatedList).1.findings,
      f.violation = .nonUniqueItemsInHash :=
    ⟨Violation.nonUniqueItemsInHash.atNode repeatedList.node "[1]", List.mem_cons_self, rfl⟩
  obtain ⟨hiff, -⟩ := displays_reports_duplicates {} repeatedList hprinter
  refine ⟨hprinter, hends, hreport, (hiff hends).mp hreport, ?_⟩
  -- the first item and the last one
  exact ⟨_, _, .cons_cons _ (.cons _ (.cons _ (.cons_cons _ .slnil))), .inr ⟨_, _, rfl, rfl, rfl⟩⟩

/-! ### Reports that are wrong -/

/-- A set with two items. -/
def pairOf (first second : Node) : Site :=
  Node.top (.mk 0 (some ⟨1, 0⟩) (.setOf [first, second]))

/-- The name `a`. -/
def nameA (id : Nat) : Node :=
  .mk id (some ⟨1, 6⟩) (.name "a" (some .load))

/-- A constant. -/
def constantNode (id : Nat) (value : Literal) : Node :=
  .mk id (some ⟨1, 1⟩) (.constant value none)

/-- The dictionary `{**first, **second}`. -/
def twoSpreads : Site :=
  Node.top (.mk 0 (some ⟨1, 0⟩) (.dict [none, none] [
    .mk 1 (some ⟨1, 3⟩) (.name "first" (some .load)),
    .mk 2 (some ⟨1, 12⟩) (.name "second" (some .load))]))

/-- The display is reported although it has no duplicates. -/
def Rendered.IsWronglyReported (seen : Rendered) (s : Site) : Prop :=
  (∃ f ∈ (displays seen s).1.findings, f.violation = .nonUniqueItemsInHash) ∧
    ¬ seen.HasDuplicate s

theorem exists_report_of_head? {seen : Rendered} {s : Site}
    (h : (displays seen s).1.findings.head?.map Finding.violation = some .nonUniqueItemsInHash) :
    ∃ f ∈ (displays seen s).1.findings, f.violation = .nonUniqueItemsInHash := by
  obtain ⟨f, hf, hv⟩ := Option.map_eq_some_iff.mp h
  exact ⟨f, List.mem_of_mem_head? hf, hv⟩

theorem isWronglyReported_pairOf {seen : Rendered} {first second : Node}
    (hreport : (displays seen (pairOf first second)).1.findings.head?.map Finding.violation =
      some .nonUniqueItemsInHash)
    (htexts : bareText (seen.text ((pairOf first second).under first)) ≠
      bareText (seen.text ((pairOf first second).under second)))
    (hvalues : ∀ v w, first.literalValue = .ok v → second.literalValue = .ok w →
      v.equal w = false) : seen.IsWronglyReported (pairOf first second) := by
  refine ⟨exists_report_of_head? hreport, ?_⟩
  rintro ⟨a, b, hpair, hduplicates⟩
  cases hpair.eq_of_length rfl
  rcases hduplicates with htext | ⟨v, w, hv, hw, hequal⟩
  · exact htexts htext
  · rw [hvalues v w hv hw] at hequal
    cases hequal

/-- Mistaken for duplicates are texts and names, names and what follows a star, numbers and their
opposites, tuples that share a name, containers and their texts, and spread dictionaries: the sets
`{'a', a}`, `{*a, a}`, `{1, -1}`, `{(a, 1), (a, 1.0)}` and `{[1], '[1]'}`, and the dictionary
`{**first, **second}`. -/
theorem displays_reports_resembling :
    ({} : Rendered).IsWronglyReported (pairOf (constantNode 1 (.text "a")) (nameA 2)) ∧
    ({} : Rendered).IsWronglyReported
      (pairOf (.mk 1 (some ⟨1, 1⟩) (.starred (nameA 3) (some .load))) (nameA 2)) ∧
    ({} : Rendered).IsWronglyReported (pairOf (constantNode 1 (.int 1))
      (.mk 2 (some ⟨1, 4⟩) (.unary .minus (constantNode 3 (.int 1))))) ∧
    ({} : Rendered).IsWronglyReported (pairOf
      (.mk 1 (some ⟨1, 1⟩) (.tuple [nameA 3, constantNode 4 (.int 1)] (some .load)))
      (.mk 2 (some ⟨1, 9⟩) (.tuple [nameA 5, constantNode 6 (.float (.finite false 1 0))]
        (some .load)))) ∧
    ({} : Rendered).IsWronglyReported (pairOf
      (.mk 1 (some ⟨1, 1⟩) (.list [constantNode 3 (.int 1)] (some .load)))
      (constantNode 2 (.text "[1]"))) ∧
    ({} : Rendered).IsWronglyReported twoSpreads := by
  refine ⟨isWronglyReported_pairOf rfl (by decide +kernel) ?_,
    isWronglyReported_pairOf rfl (by decide +kernel) ?_,
    isWronglyReported_pairOf rfl (by decide +kernel) ?_,
    isWronglyReported_pairOf rfl (by decide +kernel) ?_,
    isWronglyReported_pairOf rfl (by decide +kernel) ?_, exists_report_of_head? rfl, ?_⟩
  · rintro v w - hw
    cases hw
  · rintro v w hv -
    cases hv
  · rintro v w hv hw
    cases hv
    cases hw
    rfl
  · rintro v w hv -
    cases hv
  · rintro v w hv hw
    cases hv
    cases hw
    rfl
  · rintro ⟨a, b, hpair, -⟩
    cases hpair.eq_of_length rfl

end Stricture
