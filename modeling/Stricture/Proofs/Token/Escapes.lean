import Mathlib.Data.List.Range
import Mathlib.Data.List.Sort
import Mathlib.Data.List.TakeDrop
import Mathlib.Data.List.TakeWhile
import Stricture.Rules.StringText

/-!
# Escapes in strings

A string is cut at its last character, and the first piece is taken away where it is first found in
the string. Since the piece stands at the beginning, this is where it is found, which separates the
modifiers from the quoted part (`splitModifiers?_eq_some`). The quoted part is then read from the
left: a backslash takes the next character with it, so that of a run of backslashes every other one
begins an escape.

Where escapes begin is said for each place by the place before it (`BeginsEscape`). The scan goes
from backslash to backslash and then two places on. It never stands behind the backslash of an
escape, so that the next backslash begins one (`beginsEscape_of_backslashFrom?`), and the places
that are passed over begin none (`escapeReportFrom_eq`). The last character of a string is no
backslash, so that every escape has its character.
-/

namespace Stricture

open Rules

/-! ### Modifiers -/

/-- The first piece is what stands before the first copy of the separator. -/
theorem head?_piecesAt (separator : Char) (text : List Char) :
    (piecesAt separator text).head? = some (text.takeWhile (· != separator)) := by
  induction text with
  | nil => rfl
  | cons c rest ih =>
    by_cases hc : c = separator
    · simp [piecesAt, hc]
    · simp [piecesAt, hc, ih, List.head?_modifyHead]

/-- A part at the beginning of a text is found there. -/
theorem removeFirst_append (part rest : List Char) : removeFirst part (part ++ rest) = rest := by
  cases htext : part ++ rest with
  | nil => exact (List.append_eq_nil_iff.mp htext).2.symm
  | cons c others =>
    have hfound : part.isPrefixOf (c :: others) = true := by
      rw [List.isPrefixOf_iff_prefix, ← htext]
      exact List.prefix_append part rest
    rw [removeFirst, if_pos hfound, ← htext, List.drop_left]

/-- The modifiers are what stands before the first copy of the last character, and the body is all
the rest. -/
theorem splitModifiers?_eq_some {text : List Char} {last : Char}
    (hlast : text.getLast? = some last) :
    ∃ modifiers body, splitModifiers? text = some (modifiers, body) ∧ modifiers ++ body = text ∧
      last ∉ modifiers ∧ body.head? = some last := by
  have happend : text.takeWhile (· != last) ++ text.dropWhile (· != last) = text :=
    List.takeWhile_append_dropWhile
  refine ⟨text.takeWhile (· != last), text.dropWhile (· != last), ?_, happend, fun hin => ?_, ?_⟩
  · have hrest : removeFirst (text.takeWhile (· != last)) text = text.dropWhile (· != last) := by
      conv_lhs => arg 2; rw [← happend]
      exact removeFirst_append _ _
    rw [splitModifiers?, hlast, Option.bind_eq_bind, Option.bind_some, head?_piecesAt,
      Option.bind_eq_bind, Option.bind_some, hrest]
    rfl
  · have hdiffers : (last != last) = true := List.mem_takeWhile_imp (p := (· != last)) hin
    exact absurd rfl (bne_iff_ne.mp hdiffers)
  · have hmem : last ∈ text := List.mem_of_getLast? hlast
    have hne : text.dropWhile (· != last) ≠ [] := by
      rw [Ne, List.dropWhile_eq_nil_iff]
      exact fun hall => absurd rfl (bne_iff_ne.mp (hall last hmem))
    have hhead := List.head_dropWhile_not (· != last) hne
    rw [bne_eq_false_iff_eq] at hhead
    rw [List.head?_eq_some_head hne, hhead]

theorem toLower_eq_b_iff (c : Char) : c.toLower = 'b' ↔ c = 'b' ∨ c = 'B' := by
  unfold Char.toLower
  split
  case isTrue h =>
    have hlow : 65 ≤ c.val.toNat := UInt32.le_iff_toNat_le.mp h.1
    have hhigh : c.val.toNat ≤ 90 := UInt32.le_iff_toNat_le.mp h.2
    have hsum : (c.val + ('a'.val - 'A'.val)).toNat = (c.val.toNat + 32) % 2 ^ 32 :=
      UInt32.toNat_add _ _
    have hb : 'b'.val.toNat = 98 := rfl
    have hB : 'B'.val.toNat = 66 := rfl
    simp only [Char.ext_iff, ← UInt32.toNat_inj, hsum, hb, hB]
    omega
  case isFalse h =>
    refine (or_iff_left ?_).symm
    rintro rfl
    exact h (by decide)

/-- The modifier for bytes may be a small letter or a capital. -/
theorem hasModifier_b_iff {modifiers : List Char} :
    hasModifier modifiers 'b' = true ↔ 'b' ∈ modifiers ∨ 'B' ∈ modifiers := by
  simp only [hasModifier, List.any_eq_true, beq_iff_eq, toLower_eq_b_iff, and_or_left, exists_or,
    exists_eq_right]

/-! ### Places of escapes -/

/-- An escape begins at this place: there is a backslash that does not belong to an escape which
begins just before. -/
def BeginsEscape (body : List Char) : Nat → Prop
  | 0 => body[0]? = some '\\'
  | i + 1 => body[i + 1]? = some '\\' ∧ ¬ BeginsEscape body i

instance BeginsEscape.decidable (body : List Char) : DecidablePred (BeginsEscape body)
  | 0 => inferInstanceAs (Decidable (body[0]? = some '\\'))
  | i + 1 =>
    have := BeginsEscape.decidable body i
    inferInstanceAs (Decidable (body[i + 1]? = some '\\' ∧ ¬ BeginsEscape body i))

/-- An escape that means a character begins at this place. -/
def MeansCharacter (body : List Char) (i : Nat) : Prop :=
  BeginsEscape body i ∧
    (body[i + 1]? = some 'u' ∨ body[i + 1]? = some 'U' ∨ body[i + 1]? = some 'N')
  deriving Decidable

theorem BeginsEscape.getElem?_eq {body : List Char} {i : Nat} (h : BeginsEscape body i) :
    body[i]? = some '\\' := by
  cases i with
  | zero => exact h
  | succ i => exact h.1

/-- If the last character is no backslash, no escape is without a character. -/
theorem BeginsEscape.succ_lt {body : List Char} {i : Nat} (hi : BeginsEscape body i)
    (h : body.getLast? ≠ some '\\') : i + 1 < body.length := by
  obtain ⟨hlt, -⟩ := List.getElem?_eq_some_iff.mp hi.getElem?_eq
  rcases Nat.lt_or_ge (i + 1) body.length with hinside | hend
  · exact hinside
  · obtain rfl : i = body.length - 1 := by omega
    rw [List.getLast?_eq_getElem?, hi.getElem?_eq] at h
    exact absurd rfl h

/-- The places from the given one on at which a string of bytes has an escape that means a
character. -/
def characterEscapesFrom (modifiers body : List Char) (place : Nat) : List Nat :=
  (List.range' place (body.length - place)).filter fun i =>
    ('b' ∈ modifiers ∨ 'B' ∈ modifiers) ∧ MeansCharacter body i

theorem mem_characterEscapesFrom {modifiers body : List Char} {place i : Nat} :
    i ∈ characterEscapesFrom modifiers body place ↔
      place ≤ i ∧ ('b' ∈ modifiers ∨ 'B' ∈ modifiers) ∧ MeansCharacter body i := by
  rw [characterEscapesFrom, List.mem_filter, List.mem_range'_1, decide_eq_true_iff]
  refine and_congr_left fun h => ?_
  obtain ⟨hinside, -⟩ := List.getElem?_eq_some_iff.mp h.2.1.getElem?_eq
  omega

theorem pairwise_characterEscapesFrom (modifiers body : List Char) (place : Nat) :
    (characterEscapesFrom modifiers body place).Pairwise (· < ·) :=
  (List.pairwise_lt_range' 1 Nat.one_pos).filter _

/-! ### The scan -/

section Scan

variable {modifiers body : List Char} {place i : Nat}

theorem backslashFrom?_eq_none {j : Nat} (h : backslashFrom? body place = none) (hj : place ≤ j) :
    body[j]? ≠ some '\\' := by
  have hnone := List.findIdx?_eq_none_iff.mp (Option.map_eq_none_iff.mp h)
  intro heq
  have hmem : '\\' ∈ body.drop place := by
    rw [List.mem_iff_getElem?]
    exact ⟨j - place, by rw [List.getElem?_drop, ← heq]; congr 1; omega⟩
  exact absurd (hnone _ hmem) (by decide)

/-- The scan may stand at this place: no escape begins just before it. -/
def IsFree (body : List Char) (place : Nat) : Prop :=
  ∀ i, i + 1 = place → ¬ BeginsEscape body i

/-- The next backslash begins an escape. -/
theorem beginsEscape_of_backslashFrom? (hfree : IsFree body place)
    (h : backslashFrom? body place = some i) : BeginsEscape body i := by
  obtain ⟨hplace, hhere, hbefore⟩ := backslashFrom?_eq_some h
  cases i with
  | zero => exact hhere
  | succ i =>
    refine ⟨hhere, fun hbegins => ?_⟩
    rcases Nat.lt_or_ge i place with hlt | hge
    · exact hfree i (by omega) hbegins
    · exact hbefore i hge (Nat.lt_succ_self i) hbegins.getElem?_eq

/-- Behind an escape the scan may go on. -/
theorem BeginsEscape.isFree (h : BeginsEscape body i) : IsFree body (i + 2) := by
  intro j hj hbegins
  obtain rfl : j = i + 1 := by omega
  exact hbegins.2 h

/-- Between two stops of the scan no escape begins but the one at the first. -/
theorem characterEscapesFrom_eq (hfree : IsFree body place)
    (h : backslashFrom? body place = some i) : characterEscapesFrom modifiers body place =
      (if ('b' ∈ modifiers ∨ 'B' ∈ modifiers) ∧ MeansCharacter body i then [i] else []) ++
        characterEscapesFrom modifiers body (i + 2) := by
  obtain ⟨hplace, -, hbefore⟩ := backslashFrom?_eq_some h
  have hbegins := beginsEscape_of_backslashFrom? hfree h
  refine (pairwise_characterEscapesFrom modifiers body place).eq_of_mem_iff ?_ fun j => ?_
  · rw [List.pairwise_append]
    refine ⟨?_, pairwise_characterEscapesFrom modifiers body (i + 2), fun j hj k hk => ?_⟩
    · split <;> simp
    · obtain rfl : j = i := by split at hj <;> simp_all
      exact Nat.lt_of_lt_of_le (Nat.lt_add_of_pos_right Nat.two_pos)
        (mem_characterEscapesFrom.mp hk).1
  · have hnext : ∀ hj : BeginsEscape body j, place ≤ j → j = i ∨ i + 2 ≤ j := by
      intro hj hge
      rcases Nat.lt_or_ge j i with hlt | hle
      · exact absurd hj.getElem?_eq (hbefore j hge hlt)
      · have hsecond : j ≠ i + 1 := fun heq => hbegins.isFree (i + 1) rfl (heq ▸ hj)
        omega
    rw [List.mem_append, mem_characterEscapesFrom, mem_characterEscapesFrom]
    constructor
    · rintro ⟨hge, hmeans⟩
      rcases hnext hmeans.2.1 hge with rfl | hlater
      · exact Or.inl (by rw [if_pos hmeans]; exact List.mem_singleton.mpr rfl)
      · exact Or.inr ⟨hlater, hmeans⟩
    · rintro (hfirst | ⟨hlater, hmeans⟩)
      · split at hfirst
        case isTrue hmeans =>
          obtain rfl := List.mem_singleton.mp hfirst
          exact ⟨hplace, hmeans⟩
        case isFalse => cases hfirst
      · exact ⟨by omega, hmeans⟩

theorem meansCharacter_iff {next : Char} (hbegins : BeginsEscape body i)
    (hnext : body[i + 1]? = some next) :
    MeansCharacter body i ↔ isCharacterEscape next = true := by
  simp [MeansCharacter, hbegins, hnext, isCharacterEscape, or_assoc]

/-- **The scan.** It comes to its end if every escape has a character, and it has one finding for
each escape that means a character. -/
theorem escapeReportFrom_eq (t : Token) (modifiers : List Char) {body : List Char} {place : Nat}
    (hend : body.getLast? ≠ some '\\') (hfree : IsFree body place) :
    escapeReportFrom t modifiers body place =
      .ofFindings ((characterEscapesFrom modifiers body place).map
        fun _ => Violation.wrongUnicodeEscape.atToken t t.text) := by
  induction hleft : body.length - place using Nat.strong_induction_on generalizing place with
  | _ left ih =>
    rw [escapeReportFrom]
    split
    case h_1 hnone =>
      have hnil : characterEscapesFrom modifiers body place = [] := by
        rw [List.eq_nil_iff_forall_not_mem]
        intro i hi
        obtain ⟨hge, -, hmeans⟩ := mem_characterEscapesFrom.mp hi
        exact backslashFrom?_eq_none hnone hge hmeans.1.getElem?_eq
      rw [hnil]
      rfl
    case h_2 i hsome =>
      have hbegins := beginsEscape_of_backslashFrom? hfree hsome
      have hnext : body[i + 1]? = some (body.get ⟨i + 1, hbegins.succ_lt hend⟩) :=
        List.getElem?_eq_getElem _
      have htest : (hasModifier modifiers 'b' &&
          isCharacterEscape (body.get ⟨i + 1, hbegins.succ_lt hend⟩)) =
          decide (('b' ∈ modifiers ∨ 'B' ∈ modifiers) ∧ MeansCharacter body i) := by
        rw [Bool.eq_iff_iff, Bool.and_eq_true, decide_eq_true_iff, hasModifier_b_iff,
          meansCharacter_iff hbegins hnext]
      have hrest := ih _ (hleft ▸ length_sub_lt_of_backslashFrom? hsome) hbegins.isFree rfl
      simp only [hnext, htest, hrest, characterEscapesFrom_eq hfree hsome]
      by_cases hmeans : ('b' ∈ modifiers ∨ 'B' ∈ modifiers) ∧ MeansCharacter body i
      · simp [hmeans, reportIf, Report.andThen, Report.ofFindings]
      · simp [hmeans, reportIf, Report.andThen, Report.ofFindings]

end Scan

/-! ### The reports -/

section Reports

variable {modifiers body : List Char} {docstrings : List Token} {t : Token}

/-- What is found before and is no violation of this kind does not count. -/
theorem filter_findings_andThen {v : Violation} {others : List Finding}
    (h : ∀ f ∈ others, f.violation ≠ v) (r : Report) :
    ((Report.ofFindings others).andThen r).findings.filter (fun f => f.violation = v) =
      r.findings.filter fun f => f.violation = v := by
  have hnone : others.filter (fun f => f.violation = v) = [] := by
    rw [List.filter_eq_nil_iff]
    intro f hf
    simpa using h f hf
  have happend : ((Report.ofFindings others).andThen r).findings = others ++ r.findings :=
    Report.findings_andThen rfl r
  rw [happend, List.filter_append, hnone, List.nil_append]

/-- The other rules for strings report other violations. -/
theorem findings_stringReport (h : t.modifiers? = some (modifiers, body)) :
    (stringReport docstrings t).findings.filter (fun f => f.violation = .wrongUnicodeEscape) =
      (escapeReport t modifiers body).findings.filter
        fun f => f.violation = .wrongUnicodeEscape := by
  rw [stringReport, h]
  refine filter_findings_andThen ?_ _
  intro f hf
  simp only [modifierFindings, List.mem_append, List.mem_map] at hf
  rcases hf with (hlong | hunicode | ⟨c, -, rfl⟩) | hraw
  · obtain rfl := (mem_reportIf hlong).2
    show Violation.wrongMultilineString ≠ .wrongUnicodeEscape
    decide
  · obtain rfl := (mem_reportIf hunicode).2
    show Violation.unicodeString ≠ .wrongUnicodeEscape
    decide
  · show Violation.uppercaseStringModifier ≠ .wrongUnicodeEscape
    decide
  · obtain rfl := (mem_reportIf hraw).2
    show Violation.implicitRawString ≠ .wrongUnicodeEscape
    decide

/-- Only the scan for escapes may stop. -/
theorem fault_stringReport (h : t.modifiers? = some (modifiers, body)) :
    (stringReport docstrings t).fault = (escapeReport t modifiers body).fault := by
  rw [stringReport, h]
  exact Report.fault_andThen _ _

end Reports

/-- **Escapes in strings.** Every text that is not empty is cut into its modifiers, in which the
last character does not occur, and a part that begins with this character. If it is no backslash,
the scan of that part comes to its end. In a string of bytes it reports every place at which an
escape begins that means a character, from left to right and each of them once; in other strings it
reports nothing. -/
theorem strings_reports_characterEscapes (docstrings : List Token) (t : Token) (h : t.text ≠ "") :
    ∃ last modifiers body, ∃ places : List Nat, t.text.toList.getLast? = some last ∧
      t.modifiers? = some (modifiers, body) ∧ modifiers ++ body = t.text.toList ∧
      last ∉ modifiers ∧ body.head? = some last ∧
      places.Pairwise (· < ·) ∧
      (∀ i, i ∈ places ↔ ('b' ∈ modifiers ∨ 'B' ∈ modifiers) ∧ MeansCharacter body i) ∧
      (last ≠ '\\' →
        escapeReport t modifiers body = .ofFindings
          (places.map fun _ => Violation.wrongUnicodeEscape.atToken t t.text) ∧
        (stringReport docstrings t).fault = none ∧
        (stringReport docstrings t).findings.filter
            (fun f => f.violation = .wrongUnicodeEscape) =
          places.map fun _ => Violation.wrongUnicodeEscape.atToken t t.text) := by
  obtain ⟨last, hlast⟩ : ∃ last, t.text.toList.getLast? = some last := by
    rw [← Option.isSome_iff_exists, List.getLast?_isSome]
    exact fun hnil => h (String.toList_eq_nil_iff.mp hnil)
  obtain ⟨modifiers, body, hsplit, happend, hmem, hhead⟩ := splitModifiers?_eq_some hlast
  refine ⟨last, modifiers, body, characterEscapesFrom modifiers body 0, hlast, hsplit, happend,
    hmem, hhead, pairwise_characterEscapesFrom modifiers body 0,
    fun i => mem_characterEscapesFrom.trans (and_iff_right (Nat.zero_le i)), fun hplain => ?_⟩
  have hend : body.getLast? ≠ some '\\' := by
    obtain ⟨rest, rfl⟩ := List.head?_eq_some_iff.mp hhead
    rw [← List.getLast?_append_cons modifiers, happend, hlast]
    exact fun heq => hplain (Option.some.inj heq)
  -- nothing stands before the first place
  have hfree : IsFree body 0 := fun i hi => absurd hi (Nat.succ_ne_zero i)
  have hreport := escapeReportFrom_eq t modifiers hend hfree
  refine ⟨hreport, ?_, ?_⟩
  · rw [fault_stringReport hsplit, escapeReport, hreport]
    rfl
  · rw [findings_stringReport hsplit, escapeReport, hreport]
    refine List.filter_eq_self.mpr ?_
    rw [Report.ofFindings, List.forall_mem_map]
    exact fun _ _ => rfl

/-- The string `b'\\\u0041\N'`, in which the third backslash begins an escape. -/
def bytesToken : Token :=
  ⟨.string, "b'\\\\\\u0041\\N'", 1, 4, 1, 17, ""⟩

theorem strings_reports_characterEscapes_bytesToken :
    bytesToken.text ≠ "" ∧
    ∃ body, bytesToken.modifiers? = some (['b'], body) ∧
      MeansCharacter body 3 ∧ MeansCharacter body 9 ∧
      (stringReport [] bytesToken).fault = none ∧
      (stringReport [] bytesToken).findings.filter (fun f => f.violation = .wrongUnicodeEscape) =
        [⟨.wrongUnicodeEscape, ⟨1, 4⟩, some bytesToken.text⟩,
          ⟨.wrongUnicodeEscape, ⟨1, 4⟩, some bytesToken.text⟩] := by
  have hne : bytesToken.text ≠ "" := by decide
  obtain ⟨last, modifiers, body, places, hlast, hsplit, -, -, -, hsorted, hmem, hreport⟩ :=
    strings_reports_characterEscapes [] bytesToken hne
  have hparts : bytesToken.modifiers? = some (['b'], bytesToken.text.toList.tail) := by decide
  obtain ⟨rfl, rfl⟩ := Prod.mk.inj (Option.some.inj (hsplit.symm.trans hparts))
  obtain rfl : places = characterEscapesFrom ['b'] bytesToken.text.toList.tail 0 :=
    hsorted.eq_of_mem_iff (pairwise_characterEscapesFrom _ _ 0) fun i =>
      (hmem i).trans (mem_characterEscapesFrom.trans (and_iff_right (Nat.zero_le i))).symm
  have hplaces : characterEscapesFrom ['b'] bytesToken.text.toList.tail 0 = [3, 9] := by decide
  have hquote : bytesToken.text.toList.getLast? = some '\'' := by decide
  obtain rfl := Option.some.inj (hlast.symm.trans hquote)
  obtain ⟨-, hfault, hfindings⟩ := hreport (by decide)
  rw [hplaces] at hfindings
  exact ⟨hne, _, hparts, by decide, by decide, hfault, hfindings⟩

end Stricture
