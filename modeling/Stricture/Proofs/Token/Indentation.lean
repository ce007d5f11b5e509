import Mathlib.Data.List.Basic
import Stricture.Proofs.Token.Brackets
import Stricture.Proofs.Token.Concatenation

/-!
# Rows that are indented too far

A row is seen by the first of its tokens, and it may be indented by four columns more than the row
before. The check lists the rows in their order and compares neighbours in that list. Rows without
tokens are missing there, so it asks whether neighbours follow each other; as the list is strictly
increasing, no row that has a row right before it is lost in this way (`mem_zip_drop_iff`).

Which tokens come first on their rows does not depend on how the tokens of different rows are mixed,
and so neither does the report (`firstTokens_congr`).
-/

namespace Stricture

open Rules

/-- In a list that is strictly increasing, things whose numbers follow each other are neighbours. -/
theorem mem_zip_drop_iff {α : Type} {number : α → Int} {things : List α}
    (h : things.Pairwise fun a b => number a < number b) {a b : α}
    (hnumber : number b = number a + 1) :
    (a, b) ∈ things.zip (things.drop 1) ↔ a ∈ things ∧ b ∈ things := by
  constructor
  · intro hmem
    obtain ⟨ha, hb⟩ := List.of_mem_zip hmem
    exact ⟨ha, List.mem_of_mem_drop hb⟩
  · rintro ⟨ha, hb⟩
    induction things with
    | nil => cases ha
    | cons first things ih =>
      obtain ⟨hfirst, hrest⟩ := List.pairwise_cons.mp h
      have hb' : b ∈ things := by
        refine (List.mem_cons.mp hb).resolve_left ?_
        rintro rfl
        rcases List.mem_cons.mp ha with rfl | ha
        · omega
        · have hlt := hfirst a ha
          omega
      obtain ⟨second, rest, rfl⟩ := List.exists_cons_of_ne_nil (List.ne_nil_of_mem hb')
      rw [List.drop_succ_cons, List.drop_zero, List.zip_cons_cons, List.mem_cons]
      rcases List.mem_cons.mp ha with rfl | ha
      · -- a thing between the two would have a number between theirs
        left
        rcases List.mem_cons.mp hb' with rfl | hlater
        · rfl
        · have hlt := hfirst second List.mem_cons_self
          have hlt' := (List.pairwise_cons.mp hrest).1 b hlater
          omega
      · exact .inr (ih hrest ha hb')

/-! ### First tokens -/

namespace Token

/-- The first token that begins on a row. -/
def firstOn? (tokens : List Token) (row : Int) : Option Token :=
  (onRow row tokens).head?

/-- The column at which a row begins that has the token in front. Indentation is a token of its own,
and the row begins after it. -/
def leftColumn (t : Token) : Int :=
  match t.exactKind with
  | .indent => t.endColumn
  | _ => t.startColumn

/-- A row that is indented by more than four columns against the row right before. What only ends a
line is not indented, and nothing is indented against a blank row. -/
def IndentsTooFar (tokens : List Token) (row : Int) : Prop :=
  ∃ t ∈ firstOn? tokens row, ∃ p ∈ firstOn? tokens (row - 1),
    t.exactKind ≠ .lineEnd ∧ p.exactKind ≠ .blankEnd ∧ p.leftColumn + 4 < t.leftColumn

end Token

section Rows

open Token

variable {tokens tokens' : List Token} {row : Int} {t : Token}

theorem mem_firstTokens_iff : (row, t) ∈ firstTokens tokens ↔ firstOn? tokens row = some t := by
  rw [firstTokens, List.mem_mergeSort, List.mem_filterMap]
  constructor
  · rintro ⟨⟨r, group⟩, hgroup, hhead⟩
    obtain ⟨r, -, heq⟩ := List.mem_map.mp hgroup
    obtain ⟨rfl, rfl⟩ := Prod.mk.inj heq
    obtain ⟨u, hu, heq⟩ := Option.map_eq_some_iff.mp hhead
    obtain ⟨rfl, rfl⟩ := Prod.mk.inj heq
    exact hu
  · intro hfirst
    obtain ⟨hmem, hrow⟩ := List.mem_filter.mp (List.mem_of_head? hfirst)
    refine ⟨(row, onRow row tokens), List.mem_map.mpr ⟨row, ?_, rfl⟩, ?_⟩
    · exact List.mem_eraseDups.mpr (List.mem_map.mpr ⟨t, hmem, eq_of_beq hrow⟩)
    · exact Option.map_eq_some_iff.mpr ⟨t, hfirst, rfl⟩

/-- No row comes twice, so the order of the rows is strict. -/
theorem pairwise_firstTokens (tokens : List Token) :
    (firstTokens tokens).Pairwise fun a b => a.1 < b.1 := by
  have hle : (firstTokens tokens).Pairwise fun a b => decide (a.1 ≤ b.1) = true := by
    refine List.pairwise_mergeSort ?_ ?_ _
    · intro a b c hab hbc
      simp only [decide_eq_true_eq] at hab hbc ⊢
      omega
    · intro a b
      simp only [Bool.or_eq_true, decide_eq_true_eq]
      omega
  have hne : (firstTokens tokens).Pairwise fun a b => a.1 ≠ b.1 := by
    refine (List.mergeSort_perm _ _).symm.pairwise ?_ fun hne => hne.symm
    rw [List.pairwise_filterMap, grouped, List.pairwise_map]
    refine (nodup_eraseDups _).imp fun {r r'} hdiff => ?_
    rintro a ha b hb
    obtain ⟨t, -, rfl⟩ := Option.map_eq_some_iff.mp ha
    obtain ⟨u, -, rfl⟩ := Option.map_eq_some_iff.mp hb
    exact hdiff
  refine (hle.and hne).imp ?_
  rintro a b ⟨hab, hdiff⟩
  exact lt_of_le_of_ne (of_decide_eq_true hab) hdiff

/-- Only the order inside of the rows counts. -/
theorem firstTokens_congr (h : ∀ row, onRow row tokens' = onRow row tokens) :
    firstTokens tokens' = firstTokens tokens := by
  have hnodup (tokens : List Token) : (firstTokens tokens).Nodup :=
    (pairwise_firstTokens tokens).imp fun hlt heq => hlt.ne (congrArg Prod.fst heq)
  have hperm : (firstTokens tokens').Perm (firstTokens tokens) := by
    refine (List.perm_ext_iff_of_nodup (hnodup _) (hnodup _)).mpr ?_
    rintro ⟨row, t⟩
    rw [mem_firstTokens_iff, mem_firstTokens_iff, firstOn?, firstOn?, h]
  refine hperm.eq_of_pairwise ?_ (pairwise_firstTokens _) (pairwise_firstTokens _)
  intro a b _ _ hab hba
  exact absurd hab hba.asymm

theorem tokenOffset_eq_leftColumn (t : Token) : tokenOffset t = t.leftColumn := by
  unfold tokenOffset leftColumn
  split
  case isTrue h => rw [h]
  case isFalse h =>
    split
    · contradiction
    · rfl

theorem isOverIndented_iff {p t : Int × Token} : isOverIndented p t = true ↔
    t.1 = p.1 + 1 ∧ t.2.exactKind ≠ .lineEnd ∧ p.2.exactKind ≠ .blankEnd ∧
      p.2.leftColumn + 4 < t.2.leftColumn := by
  simp [isOverIndented, tokenOffset_eq_leftColumn, and_assoc]

/-- The rows that are reported, with their first tokens. -/
def overIndented (tokens : List Token) : List (Int × Token) :=
  (((firstTokens tokens).zip ((firstTokens tokens).drop 1)).filter fun (a, b) =>
    isOverIndented a b).map Prod.snd

theorem extraIndentation_eq (tokens : List Token) : extraIndentation tokens =
    .ofFindings ((overIndented tokens).map fun (_, t) => Violation.extraIndentation.atToken t) := by
  rw [overIndented, List.map_map]
  rfl

theorem overIndented_sublist (tokens : List Token) :
    (overIndented tokens).Sublist (firstTokens tokens) := by
  have hlength : ((firstTokens tokens).drop 1).length ≤ (firstTokens tokens).length := by
    rw [List.length_drop]
    omega
  refine (List.Sublist.map Prod.snd List.filter_sublist).trans ?_
  rw [List.map_snd_zip hlength]
  exact List.drop_sublist 1 _

theorem mem_overIndented_iff : (row, t) ∈ overIndented tokens ↔
    firstOn? tokens row = some t ∧ IndentsTooFar tokens row := by
  simp only [overIndented, List.mem_map, List.mem_filter, isOverIndented_iff]
  constructor
  · rintro ⟨⟨⟨before, p⟩, current⟩, ⟨hneighbours, hfollows, hexceeds⟩, heq⟩
    obtain rfl : current = (row, t) := heq
    obtain ⟨hp, ht⟩ := (mem_zip_drop_iff (pairwise_firstTokens _) hfollows).mp hneighbours
    have hbefore : row - 1 = before := by
      change row = before + 1 at hfollows
      omega
    rw [mem_firstTokens_iff] at hp ht
    exact ⟨ht, t, ht, p, hbefore ▸ hp, hexceeds⟩
  · rintro ⟨ht, u, hu, p, hp, hexceeds⟩
    obtain rfl : t = u := Option.some_inj.mp (ht.symm.trans hu)
    have hfollows : row = row - 1 + 1 := by omega
    refine ⟨((row - 1, p), (row, t)), ⟨?_, hfollows, hexceeds⟩, rfl⟩
    rw [mem_zip_drop_iff (pairwise_firstTokens _) hfollows, mem_firstTokens_iff,
      mem_firstTokens_iff]
    exact ⟨hp, ht⟩

theorem filterMap_firstOn?_overIndented (tokens : List Token) :
    ((overIndented tokens).map Prod.fst).filterMap (firstOn? tokens) =
      (overIndented tokens).map Prod.snd := by
  rw [List.filterMap_map, ← List.filterMap_eq_map]
  refine List.filterMap_congr ?_
  rintro ⟨row, t⟩ hmem
  exact (mem_overIndented_iff.mp hmem).1

end Rows

/-- **Indentation.** The check comes to its end and reports the rows that are indented too far
against the row right before, each of them once at its first token and in the order of the rows.
The tokens may come in any order, and tokens of different rows may be mixed in another way. -/
theorem extraIndentation_reports_rows (subject : Subject) (memory : Memory) :
    (∃ rows : List Int, rows.Pairwise (· < ·) ∧
      (∀ row, row ∈ rows ↔ Token.IndentsTooFar subject.tokens row) ∧
      (Check.extraIndentation.judge subject memory).1 = .ofFindings
        ((rows.filterMap (Token.firstOn? subject.tokens)).map
          fun t => Violation.extraIndentation.atToken t)) ∧
    ∀ tokens, (∀ row, Token.onRow row tokens = Token.onRow row subject.tokens) →
      (Check.extraIndentation.judge { subject with tokens } memory).1 =
        (Check.extraIndentation.judge subject memory).1 := by
  refine ⟨⟨(overIndented subject.tokens).map Prod.fst, ?_, fun row => ?_, ?_⟩, ?_⟩
  · exact List.pairwise_map.mpr ((pairwise_firstTokens _).sublist (overIndented_sublist _))
  · rw [List.mem_map]
    constructor
    · rintro ⟨⟨_, t⟩, hmem, rfl⟩
      exact (mem_overIndented_iff.mp hmem).2
    · intro hfar
      obtain ⟨t, ht, -⟩ := id hfar
      exact ⟨(row, t), mem_overIndented_iff.mpr ⟨ht, hfar⟩, rfl⟩
  · rw [filterMap_firstOn?_overIndented, List.map_map]
    exact extraIndentation_eq subject.tokens
  · intro tokens hrows
    change extraIndentation tokens = extraIndentation subject.tokens
    rw [extraIndentation, extraIndentation, firstTokens_congr hrows]

/-- The rows `if ready:` and `start()`, the second one indented by eight columns. -/
def indentedRows : List Token := [
  ⟨.name, "if", 1, 0, 1, 2, ""⟩, ⟨.name, "ready", 1, 3, 1, 8, ""⟩, ⟨.op, ":", 1, 8, 1, 9, ""⟩,
  ⟨.lineEnd, "", 1, 9, 1, 10, ""⟩, ⟨.indent, "        ", 2, 0, 2, 8, ""⟩,
  ⟨.name, "start", 2, 8, 2, 13, ""⟩, ⟨.op, "(", 2, 13, 2, 14, ""⟩, ⟨.op, ")", 2, 14, 2, 15, ""⟩,
  ⟨.lineEnd, "", 2, 15, 2, 16, ""⟩]

/-- The same rows, and the second one begins before the first one. -/
def mixedRows : List Token := [
  ⟨.indent, "        ", 2, 0, 2, 8, ""⟩, ⟨.name, "if", 1, 0, 1, 2, ""⟩,
  ⟨.name, "start", 2, 8, 2, 13, ""⟩, ⟨.op, "(", 2, 13, 2, 14, ""⟩,
  ⟨.name, "ready", 1, 3, 1, 8, ""⟩, ⟨.op, ")", 2, 14, 2, 15, ""⟩, ⟨.op, ":", 1, 8, 1, 9, ""⟩,
  ⟨.lineEnd, "", 1, 9, 1, 10, ""⟩, ⟨.lineEnd, "", 2, 15, 2, 16, ""⟩]

/-- Nothing but the indented rows. -/
def indentedSubject : Subject :=
  .ofTokens indentedRows "indented.py"

theorem extraIndentation_reports_rows_mixedRows :
    (∀ row, Token.onRow row mixedRows = Token.onRow row indentedSubject.tokens) ∧
    Token.IndentsTooFar indentedSubject.tokens 2 ∧
    (Check.extraIndentation.judge { indentedSubject with tokens := mixedRows } {}).1 =
      .ofFindings [⟨.extraIndentation, ⟨2, 0⟩, none⟩] := by
  have hrows (row : Int) :
      Token.onRow row mixedRows = Token.onRow row indentedSubject.tokens := by
    by_cases hfirst : row = 1
    · rw [hfirst]
      rfl
    by_cases hsecond : row = 2
    · rw [hsecond]
      rfl
    · simp [Token.onRow, mixedRows, indentedSubject, Subject.ofTokens, indentedRows,
        Ne.symm hfirst, Ne.symm hsecond]
  have hfirst : firstTokens indentedRows = [(1, ⟨.name, "if", 1, 0, 1, 2, ""⟩),
      (2, ⟨.indent, "        ", 2, 0, 2, 8, ""⟩)] :=
    List.mergeSort_of_pairwise (by decide)
  refine ⟨hrows, ⟨_, rfl, _, rfl, by decide⟩, ?_⟩
  rw [(extraIndentation_reports_rows indentedSubject {}).2 mixedRows hrows]
  change extraIndentation indentedRows = _
  rw [extraIndentation, hfirst]
  rfl

end Stricture
