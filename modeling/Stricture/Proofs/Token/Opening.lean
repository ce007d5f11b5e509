import Mathlib.Data.List.Chain
import Mathlib.Data.List.Induction
import Stricture.Proofs.Token.Concatenation

/-!
# Comments at the start of a file

An empty line comes after the comments with which a file begins. The check reads tokens from the
first comment on and counts how many of them still belong to a comment: the comment and the end of
its row. It stops with a fault if there are no tokens left.

Its count is right at the ends of rows only: a run of comments, each with the end of its row, leaves
it at zero (`afterOpeningComments?_append`). In the tokens of a whole file such a run never reaches
the end (`exists_commentRows`), so the check always comes to the token after the longest run.
-/

namespace Stricture

open Rules

/-! ### Runs of comments -/

namespace Token

/-- Comments, each with the end of its row. -/
inductive CommentRows : List Token → Prop where
  | nil : CommentRows []
  | cons {c n : Token} {rest : List Token} : c.exactKind = .comment → n.exactKind = .blankEnd →
      CommentRows rest → CommentRows (c :: n :: rest)

/-- The first token after the longest run of comments at the start. -/
def IsAfterComments (tokens : List Token) (u : Token) : Prop :=
  ∃ run rest, tokens = run ++ u :: rest ∧ CommentRows run ∧
    ∀ other, CommentRows other → other <+: tokens → other.length ≤ run.length

/-- A comment with which a file begins. -/
def OpensFile (t : Token) : Prop :=
  t.exactKind = .comment ∧ t.startRow = 1 ∧ t.startColumn = 0
  deriving Decidable

/-- The end of a row, of a line, or of the file. -/
def EndsRow (t : Token) : Prop :=
  t.exactKind = .blankEnd ∨ t.exactKind = .lineEnd ∨ t.exactKind = .fileEnd
  deriving Decidable

/-- The tokens of a whole file: rows end after their comments, the last token ends the file, and
there is one comment at most with which the file begins. -/
structure IsFile (tokens : List Token) : Prop where
  comment_ends_row :
    tokens.IsChain fun t next => t.exactKind = .comment → next.exactKind = .blankEnd
  last_ends_file : tokens.getLast?.map exactKind = some .fileEnd
  opens_once : tokens.countP (fun t => t.OpensFile) ≤ 1

/-- A comment with which the file begins, and no empty line comes after the comments there. -/
def LacksEmptyLine (tokens : List Token) (t : Token) : Prop :=
  t.OpensFile ∧ ∃ rest u, t :: rest <:+ tokens ∧ IsAfterComments (t :: rest) u ∧ ¬ u.EndsRow

variable {run other rest part : List Token} {t u v : Token}

/-- A run is the longest one if no comment comes after it. -/
theorem CommentRows.length_le (hrun : CommentRows run) (hother : CommentRows other)
    (hu : u.exactKind ≠ .comment) (h : other <+: run ++ u :: rest) :
    other.length ≤ run.length := by
  induction hrun generalizing other with
  | nil =>
    cases hother with
    | nil => exact le_refl _
    | cons hc =>
      obtain ⟨rfl, -⟩ := List.cons_prefix_cons.mp h
      exact absurd hc hu
  | cons _ _ _ ih =>
    cases hother with
    | nil => exact Nat.zero_le _
    | cons _ _ hrest =>
      have hprefix := (List.cons_prefix_cons.mp (List.cons_prefix_cons.mp h).2).2
      exact Nat.add_le_add_right (ih hrest hprefix) 2

theorem IsAfterComments.unique (hu : IsAfterComments part u) (hv : IsAfterComments part v) :
    u = v := by
  obtain ⟨run, rest, hpart, hrun, hlongest⟩ := hu
  obtain ⟨run', rest', hpart', hrun', hlongest'⟩ := hv
  have hprefix : run <+: part := hpart ▸ List.prefix_append _ _
  have hprefix' : run' <+: part := hpart' ▸ List.prefix_append _ _
  have hlength : run.length = run'.length :=
    le_antisymm (hlongest' run hrun hprefix) (hlongest run' hrun' hprefix')
  obtain ⟨-, hrest⟩ := List.append_inj (hpart.symm.trans hpart') hlength
  exact (List.cons.inj hrest).1

/-- In a file, comments come to an end. -/
theorem exists_commentRows
    (hchain : part.IsChain fun t next => t.exactKind = .comment → next.exactKind = .blankEnd)
    (hlast : part.getLast?.map exactKind = some .fileEnd) :
    ∃ run u rest, part = run ++ u :: rest ∧ CommentRows run ∧ u.exactKind ≠ .comment := by
  induction part using List.twoStepInduction with
  | nil => cases hlast
  | singleton t =>
    have ht : t.exactKind = .fileEnd := Option.some.inj hlast
    exact ⟨[], t, [], rfl, .nil, by rw [ht]; decide⟩
  | cons_cons t next rest ih _ =>
    by_cases ht : t.exactKind = .comment
    · obtain ⟨hnext, hrest⟩ := List.isChain_cons_cons.mp hchain
      -- the end of a row is not that of the file
      have hlast' : rest.getLast?.map exactKind = some .fileEnd := by
        cases rest with
        | nil =>
          have hend : next.exactKind = .fileEnd := Option.some.inj hlast
          rw [hnext ht] at hend
          cases hend
        | cons first rest => exact hlast
      obtain ⟨run, u, rest', rfl, hrun, hu⟩ := ih hrest.tail hlast'
      exact ⟨t :: next :: run, u, rest', rfl, .cons ht (hnext ht) hrun, hu⟩
    · exact ⟨[], t, next :: rest, rfl, .nil, ht⟩

end Token

/-! ### The loop -/

section Loop

open Token

variable {tokens run rest : List Token} {t u : Token}

/-- A run leaves the count at zero. -/
theorem afterOpeningComments?_append (hrun : CommentRows run) (rest : List Token) :
    afterOpeningComments? 0 (run ++ rest) = afterOpeningComments? 0 rest := by
  induction hrun with
  | nil => rfl
  | cons hc _ _ ih =>
    rw [List.cons_append, List.cons_append, afterOpeningComments?, if_pos hc,
      afterOpeningComments?, ih]

/-- The check may begin with a comment whose two tokens are counted already. -/
theorem afterOpeningComments?_comment (ht : t.exactKind = .comment) (rest : List Token) :
    afterOpeningComments? 2 (t :: rest) = afterOpeningComments? 0 (t :: rest) := by
  rw [afterOpeningComments?, afterOpeningComments?, if_pos ht]

/-- There is no other copy of the comment with which a file begins. -/
theorem tokensFrom_eq (honce : tokens.countP (fun t => t.OpensFile) ≤ 1) (ht : t.OpensFile)
    (hsuffix : t :: rest <:+ tokens) : tokensFrom tokens t = t :: rest := by
  obtain ⟨past, rfl⟩ := hsuffix
  have hpast : ∀ v ∈ past, (v != t) = true := by
    intro v hv
    rw [bne_iff_ne]
    rintro rfl
    have hpos : 0 < past.countP fun t => t.OpensFile :=
      List.countP_pos_iff.mpr ⟨v, hv, decide_eq_true ht⟩
    rw [List.countP_append, List.countP_cons, if_pos (decide_eq_true ht)] at honce
    omega
  rw [tokensFrom, List.dropWhile_append_of_pos hpast, List.dropWhile_cons_of_neg (by simp)]

/-- The loop ends, and it ends after the longest run of comments. -/
theorem exists_afterOpeningComments? (hfile : IsFile tokens) (ht : t.OpensFile)
    (hsuffix : t :: rest <:+ tokens) :
    ∃ u, afterOpeningComments? 2 (tokensFrom tokens t) = some u ∧
      IsAfterComments (t :: rest) u := by
  have hlast : (t :: rest).getLast?.map exactKind = some .fileEnd := by
    obtain ⟨past, rfl⟩ := hsuffix
    rw [← List.getLast?_append_cons past t rest]
    exact hfile.last_ends_file
  obtain ⟨run, u, rest', hpart, hrun, hu⟩ :=
    exists_commentRows (hfile.comment_ends_row.suffix hsuffix) hlast
  refine ⟨u, ?_, run, rest', hpart, hrun, fun other hother hprefix => ?_⟩
  · rw [tokensFrom_eq hfile.opens_once ht hsuffix, afterOpeningComments?_comment ht.1, hpart,
      afterOpeningComments?_append hrun, afterOpeningComments?, if_neg hu]
  · exact hrun.length_le hother hu (hpart ▸ hprefix)

/-- What is reported at a token, by the end of the loop. -/
def isReported (tokens : List Token) (t : Token) : Bool :=
  t.OpensFile ∧ ∃ u ∈ afterOpeningComments? 2 (tokensFrom tokens t), ¬ u.EndsRow

theorem openingComment_eq (hfile : IsFile tokens) (ht : t ∈ tokens) : openingComment tokens t =
    .ofFindings (reportIf (isReported tokens t) (Violation.emptyLineAfterCoding.atToken t)) := by
  by_cases hopens : t.OpensFile
  · obtain ⟨past, rest, rfl⟩ := List.append_of_mem ht
    obtain ⟨u, hloop, -⟩ := exists_afterOpeningComments? hfile hopens ⟨past, rfl⟩
    have htest : (!(u.exactKind == .blankEnd || u.exactKind == .lineEnd
        || u.exactKind == .fileEnd)) = isReported (past ++ t :: rest) t := by
      rw [Bool.eq_iff_iff]
      simp [isReported, hopens, hloop, EndsRow, and_assoc]
    refine (if_pos hopens).trans ?_
    rw [hloop, ← htest]
  · refine (if_neg hopens).trans ?_
    rw [isReported, decide_eq_false fun h => hopens h.1]
    rfl

/-- No comment stops the check, so all of them are looked at. -/
theorem openingComments_eq (hfile : IsFile tokens) : openingComments tokens =
    .ofFindings ((tokens.filter (isReported tokens)).map
      fun t => Violation.emptyLineAfterCoding.atToken t) := by
  have heach := List.map_congr_left fun t ht => openingComment_eq hfile ht
  have hnone : ∀ r ∈ tokens.map (openingComment tokens), r.fault = none := by
    rw [heach, List.forall_mem_map]
    exact fun t _ => rfl
  rw [openingComments, Report.sequence_eq_ofFindings hnone, heach, List.flatMap_map]
  exact congrArg Report.ofFindings (flatMap_reportIf _ _ _)

theorem isReported_iff (hfile : IsFile tokens) :
    t ∈ tokens ∧ isReported tokens t = true ↔ LacksEmptyLine tokens t := by
  rw [isReported, decide_eq_true_iff]
  constructor
  · rintro ⟨hmem, hopens, u, hloop, hu⟩
    obtain ⟨past, rest, rfl⟩ := List.append_of_mem hmem
    obtain ⟨v, hloop', hafter⟩ := exists_afterOpeningComments? hfile hopens ⟨past, rfl⟩
    obtain rfl : u = v := Option.some.inj (hloop.symm.trans hloop')
    exact ⟨hopens, rest, u, ⟨past, rfl⟩, hafter, hu⟩
  · rintro ⟨hopens, rest, u, hsuffix, hafter, hu⟩
    obtain ⟨v, hloop, hafter'⟩ := exists_afterOpeningComments? hfile hopens hsuffix
    obtain rfl := hafter.unique hafter'
    exact ⟨hsuffix.mem List.mem_cons_self, hopens, u, hloop, hu⟩

end Loop

/-- **Comments at the start of a file.** The check comes to its end in a whole file. From a comment
with which the file begins, its loop goes to the token after the longest run of comments there. The
comment is reported, once, exactly if that token ends no row. -/
theorem openingComments_reports_missing_line (subject : Subject) (memory : Memory)
    (hfile : Token.IsFile subject.tokens) :
    (∀ t rest, t :: rest <:+ subject.tokens → t.OpensFile →
      ∃ u, afterOpeningComments? 2 (tokensFrom subject.tokens t) = some u ∧
        ∀ v, Token.IsAfterComments (t :: rest) v ↔ v = u) ∧
    ∃ reported : List Token, reported.length ≤ 1 ∧
      (∀ t, t ∈ reported ↔ Token.LacksEmptyLine subject.tokens t) ∧
      (Check.openingComments.judge subject memory).1 =
        .ofFindings (reported.map fun t => Violation.emptyLineAfterCoding.atToken t) := by
  constructor
  · intro t rest hsuffix ht
    obtain ⟨u, hloop, hafter⟩ := exists_afterOpeningComments? hfile ht hsuffix
    refine ⟨u, hloop, fun v => ⟨fun hv => hv.unique hafter, ?_⟩⟩
    rintro rfl
    exact hafter
  · refine ⟨subject.tokens.filter (isReported subject.tokens), ?_, fun t => ?_, ?_⟩
    · rw [← List.countP_eq_length_filter]
      refine le_trans (List.countP_mono_left fun t _ hreported => ?_) hfile.opens_once
      exact decide_eq_true (of_decide_eq_true hreported).1
    · rw [List.mem_filter, isReported_iff hfile]
    · exact openingComments_eq hfile

/-- The first one of two comments. -/
def codingComment : Token :=
  ⟨.comment, "# coding: utf-8", 1, 0, 1, 15, ""⟩

/-- The rows `# coding: utf-8`, `# draft` and `total = 1`. -/
def commentedFile : List Token := [
  codingComment, ⟨.blankEnd, "", 1, 15, 1, 16, ""⟩, ⟨.comment, "# draft", 2, 0, 2, 7, ""⟩,
  ⟨.blankEnd, "", 2, 7, 2, 8, ""⟩, ⟨.name, "total", 3, 0, 3, 5, ""⟩, ⟨.op, "=", 3, 6, 3, 7, ""⟩,
  ⟨.number, "1", 3, 8, 3, 9, ""⟩, ⟨.lineEnd, "", 3, 9, 3, 10, ""⟩, ⟨.fileEnd, "", 4, 0, 4, 0, ""⟩]

/-- Nothing but the rows with comments. -/
def commentedSubject : Subject :=
  .ofTokens commentedFile "commented.py"

theorem openingComments_reports_missing_line_commentedSubject :
    Token.IsFile commentedSubject.tokens ∧
    Token.LacksEmptyLine commentedSubject.tokens codingComment ∧
    (Check.openingComments.judge commentedSubject {}).1 =
      .ofFindings [⟨.emptyLineAfterCoding, ⟨1, 0⟩, none⟩] := by
  have hfile : Token.IsFile commentedSubject.tokens := ⟨by decide, by decide, by decide⟩
  have hrun : Token.CommentRows (commentedFile.take 4) := .cons rfl rfl (.cons rfl rfl .nil)
  have hlacks : Token.LacksEmptyLine commentedSubject.tokens codingComment := by
    refine ⟨by decide, commentedFile.tail, ⟨.name, "total", 3, 0, 3, 5, ""⟩, List.suffix_refl _,
      ⟨commentedFile.take 4, commentedFile.drop 5, rfl, hrun, fun other hother hlonger => ?_⟩,
      by decide⟩
    exact hrun.length_le hother (by decide) hlonger
  obtain ⟨-, reported, hlength, hmem, hreport⟩ :=
    openingComments_reports_missing_line commentedSubject {} hfile
  have hreported : reported = [codingComment] := by
    obtain ⟨t, rfl⟩ := List.length_eq_one_iff.mp
      (le_antisymm hlength (List.length_pos_of_mem ((hmem _).mpr hlacks)))
    rw [List.mem_singleton.mp ((hmem _).mpr hlacks)]
  rw [hreported] at hreport
  exact ⟨hfile, hlacks, hreport⟩

end Stricture
