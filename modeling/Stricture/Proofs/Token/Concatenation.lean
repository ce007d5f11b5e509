import Mathlib.Data.List.Basic
import Stricture.Check

/-!
# Strings that are joined

Two strings that stand side by side are joined when a program is read. They may stand on different
rows as long as their line goes on, so between them there may be ends of rows that do not end the
line, and comments. The check goes back from a string over other tokens: over every end of a row,
also of one that ends a line, and over indentation, but not over comments
(`adjacentStrings_reports_strings`). So it misses strings with a comment between them, and it takes
two statements for one.
-/

namespace Stricture

open Rules

namespace Token

/-- Going back over tokens of the given kinds, the first other token is a string. -/
def FollowsString (passed : List TokenKind) (past : List Token) : Prop :=
  ∃ s ∈ past.reverse.find? fun u => u.exactKind ∉ passed, s.exactKind = .string

instance (passed : List TokenKind) (past : List Token) : Decidable (FollowsString passed past) :=
  inferInstanceAs (Decidable
    (∃ s ∈ past.reverse.find? fun u => u.exactKind ∉ passed, s.exactKind = .string))

/-- What may stand between two strings that are joined. -/
def joinKinds : List TokenKind :=
  [.blankEnd, .comment]

/-- What the check goes over on its way back from a string. -/
def breakKinds : List TokenKind :=
  [.blankEnd, .lineEnd, .indent]

variable {passed : List TokenKind} {past : List Token} {t : Token}

/-- All that one more token can do. -/
theorem followsString_concat (passed : List TokenKind) (past : List Token) (t : Token) :
    FollowsString passed (past ++ [t]) ↔
      if t.exactKind ∈ passed then FollowsString passed past else t.exactKind = .string := by
  rw [FollowsString, List.reverse_append, List.reverse_singleton, List.singleton_append,
    List.find?_cons]
  by_cases ht : t.exactKind ∈ passed <;> simp [ht, FollowsString]

theorem followsString_iff (h : .string ∉ passed) :
    FollowsString passed past ↔ ∃ earlier s gap, past = earlier ++ s :: gap ∧
      s.exactKind = .string ∧ ∀ u ∈ gap, u.exactKind ∈ passed := by
  constructor
  · rintro ⟨s, hs, hstring⟩
    obtain ⟨-, gap, earlier, hpast, hgap⟩ := List.find?_eq_some_iff_append.mp hs
    refine ⟨earlier.reverse, s, gap.reverse, ?_, hstring, fun u hu => ?_⟩
    · simpa using congrArg List.reverse hpast
    · simpa using hgap u (List.mem_reverse.mp hu)
  · rintro ⟨earlier, s, gap, rfl, hstring, hgap⟩
    refine ⟨s, List.find?_eq_some_iff_append.mpr ⟨by simpa [hstring] using h, gap.reverse,
      earlier.reverse, by simp, fun u hu => ?_⟩, hstring⟩
    simpa using hgap u (List.mem_reverse.mp hu)

/-- What stands behind the last string. -/
theorem takeWhile_reverse_eq {earlier gap : List Token} {s : Token} (hs : s.exactKind = .string)
    (hgap : ∀ u ∈ gap, u.exactKind ≠ .string) :
    ((earlier ++ s :: gap).reverse.takeWhile fun u => u.exactKind ≠ .string) = gap.reverse := by
  rw [List.reverse_append, List.reverse_cons, List.append_assoc, List.takeWhile_append_of_pos,
    List.singleton_append, List.takeWhile_cons_of_neg, List.append_nil]
  · simp [hs]
  · simpa using hgap

/-- Whether one comes to a string is decided by what stands behind it. -/
theorem followsString_append_iff {earlier gap : List Token} {s : Token} (h : .string ∉ passed)
    (hs : s.exactKind = .string) (hgap : ∀ u ∈ gap, u.exactKind ≠ .string) :
    FollowsString passed (earlier ++ s :: gap) ↔ ∀ u ∈ gap, u.exactKind ∈ passed := by
  rw [followsString_iff h]
  constructor
  · rintro ⟨earlier', s', gap', heq, hs', hgap'⟩
    have hother : ∀ u ∈ gap', u.exactKind ≠ .string := fun u hu hstring =>
      h (hstring ▸ hgap' u hu)
    have hsame : gap.reverse = gap'.reverse := by
      rw [← takeWhile_reverse_eq hs hgap, heq, takeWhile_reverse_eq hs' hother]
    rwa [List.reverse_injective hsame]
  · exact fun hpassed => ⟨earlier, s, gap, rfl, hs, hpassed⟩

/-! ### Gaps -/

/-- Ends of rows, comments and indentation. -/
def IsLayout (t : Token) : Prop :=
  t.exactKind ∈ joinKinds ∨ t.exactKind ∈ breakKinds

/-- Nothing but layout stands between two strings of the tokens. -/
def IsGap (tokens gap : List Token) : Prop :=
  ∃ earlier s t rest, tokens = (earlier ++ s :: gap) ++ t :: rest ∧ s.exactKind = .string ∧
    t.exactKind = .string ∧ ∀ u ∈ gap, u.IsLayout

/-- Between strings, comments and ends of lines come together or not at all. -/
def GapsAreEven (tokens : List Token) : Prop :=
  ∀ gap, IsGap tokens gap → ((∃ u ∈ gap, u.exactKind = .comment) ↔
    ∃ u ∈ gap, u.exactKind = .lineEnd ∨ u.exactKind = .indent)

theorem IsLayout.kind_cases (h : t.IsLayout) : t.exactKind = .blankEnd ∨ t.exactKind = .comment ∨
    t.exactKind = .lineEnd ∨ t.exactKind = .indent := by
  simp only [IsLayout, joinKinds, breakKinds, List.mem_cons, List.not_mem_nil, or_false] at h
  tauto

theorem IsLayout.mem_breakKinds_iff (h : t.IsLayout) :
    t.exactKind ∈ breakKinds ↔ ¬ t.exactKind = .comment := by
  rcases h.kind_cases with hkind | hkind | hkind | hkind <;> rw [hkind] <;> decide

theorem IsLayout.mem_joinKinds_iff (h : t.IsLayout) :
    t.exactKind ∈ joinKinds ↔ ¬ (t.exactKind = .lineEnd ∨ t.exactKind = .indent) := by
  rcases h.kind_cases with hkind | hkind | hkind | hkind <;> rw [hkind] <;> decide

section Gap

variable {earlier gap : List Token} {s : Token} (hs : s.exactKind = .string)
  (hgap : ∀ u ∈ gap, u.IsLayout)

include hgap in
theorem ne_string_of_isLayout : ∀ u ∈ gap, u.exactKind ≠ .string := by
  intro u hu hstring
  rcases (hgap u hu).kind_cases with hkind | hkind | hkind | hkind <;> rw [hkind] at hstring <;>
    cases hstring

include hs hgap

/-- Behind a string, the check is stopped by comments, and by nothing else. -/
theorem followsString_breakKinds_iff : FollowsString breakKinds (earlier ++ s :: gap) ↔
    ¬ ∃ u ∈ gap, u.exactKind = .comment := by
  rw [followsString_append_iff (by decide) hs (ne_string_of_isLayout hgap)]
  push Not
  exact forall₂_congr fun u hu => (hgap u hu).mem_breakKinds_iff

/-- Behind a string, the next one is not joined to it if the line ends. -/
theorem followsString_joinKinds_iff : FollowsString joinKinds (earlier ++ s :: gap) ↔
    ¬ ∃ u ∈ gap, u.exactKind = .lineEnd ∨ u.exactKind = .indent := by
  rw [followsString_append_iff (by decide) hs (ne_string_of_isLayout hgap)]
  simp only [not_exists, not_and]
  exact forall₂_congr fun u hu => (hgap u hu).mem_joinKinds_iff

end Gap

/-- **Where the check is right.** It judges every string as it should exactly if gaps are even. -/
theorem gapsAreEven_iff {tokens : List Token} : GapsAreEven tokens ↔
    ∀ past t rest, tokens = past ++ t :: rest → t.exactKind = .string →
      (FollowsString breakKinds past ↔ FollowsString joinKinds past) := by
  constructor
  · intro heven past t rest htokens ht
    have hagree {earlier gap : List Token} {s : Token} (hpast : past = earlier ++ s :: gap)
        (hs : s.exactKind = .string) (hgap : ∀ u ∈ gap, u.IsLayout) :
        FollowsString breakKinds past ↔ FollowsString joinKinds past := by
      have hisGap : IsGap tokens gap := ⟨earlier, s, t, rest, hpast ▸ htokens, hs, ht, hgap⟩
      rw [hpast, followsString_breakKinds_iff hs hgap, followsString_joinKinds_iff hs hgap]
      exact not_congr (heven gap hisGap)
    constructor
    · intro hfollows
      obtain ⟨earlier, s, gap, hpast, hs, hgap⟩ := (followsString_iff (by decide)).mp hfollows
      exact (hagree hpast hs fun u hu => .inr (hgap u hu)).mp hfollows
    · intro hfollows
      obtain ⟨earlier, s, gap, hpast, hs, hgap⟩ := (followsString_iff (by decide)).mp hfollows
      exact (hagree hpast hs fun u hu => .inl (hgap u hu)).mpr hfollows
  · rintro hall gap ⟨earlier, s, t, rest, htokens, hs, ht, hgap⟩
    have hagree := hall (earlier ++ s :: gap) t rest htokens ht
    rw [followsString_breakKinds_iff hs hgap, followsString_joinKinds_iff hs hgap] at hagree
    exact not_iff_not.mp hagree

end Token

open Token

/-! ### Runs -/

/-- The findings at the strings that follow a string if one goes back over tokens of the given
kinds. -/
def stringFindings (passed : List TokenKind) (tokens : List Token) : List Finding :=
  (tokens.zipIdx.filter fun (t, place) =>
    t.exactKind = .string ∧ FollowsString passed (tokens.take place)).map
      fun (t, _) => Violation.implicitStringConcatenation.atToken t

/-- One token: what is reported, and what is remembered. -/
theorem adjacentStrings_cons (isAfterString : Bool) (t : Token) (rest : List Token) :
    adjacentStrings isAfterString (t :: rest) =
      reportIf (t.exactKind = .string ∧ isAfterString = true)
        (Violation.implicitStringConcatenation.atToken t) ++
      adjacentStrings (if t.exactKind ∈ breakKinds then isAfterString else t.exactKind = .string)
        rest := by
  rw [adjacentStrings]
  generalize t.exactKind = kind
  cases kind <;> cases isAfterString <;> rfl

/-- What is left, after some tokens. -/
theorem adjacentStrings_eq (past rest : List Token) :
    adjacentStrings (FollowsString breakKinds past) rest =
      ((rest.zipIdx past.length).filter fun (t, place) =>
        t.exactKind = .string ∧ FollowsString breakKinds ((past ++ rest).take place)).map
          fun (t, _) => Violation.implicitStringConcatenation.atToken t := by
  induction rest generalizing past with
  | nil => rfl
  | cons t rest ih =>
    have hnext : adjacentStrings (if t.exactKind ∈ breakKinds then
        decide (FollowsString breakKinds past) else t.exactKind = .string) rest =
          adjacentStrings (FollowsString breakKinds (past ++ [t])) rest := by
      congr 1
      rw [Bool.eq_iff_iff, decide_eq_true_iff, followsString_concat]
      split <;> simp
    have hpast : (past ++ t :: rest).take past.length = past := List.take_left
    rw [adjacentStrings_cons, hnext, ih, List.append_assoc, List.singleton_append,
      List.length_append, List.length_singleton, List.zipIdx_cons]
    by_cases ht : t.exactKind = .string ∧ FollowsString breakKinds past <;>
      simp [reportIf, hpast, ht]

theorem stringFindings_congr {passed passed' : List TokenKind} {tokens : List Token}
    (h : ∀ past t rest, tokens = past ++ t :: rest → t.exactKind = .string →
      (FollowsString passed past ↔ FollowsString passed' past)) :
    stringFindings passed tokens = stringFindings passed' tokens := by
  unfold stringFindings
  congr 1
  refine List.filter_congr ?_
  rintro ⟨t, place⟩ hplace
  obtain ⟨hlt, rfl⟩ := List.getElem?_eq_some_iff.mp (List.mk_mem_zipIdx_iff_getElem?.mp hplace)
  have hsplit : tokens = tokens.take place ++ tokens[place] :: tokens.drop (place + 1) := by
    rw [← List.drop_eq_getElem_cons hlt, List.take_append_drop]
  exact decide_eq_decide.mpr (and_congr_right fun ht => h _ _ _ hsplit ht)

/-- **Strings side by side.** The check comes to its end and reports every string that follows
another one if one goes back over ends of rows and indentation. What should be reported is every
string that is joined to the one before, with ends of rows that do not end the line and comments
between them. The two agree on all strings exactly if gaps are even, and then those that are joined
are reported. -/
theorem adjacentStrings_reports_strings (subject : Subject) (memory : Memory) :
    (Check.adjacentStrings.judge subject memory).1 =
      .ofFindings (stringFindings breakKinds subject.tokens) ∧
    (GapsAreEven subject.tokens ↔
      ∀ past t rest, subject.tokens = past ++ t :: rest → t.exactKind = .string →
        (FollowsString breakKinds past ↔ FollowsString joinKinds past)) ∧
    (GapsAreEven subject.tokens → (Check.adjacentStrings.judge subject memory).1 =
      .ofFindings (stringFindings joinKinds subject.tokens)) := by
  have hreport : (Check.adjacentStrings.judge subject memory).1 =
      .ofFindings (stringFindings breakKinds subject.tokens) :=
    congrArg Report.ofFindings (adjacentStrings_eq [] subject.tokens)
  refine ⟨hreport, gapsAreEven_iff, fun heven => ?_⟩
  rw [hreport, stringFindings_congr (gapsAreEven_iff.mp heven)]

/-- A subject whose tree is empty. -/
def Subject.ofTokens (tokens : List Token) (filename : String) : Subject :=
  ⟨{ root := .mk 0 none (.file []), distinct := by decide }, tokens, filename, Options.initial⟩

/-- The rows `('a'` and `'b')`. -/
def joinedStrings : List Token := [
  ⟨.op, "(", 1, 0, 1, 1, ""⟩, ⟨.string, "'a'", 1, 1, 1, 4, ""⟩, ⟨.blankEnd, "", 1, 4, 1, 5, ""⟩,
  ⟨.string, "'b'", 2, 1, 2, 4, ""⟩, ⟨.op, ")", 2, 4, 2, 5, ""⟩, ⟨.lineEnd, "", 2, 5, 2, 6, ""⟩]

/-- Nothing but the joined rows. -/
def joinedSubject : Subject :=
  .ofTokens joinedStrings "joined.py"

theorem adjacentStrings_reports_strings_joinedSubject : GapsAreEven joinedSubject.tokens ∧
    (Check.adjacentStrings.judge joinedSubject {}).1 =
      .ofFindings (stringFindings joinKinds joinedSubject.tokens) ∧
    stringFindings joinKinds joinedSubject.tokens =
      [⟨.implicitStringConcatenation, ⟨2, 1⟩, none⟩] := by
  have hlast : joinedStrings.Pairwise fun u v =>
      u.exactKind ∈ [.comment, .lineEnd, .indent] → v.exactKind ≠ .string := by decide
  have heven : GapsAreEven joinedSubject.tokens := by
    rintro gap ⟨earlier, s, t, rest, htokens, -, ht, -⟩
    rw [show joinedSubject.tokens = joinedStrings from rfl] at htokens
    rw [htokens, List.pairwise_append] at hlast
    -- no comment comes before the last string, and no line ends there
    have hnone (u : Token) (hu : u ∈ gap) : u.exactKind ∉ [.comment, .lineEnd, .indent] :=
      fun hkind => hlast.2.2 u (List.mem_append_right _ (List.mem_cons_of_mem _ hu)) t
        List.mem_cons_self hkind ht
    constructor
    · rintro ⟨u, hu, hkind⟩
      exact absurd (by simp [hkind]) (hnone u hu)
    · rintro ⟨u, hu, hkind | hkind⟩
      · exact absurd (by simp [hkind]) (hnone u hu)
      · exact absurd (by simp [hkind]) (hnone u hu)
  exact ⟨heven, (adjacentStrings_reports_strings joinedSubject {}).2.2 heven, rfl⟩

/-- The rows `('a'  # first` and `'b')`. -/
def commentedStrings : List Token := [
  ⟨.op, "(", 1, 0, 1, 1, ""⟩, ⟨.string, "'a'", 1, 1, 1, 4, ""⟩,
  ⟨.comment, "# first", 1, 6, 1, 13, ""⟩, ⟨.blankEnd, "", 1, 13, 1, 14, ""⟩,
  ⟨.string, "'b'", 2, 1, 2, 4, ""⟩, ⟨.op, ")", 2, 4, 2, 5, ""⟩, ⟨.lineEnd, "", 2, 5, 2, 6, ""⟩]

/-- The statements `'a'` and `'b'`. -/
def separateStrings : List Token := [
  ⟨.string, "'a'", 1, 0, 1, 3, ""⟩, ⟨.lineEnd, "", 1, 3, 1, 4, ""⟩,
  ⟨.string, "'b'", 2, 0, 2, 3, ""⟩, ⟨.lineEnd, "", 2, 3, 2, 4, ""⟩]

/-- Strings with a comment between them are joined and not reported, and the strings of two
statements are reported and not joined. -/
theorem adjacentStrings_misjudges_gaps :
    stringFindings joinKinds commentedStrings =
        [⟨.implicitStringConcatenation, ⟨2, 1⟩, none⟩] ∧
      adjacentStrings false commentedStrings = [] ∧
      stringFindings joinKinds separateStrings = [] ∧
      adjacentStrings false separateStrings =
        [⟨.implicitStringConcatenation, ⟨2, 0⟩, none⟩] :=
  ⟨rfl, rfl, rfl, rfl⟩

end Stricture
