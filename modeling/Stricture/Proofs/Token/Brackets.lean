import Mathlib.Data.Fintype.Basic
import Mathlib.Data.List.Induction
import Stricture.Rules.TokenLayout

/-!
# Brackets that are closed late

A closing bracket is misplaced if its opening bracket begins on another row and something else
stands before it on its own row. The check keeps no stack: for every closing bracket it counts the
brackets that are open on its row, and the count stops at zero. What a bracket closes is said here
by a stack that goes over all tokens (`Bracket.openAfter`).

The two agree because rows come in order. Brackets lie on the stack in the order of their rows, so
those of the last row lie on top, and the count of that row is their number
(`Bracket.openBrackets_row`): a closing bracket takes one of them away, or, when there is none left,
a bracket of an earlier row, which the count never knew of.
-/

namespace Stricture

open Rules

/-! ### Matching -/

/-- The types of brackets. -/
inductive Bracket where
  | round
  | square
  | curly
  deriving DecidableEq

namespace Bracket

instance : Fintype Bracket where
  elems := {round, square, curly}
  complete b := by cases b <;> decide

/-- The bracket that opens. -/
def opening : Bracket → TokenKind
  | round => .leftParen
  | square => .leftBracket
  | curly => .leftBrace

/-- The bracket that closes. -/
def closing : Bracket → TokenKind
  | round => .rightParen
  | square => .rightBracket
  | curly => .rightBrace

/-- What a token does to the open brackets of a type: one more is put on top of them, or the one on
top is taken away. There is no next stack if the token closes and nothing is open. -/
def step (b : Bracket) (stack : List Token) (t : Token) : Option (List Token) :=
  if t.exactKind = b.opening then some (t :: stack)
  else if t.exactKind = b.closing then stack.tail?
  else some stack

/-- The brackets that are open after some tokens, the last one on top. -/
def openAfter (b : Bracket) (tokens : List Token) : Option (List Token) :=
  tokens.foldlM b.step []

/-- Every bracket that is opened is closed, and every one that is closed was opened. -/
def Balanced (b : Bracket) (tokens : List Token) : Prop :=
  b.openAfter tokens = some []

instance (b : Bracket) (tokens : List Token) : Decidable (b.Balanced tokens) :=
  inferInstanceAs (Decidable (b.openAfter tokens = some []))

/-- The opening bracket that a closing one belongs to, which comes right after some tokens. -/
def partner? (b : Bracket) (past : List Token) : Option Token :=
  (b.openAfter past).bind List.head?

end Bracket

namespace Token

/-- Line ends and closing brackets, which leave a row free for further closing brackets. -/
def MayLead (t : Token) : Prop :=
  t.exactKind = .blankEnd ∨ t.exactKind = .lineEnd ∨ ∃ b : Bracket, t.exactKind = b.closing

instance (t : Token) : Decidable t.MayLead :=
  inferInstanceAs (Decidable (_ ∨ _ ∨ ∃ b : Bracket, t.exactKind = b.closing))

/-- The token, which comes after some others, closes a bracket that begins on another row, and not
only line ends and closing brackets stand before it on its own row. -/
def ClosesLate (past : List Token) (t : Token) : Prop :=
  ∃ b : Bracket, t.exactKind = b.closing ∧
    (∃ partner ∈ b.partner? past, partner.startRow ≠ t.startRow) ∧
    ∃ u ∈ past, u.startRow = t.startRow ∧ ¬ u.MayLead

instance (past : List Token) (t : Token) : Decidable (t.ClosesLate past) :=
  inferInstanceAs (Decidable (∃ b : Bracket, t.exactKind = b.closing ∧
    (∃ partner ∈ b.partner? past, partner.startRow ≠ t.startRow) ∧
    ∃ u ∈ past, u.startRow = t.startRow ∧ ¬ u.MayLead))

/-- The rows of tokens never decrease. -/
def InRowOrder (tokens : List Token) : Prop :=
  tokens.Pairwise fun t u => t.startRow ≤ u.startRow

instance (tokens : List Token) : Decidable (InRowOrder tokens) :=
  inferInstanceAs (Decidable (tokens.Pairwise fun t u => t.startRow ≤ u.startRow))

end Token

/-! ### What the stack holds -/

namespace Bracket

variable {b : Bracket} {past stack stack' : List Token} {t : Token}

theorem opening_injective : Function.Injective opening := by
  decide

theorem opening_ne_closing (b : Bracket) : b.opening ≠ b.closing := by
  cases b <;> decide

/-- All that one token can do. -/
theorem step_cases (h : b.step stack t = some stack') :
    (t.exactKind = b.opening ∧ stack' = t :: stack) ∨
    (t.exactKind = b.closing ∧ ∃ top, stack = top :: stack') ∨
    (t.exactKind ≠ b.opening ∧ t.exactKind ≠ b.closing ∧ stack' = stack) := by
  unfold step at h
  split at h
  case isTrue hopen =>
    exact Or.inl ⟨hopen, (Option.some.inj h).symm⟩
  case isFalse hopen =>
    split at h
    case isTrue hclose =>
      cases stack with
      | nil => exact absurd h (by simp)
      | cons top rest => exact Or.inr (Or.inl ⟨hclose, top, by rw [Option.some.inj h]⟩)
    case isFalse hclose =>
      exact Or.inr (Or.inr ⟨hopen, hclose, (Option.some.inj h).symm⟩)

theorem openAfter_append (b : Bracket) (past rest : List Token) :
    b.openAfter (past ++ rest) = (b.openAfter past).bind fun stack => rest.foldlM b.step stack :=
  List.foldlM_append

/-- The last token is the last step. -/
theorem openAfter_concat (b : Bracket) (past : List Token) (t : Token) :
    b.openAfter (past ++ [t]) = (b.openAfter past).bind fun stack => b.step stack t := by
  rw [openAfter_append]
  simp

/-- Brackets lie on the stack in the order of the tokens, the last one on top. -/
theorem openAfter_sublist (h : b.openAfter past = some stack) : stack.Sublist past.reverse := by
  induction past using List.reverseRecOn generalizing stack with
  | nil =>
    obtain rfl : [] = stack := Option.some.inj h
    exact List.Sublist.refl _
  | append_singleton past t ih =>
    rw [openAfter_concat] at h
    obtain ⟨before, hbefore, hstep⟩ := Option.bind_eq_some_iff.mp h
    have hsub := ih hbefore
    rw [List.reverse_append, List.reverse_singleton, List.singleton_append]
    obtain ⟨-, rfl⟩ | ⟨-, top, rfl⟩ | ⟨-, -, rfl⟩ := step_cases hstep
    · exact hsub.cons_cons t
    · exact ((List.sublist_cons_self top stack).trans hsub).cons t
    · exact hsub.cons t

/-- Below the top of the stack, rows do not increase. -/
theorem row_le_top {top : Token} (hrows : Token.InRowOrder past)
    (h : b.openAfter past = some (top :: stack)) :
    ∀ o ∈ stack, o.startRow ≤ top.startRow := by
  have hreverse := List.pairwise_reverse.mpr hrows
  exact (List.pairwise_cons.mp (hreverse.sublist (openAfter_sublist h))).1

/-- Where every bracket is closed, a closing bracket finds something open. -/
theorem Balanced.exists_partner {tokens rest : List Token} (h : b.Balanced tokens)
    (htokens : tokens = past ++ t :: rest) (ht : t.exactKind = b.closing) :
    ∃ partner stack, b.openAfter past = some (partner :: stack) := by
  rw [Balanced, htokens, openAfter_append] at h
  obtain ⟨before, hbefore, hrest⟩ := Option.bind_eq_some_iff.mp h
  rw [List.foldlM_cons] at hrest
  obtain ⟨after, hstep, -⟩ := Option.bind_eq_some_iff.mp hrest
  obtain ⟨hopen, -⟩ | ⟨-, top, rfl⟩ | ⟨-, hclose, -⟩ := step_cases hstep
  · exact absurd (hopen.symm.trans ht) b.opening_ne_closing
  · exact ⟨top, after, hbefore⟩
  · exact absurd ht hclose

end Bracket

/-! ### What a row counts -/

theorem exists_bracket_of_openingOf? {kind opening : TokenKind}
    (h : openingOf? kind = some opening) :
    ∃ b : Bracket, opening = b.opening ∧ kind = b.closing := by
  unfold openingOf? at h
  split at h
  · exact ⟨.curly, (Option.some.inj h).symm, rfl⟩
  · exact ⟨.square, (Option.some.inj h).symm, rfl⟩
  · exact ⟨.round, (Option.some.inj h).symm, rfl⟩
  · exact absurd h (by simp)

theorem openingOf?_eq_some_iff {kind : TokenKind} {b : Bracket} :
    openingOf? kind = some b.opening ↔ kind = b.closing := by
  constructor
  · intro h
    obtain ⟨b', hopening, hclosing⟩ := exists_bracket_of_openingOf? h
    rw [hclosing, Bracket.opening_injective hopening]
  · rintro rfl
    cases b <;> rfl

theorem exists_eq_closing_iff {kind : TokenKind} :
    (∃ b : Bracket, kind = b.closing) ↔
      kind = .rightParen ∨ kind = .rightBracket ∨ kind = .rightBrace := by
  constructor
  · rintro ⟨b, rfl⟩
    cases b <;> decide
  · rintro (rfl | rfl | rfl)
    exacts [⟨.round, rfl⟩, ⟨.square, rfl⟩, ⟨.curly, rfl⟩]

theorem Token.mem_rowOpeners_iff {t : Token} : t.exactKind ∈ rowOpeners ↔ t.MayLead := by
  simp only [rowOpeners, Token.MayLead, exists_eq_closing_iff, List.mem_cons, List.not_mem_nil,
    or_false]
  tauto

/-- The tokens that begin on a row. -/
def Token.onRow (row : Int) (tokens : List Token) : List Token :=
  tokens.filter fun t => t.startRow == row

namespace Token

variable {row : Int} {t : Token}

theorem onRow_cons_of_eq (h : t.startRow = row) (rest : List Token) :
    onRow row (t :: rest) = t :: onRow row rest :=
  List.filter_cons_of_pos (by simpa using h)

theorem onRow_cons_of_ne (h : t.startRow ≠ row) (rest : List Token) :
    onRow row (t :: rest) = onRow row rest :=
  List.filter_cons_of_neg (by simpa using h)

theorem onRow_concat_of_eq (h : t.startRow = row) (past : List Token) :
    onRow row (past ++ [t]) = onRow row past ++ [t] := by
  simp [onRow, h]

theorem onRow_concat_of_ne (h : t.startRow ≠ row) (past : List Token) :
    onRow row (past ++ [t]) = onRow row past := by
  simp [onRow, h]

theorem onRow_eq_nil_iff {tokens : List Token} :
    onRow row tokens = [] ↔ ∀ t ∈ tokens, t.startRow ≠ row := by
  simp [onRow]

end Token

namespace Bracket

variable {b : Bracket} {past stack : List Token} {row : Int}

/-- What one more token does to the count. -/
theorem openBrackets_concat (b : Bracket) (past : List Token) (t : Token) :
    openBrackets b.opening (past ++ [t]) =
      if t.exactKind = b.opening then openBrackets b.opening past + 1
      else if t.exactKind = b.closing then openBrackets b.opening past - 1
      else openBrackets b.opening past := by
  simp only [openBrackets, List.foldl_append, List.foldl_cons, List.foldl_nil,
    openingOf?_eq_some_iff]

/-- Nothing on the stack is on the row if its top is on an earlier one. -/
theorem onRow_eq_nil {top : Token} (hrows : Token.InRowOrder past)
    (h : b.openAfter past = some (top :: stack)) (htop : top.startRow < row) :
    Token.onRow row (top :: stack) = [] := by
  rw [Token.onRow_eq_nil_iff]
  intro o ho
  have hle : o.startRow ≤ top.startRow := by
    rcases List.mem_cons.mp ho with rfl | hmem
    · exact le_refl _
    · exact row_le_top hrows h o hmem
  omega

/-- One token: if the count of a row is the number of its brackets on the stack, it stays so. -/
theorem openBrackets_row_step {before : List Token} {t : Token} (hrows : Token.InRowOrder past)
    (hpast : ∀ u ∈ past, u.startRow ≤ t.startRow) (ht : t.startRow ≤ row)
    (hbefore : b.openAfter past = some before) (hstep : b.step before t = some stack)
    (hcount : openBrackets b.opening (Token.onRow row past) = (Token.onRow row before).length) :
    openBrackets b.opening (Token.onRow row (past ++ [t])) = (Token.onRow row stack).length := by
  have hmem : ∀ o ∈ before, o.startRow ≤ t.startRow := fun o ho =>
    hpast o (List.mem_reverse.mp ((openAfter_sublist hbefore).subset ho))
  by_cases hrow : t.startRow = row
  · rw [Token.onRow_concat_of_eq hrow, openBrackets_concat, hcount]
    obtain ⟨hopen, rfl⟩ | ⟨hclose, top, rfl⟩ | ⟨hopen, hclose, rfl⟩ := step_cases hstep
    · rw [if_pos hopen, Token.onRow_cons_of_eq hrow, List.length_cons]
    · rw [if_neg (hclose ▸ b.opening_ne_closing.symm), if_pos hclose]
      by_cases htop : top.startRow = row
      · rw [Token.onRow_cons_of_eq htop, List.length_cons, Nat.add_sub_cancel]
      · -- a bracket of an earlier row is taken away, and the count stays at zero
        have hle : top.startRow ≤ row := hrow ▸ hmem top List.mem_cons_self
        have hnil := onRow_eq_nil hrows hbefore (lt_of_le_of_ne hle htop)
        rw [Token.onRow_cons_of_ne htop] at hnil ⊢
        rw [hnil]
        rfl
    · rw [if_neg hopen, if_neg hclose]
  · rw [Token.onRow_concat_of_ne hrow, hcount]
    obtain ⟨-, rfl⟩ | ⟨-, top, rfl⟩ | ⟨-, -, rfl⟩ := step_cases hstep
    · rw [Token.onRow_cons_of_ne hrow]
    · have htop : top.startRow ≠ row := by
        have hle := hmem top List.mem_cons_self
        omega
      rw [Token.onRow_cons_of_ne htop]
    · rfl

/-- The count of the last row is the number of its brackets on the stack. -/
theorem openBrackets_row (hrows : Token.InRowOrder past) (hlast : ∀ u ∈ past, u.startRow ≤ row)
    (h : b.openAfter past = some stack) :
    openBrackets b.opening (Token.onRow row past) = (Token.onRow row stack).length := by
  induction past using List.reverseRecOn generalizing stack with
  | nil =>
    obtain rfl : [] = stack := Option.some.inj h
    rfl
  | append_singleton past t ih =>
    rw [openAfter_concat] at h
    obtain ⟨before, hbefore, hstep⟩ := Option.bind_eq_some_iff.mp h
    obtain ⟨hpast, -, hcross⟩ := List.pairwise_append.mp hrows
    obtain ⟨hearlier, ht⟩ := List.forall_mem_append.mp hlast
    exact openBrackets_row_step hpast (fun u hu => hcross u hu t List.mem_cons_self)
      (ht t List.mem_cons_self) hbefore hstep (ih hpast hearlier hbefore)

/-- The count of the last row is zero exactly if the bracket on top is of an earlier row. -/
theorem openBrackets_eq_zero_iff {top : Token} (hrows : Token.InRowOrder past)
    (hlast : ∀ u ∈ past, u.startRow ≤ row) (h : b.openAfter past = some (top :: stack)) :
    openBrackets b.opening (Token.onRow row past) = 0 ↔ top.startRow ≠ row := by
  rw [openBrackets_row hrows hlast h]
  constructor
  · intro hzero heq
    rw [Token.onRow_cons_of_eq heq, List.length_cons] at hzero
    omega
  · intro hne
    have hmem : top ∈ past.reverse := (openAfter_sublist h).subset List.mem_cons_self
    have hle := hlast top (List.mem_reverse.mp hmem)
    rw [onRow_eq_nil hrows h (lt_of_le_of_ne hle hne)]
    rfl

end Bracket

section Agreement

variable {tokens past rest : List Token} {t : Token}

/-- One token: what its row tells is what the stack tells. -/
theorem isMisplacedBracket_iff_closesLate (hrows : Token.InRowOrder tokens)
    (hbalanced : ∀ b : Bracket, b.Balanced tokens) (htokens : tokens = past ++ t :: rest) :
    isMisplacedBracket (Token.onRow t.startRow past) t = true ↔ t.ClosesLate past := by
  rw [htokens] at hrows
  obtain ⟨hpast, -, hcross⟩ := List.pairwise_append.mp hrows
  have hlast : ∀ u ∈ past, u.startRow ≤ t.startRow := fun u hu => hcross u hu t List.mem_cons_self
  -- what stands before the token on its row
  have hfree : (!Token.onlyOf rowOpeners (Token.onRow t.startRow past)) = true ↔
      ∃ u ∈ past, u.startRow = t.startRow ∧ ¬ u.MayLead := by
    simp [Token.onlyOf, Token.onRow, Token.mem_rowOpeners_iff]
  have hcount {b : Bracket} (ht : t.exactKind = b.closing) :
      openBrackets b.opening (Token.onRow t.startRow past) = 0 ↔
        ∃ partner ∈ b.partner? past, partner.startRow ≠ t.startRow := by
    obtain ⟨partner, stack, hopen⟩ := (hbalanced b).exists_partner htokens ht
    rw [Bracket.openBrackets_eq_zero_iff hpast hlast hopen]
    simp [Bracket.partner?, hopen]
  rw [isMisplacedBracket, Option.any_eq_true]
  constructor
  · rintro ⟨opening, hopening, hboth⟩
    obtain ⟨b, rfl, ht⟩ := exists_bracket_of_openingOf? hopening
    rw [Bool.and_eq_true, beq_iff_eq, hcount ht, hfree] at hboth
    exact ⟨b, ht, hboth⟩
  · rintro ⟨b, ht, hboth⟩
    refine ⟨b.opening, openingOf?_eq_some_iff.mpr ht, ?_⟩
    rw [Bool.and_eq_true, beq_iff_eq, hcount ht, hfree]
    exact hboth

end Agreement

/-! ### Rows -/

/-- The first group is that of the first thing. -/
theorem grouped_cons {α κ : Type} [BEq κ] [LawfulBEq κ] (key : α → κ) (a : α) (rest : List α) :
    grouped key (a :: rest) =
      (key a, a :: rest.filter fun t => key t == key a) ::
        grouped key (rest.filter fun t => !(key t == key a)) := by
  unfold grouped
  rw [List.map_cons, List.eraseDups_cons, List.map_cons, List.filter_map]
  congr 1
  · simp
  · apply List.map_congr_left
    intro k hk
    have hne : k ≠ key a := by
      obtain ⟨t, ht, rfl⟩ := List.mem_map.mp (List.mem_eraseDups.mp hk)
      simpa using (List.mem_filter.mp ht).2
    rw [List.filter_cons_of_neg (by simpa using hne.symm), List.filter_filter]
    congr 1
    apply List.filter_congr
    intro t _
    by_cases h : key t = k <;> simp [h, hne]

/-- If rows come in order, the tokens of the first row come first. -/
theorem Token.InRowOrder.eq_append {t : Token} {rest : List Token}
    (h : Token.InRowOrder (t :: rest)) :
    rest = (rest.filter fun u => u.startRow == t.startRow) ++
      rest.filter fun u => !(u.startRow == t.startRow) := by
  induction rest with
  | nil => rfl
  | cons u rest ih =>
    obtain ⟨hfirst, hrest⟩ := List.pairwise_cons.mp h
    by_cases hu : u.startRow = t.startRow
    · have heq := ih (h.sublist ((List.sublist_cons_self u rest).cons_cons t))
      simpa [hu] using heq
    · -- then all tokens are of later rows
      have hlater : ∀ v ∈ u :: rest, v.startRow ≠ t.startRow := by
        intro v hv
        have hle : u.startRow ≤ v.startRow := by
          rcases List.mem_cons.mp hv with rfl | hmem
          · exact le_refl _
          · exact (List.pairwise_cons.mp hrest).1 v hmem
        have hfirst := hfirst u List.mem_cons_self
        omega
      rw [List.filter_eq_nil_iff.mpr fun v hv => by simpa using hlater v hv,
        List.filter_eq_self.mpr fun v hv => by simpa using hlater v hv, List.nil_append]

/-! ### Runs -/

/-- The findings at the tokens of a part that close late. The part begins at the given place of the
tokens. -/
def lateFindings (tokens : List Token) (start : Nat) (part : List Token) : List Finding :=
  ((part.zipIdx start).filter fun (t, place) => t.ClosesLate (tokens.take place)).map
    fun (t, _) => Violation.wrongBracketPosition.atToken t

section Runs

variable {tokens past part rest : List Token}

theorem lateFindings_cons (tokens : List Token) (start : Nat) (t : Token) (rest : List Token) :
    lateFindings tokens start (t :: rest) =
      reportIf (t.ClosesLate (tokens.take start)) (Violation.wrongBracketPosition.atToken t) ++
        lateFindings tokens (start + 1) rest := by
  by_cases h : t.ClosesLate (tokens.take start) <;> simp [lateFindings, reportIf, h]

theorem lateFindings_append (tokens : List Token) (start : Nat) (part rest : List Token) :
    lateFindings tokens start (part ++ rest) =
      lateFindings tokens start part ++ lateFindings tokens (start + part.length) rest := by
  simp only [lateFindings, List.zipIdx_append, List.filter_append, List.map_append]

/-- One row, or what is left of it after some of its tokens. -/
theorem rowBrackets_eq_lateFindings (hrows : Token.InRowOrder tokens)
    (hbalanced : ∀ b : Bracket, b.Balanced tokens) {row : Int}
    (htokens : tokens = past ++ (part ++ rest)) (hpart : ∀ t ∈ part, t.startRow = row) :
    rowBrackets (Token.onRow row past) part = lateFindings tokens past.length part := by
  induction part generalizing past with
  | nil => rfl
  | cons t part ih =>
    obtain rfl : t.startRow = row := hpart t List.mem_cons_self
    have hnext : tokens = (past ++ [t]) ++ (part ++ rest) := by
      rw [htokens, List.append_assoc]
      rfl
    have hothers := ih hnext fun u hu => hpart u (List.mem_cons_of_mem t hu)
    have hpast : tokens.take past.length = past := by rw [htokens, List.take_left]
    have hagree : isMisplacedBracket (Token.onRow t.startRow past) t =
        decide (t.ClosesLate past) := by
      rw [Bool.eq_iff_iff, decide_eq_true_iff]
      exact isMisplacedBracket_iff_closesLate hrows hbalanced htokens
    rw [rowBrackets, ← Token.onRow_concat_of_eq rfl, hothers, hagree, lateFindings_cons, hpast,
      List.length_append]
    rfl

/-- All rows, one after the other. -/
theorem flatMap_rowBrackets_eq_lateFindings (hrows : Token.InRowOrder tokens)
    (hbalanced : ∀ b : Bracket, b.Balanced tokens) (htokens : tokens = past ++ rest)
    (hnew : ∀ u ∈ past, ∀ t ∈ rest, u.startRow ≠ t.startRow) :
    ((grouped Token.startRow rest).flatMap fun row => rowBrackets [] row.2) =
      lateFindings tokens past.length rest := by
  induction hlength : rest.length using Nat.strong_induction_on generalizing past rest with
  | _ n ih =>
    cases rest with
    | nil => rfl
    | cons t rest =>
      have hsorted : Token.InRowOrder (t :: rest) :=
        (List.pairwise_append.mp (htokens ▸ hrows)).2.1
      -- the tokens of the first row, and those of later rows
      obtain ⟨row, hrow⟩ : ∃ row, row = t :: rest.filter fun u => u.startRow == t.startRow :=
        ⟨_, rfl⟩
      obtain ⟨later, hlater⟩ : ∃ later, later = rest.filter fun u => !(u.startRow == t.startRow) :=
        ⟨_, rfl⟩
      have hsplit : t :: rest = row ++ later := by
        rw [hrow, hlater, List.cons_append, ← hsorted.eq_append]
      have hmem : ∀ u ∈ row, u.startRow = t.startRow := by
        rw [hrow]
        simp
      have hnone : Token.onRow t.startRow past = [] :=
        Token.onRow_eq_nil_iff.mpr fun u hu => hnew u hu t List.mem_cons_self
      have hfirst := rowBrackets_eq_lateFindings hrows hbalanced (hsplit ▸ htokens) hmem
      rw [hnone] at hfirst
      have hnext : tokens = (past ++ row) ++ later := by
        rw [htokens, hsplit, List.append_assoc]
      have hnewer : ∀ u ∈ past ++ row, ∀ v ∈ later, u.startRow ≠ v.startRow := by
        intro u hu v hv
        rcases List.mem_append.mp hu with hold | hnow
        · exact hnew u hold v (hsplit ▸ List.mem_append_right row hv)
        · have hne : v.startRow ≠ t.startRow := by
            rw [hlater] at hv
            simpa using (List.mem_filter.mp hv).2
          exact fun heq => hne (heq ▸ hmem u hnow)
      have hshorter : later.length < n := by
        rw [← hlength, hsplit, hrow, List.length_append, List.length_cons]
        omega
      have hrest := ih later.length hshorter hnext hnewer rfl
      rw [grouped_cons, List.flatMap_cons, ← hrow, ← hlater, hfirst, hrest, hsplit,
        lateFindings_append, List.length_append]

end Runs

/-- **Closing brackets against a stack.** If rows come in order and the brackets of every type are
balanced, the check reports exactly the tokens that close late, in their order: those that close a
bracket of another row behind something else than line ends and closing brackets. -/
theorem brackets_reports_closesLate (tokens : List Token) (hrows : Token.InRowOrder tokens)
    (hbalanced : ∀ b : Bracket, b.Balanced tokens) :
    brackets tokens = .ofFindings
      ((tokens.zipIdx.filter fun (t, place) => t.ClosesLate (tokens.take place)).map
        fun (t, _) => Violation.wrongBracketPosition.atToken t) :=
  congrArg Report.ofFindings
    (flatMap_rowBrackets_eq_lateFindings hrows hbalanced (List.nil_append _).symm (by simp))

/-- A call over three rows: a list that is opened and closed on the second one, and two brackets
that are closed behind a number of the third one, the inner of them opened on the second row and
the outer on the first. -/
def lateCall : List Token := [
  ⟨.name, "print", 1, 0, 1, 5, ""⟩, ⟨.op, "(", 1, 5, 1, 6, ""⟩, ⟨.blankEnd, "", 1, 6, 1, 7, ""⟩,
  ⟨.op, "[", 2, 4, 2, 5, ""⟩, ⟨.number, "1", 2, 5, 2, 6, ""⟩, ⟨.op, "]", 2, 6, 2, 7, ""⟩,
  ⟨.op, ",", 2, 7, 2, 8, ""⟩, ⟨.op, "(", 2, 9, 2, 10, ""⟩, ⟨.number, "2", 2, 10, 2, 11, ""⟩,
  ⟨.op, ",", 2, 11, 2, 12, ""⟩, ⟨.blankEnd, "", 2, 12, 2, 13, ""⟩,
  ⟨.number, "3", 3, 4, 3, 5, ""⟩, ⟨.op, ")", 3, 5, 3, 6, ""⟩, ⟨.op, ")", 3, 6, 3, 7, ""⟩,
  ⟨.lineEnd, "", 3, 7, 3, 8, ""⟩]

theorem brackets_reports_closesLate_lateCall : Token.InRowOrder lateCall ∧
    (∀ b : Bracket, b.Balanced lateCall) ∧
    brackets lateCall = .ofFindings
      ((lateCall.zipIdx.filter fun (t, place) => t.ClosesLate (lateCall.take place)).map
        fun (t, _) => Violation.wrongBracketPosition.atToken t) := by
  have hrows : Token.InRowOrder lateCall := by decide
  have hbalanced : ∀ b : Bracket, b.Balanced lateCall := by decide
  exact ⟨hrows, hbalanced, brackets_reports_closesLate lateCall hrows hbalanced⟩

example : (lateCall.zipIdx.filter fun (t, place) => t.ClosesLate (lateCall.take place)).map
    (fun (t, _) => (t.startRow, t.startColumn)) = [(3, 5), (3, 6)] := by decide

end Stricture
