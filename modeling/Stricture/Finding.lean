import Stricture.Evaluation
import Stricture.Rendering.Line
import Stricture.Token.Basic
import Stricture.Violation

/-!
# Findings and reports

A finding is a violation at a place. A report is what one check has to say: its findings in order,
and the fault that stopped it, if it did not come to its end.
-/

namespace Stricture

/-- A violation with its place and its detail. -/
structure Finding where
  violation : Violation
  place : Position
  detail : Option String

/-- The place of everything that concerns a file as a whole. -/
def fileStart : Position :=
  ⟨0, 0⟩

namespace Violation

/-- The place at which a violation is reported. One that concerns the file as a whole is reported at
its start whatever caused it, and so is a violation at a node without a position. A violation that
is reported at a token has no place without one. -/
def place? (v : Violation) (position : Option Position) : Option Position :=
  match v.describe.anchor, position with
  | .nowhere, _ => some fileStart
  | .token, position => position
  | _, position => some (position.getD fileStart)

/-- The violation at a node. -/
def atNode (v : Violation) (n : Node) (detail : Option String := none) : Finding :=
  ⟨v, (v.place? n.position).getD fileStart, detail⟩

/-- The violation at a token. -/
def atToken (v : Violation) (t : Token) (detail : Option String := none) : Finding :=
  ⟨v, (v.place? (some ⟨t.startRow, t.startColumn⟩)).getD fileStart, detail⟩

/-- The violation for the file as a whole. -/
def atFile (v : Violation) (detail : Option String := none) : Finding :=
  ⟨v, fileStart, detail⟩

end Violation

/-- The message of a finding. -/
def Finding.message (f : Finding) : String :=
  f.violation.message f.detail

/-! ### Faults and reports -/

/-- Why a check could not come to its end. -/
inductive Fault where
  /-- An expression that has to be constant has no value. -/
  | evaluation (error : EvaluationError)
  /-- A value that was to be counted cannot be a key. -/
  | notKey
  /-- An expression that has to be rendered has no text. -/
  | rendering (error : RenderingError)
  /-- An assignment without a target. -/
  | noTarget
  /-- A joined condition without conditions. -/
  | noCondition
  /-- A comparison has no operator, or no operand, where one has to be. -/
  | noOperator
  /-- A node without a position where one has to be known. -/
  | noPosition
  /-- A node without a line, with which other lines have to be compared. -/
  | noLine
  /-- No node of a loop has a line. -/
  | noLastLine
  /-- A text ended where another character had to come. -/
  | endOfText
  /-- The tokens ended where another one had to come. -/
  | endOfTokens
  /-- The check has no rule. -/
  | noRule
  deriving DecidableEq

/-- The findings of a check in order, and the fault that stopped it. -/
structure Report where
  findings : List Finding := []
  fault : Option Fault := none

namespace Report

/-- Nothing to say. -/
def empty : Report :=
  ⟨[], none⟩

/-- A check that came to its end. -/
def ofFindings (findings : List Finding) : Report :=
  ⟨findings, none⟩

/-- A check that stopped. -/
def stopped (fault : Fault) : Report :=
  ⟨[], some fault⟩

/-- A check that stopped if there was a fault. -/
def ofFault (fault : Option Fault) : Report :=
  ⟨[], fault⟩

/-- One report after another: the second is not reached if a fault stopped the first. -/
def andThen (r s : Report) : Report :=
  match r.fault with
  | some _ => r
  | none => ⟨r.findings ++ s.findings, s.fault⟩

/-- All reports one after another, up to the first fault. -/
def sequence (reports : List Report) : Report :=
  reports.foldr andThen empty

theorem mem_andThen {r s : Report} {f : Finding} (h : f ∈ (r.andThen s).findings) :
    f ∈ r.findings ∨ f ∈ s.findings := by
  unfold andThen at h
  split at h
  case h_1 => exact Or.inl h
  case h_2 => exact List.mem_append.mp h

theorem fault_andThen (r s : Report) : (r.andThen s).fault = r.fault.or s.fault := by
  unfold andThen
  split
  case h_1 h => rw [h]; rfl
  case h_2 h => rw [h]; rfl

theorem findings_andThen {r : Report} (h : r.fault = none) (s : Report) :
    (r.andThen s).findings = r.findings ++ s.findings := by
  rw [andThen, h]

theorem andThen_of_fault {r : Report} {fault : Fault} (h : r.fault = some fault) (s : Report) :
    r.andThen s = r := by
  rw [andThen, h]

theorem andThen_assoc (r s t : Report) : (r.andThen s).andThen t = r.andThen (s.andThen t) := by
  cases hr : r.fault with
  | some fault => rw [andThen_of_fault hr, andThen_of_fault hr, andThen_of_fault hr]
  | none =>
    cases hs : s.fault with
    | some fault =>
      have hrs : (r.andThen s).fault = some fault := by rw [fault_andThen, hr, hs]; rfl
      rw [andThen_of_fault hrs, andThen_of_fault hs]
    | none => simp [andThen, hr, hs]

theorem mem_sequence {reports : List Report} {f : Finding} (h : f ∈ (sequence reports).findings) :
    ∃ r ∈ reports, f ∈ r.findings := by
  induction reports with
  | nil => exact absurd h List.not_mem_nil
  | cons r rest ih =>
    rcases mem_andThen h with hr | hrest
    · exact ⟨r, List.mem_cons_self, hr⟩
    · obtain ⟨s, hs, hf⟩ := ih hrest
      exact ⟨s, List.mem_cons_of_mem r hs, hf⟩

/-- Without faults, all findings are reported. -/
theorem sequence_eq_ofFindings {reports : List Report} (h : ∀ r ∈ reports, r.fault = none) :
    sequence reports = .ofFindings (reports.flatMap findings) := by
  induction reports with
  | nil => rfl
  | cons r rest ih =>
    obtain ⟨hr, hrest⟩ := List.forall_mem_cons.mp h
    have hnext : sequence (r :: rest) = r.andThen (sequence rest) := rfl
    rw [hnext, ih hrest, andThen, hr]
    rfl

end Report

/-- A finding if the condition holds. -/
def reportIf (condition : Bool) (finding : Finding) : List Finding :=
  if condition then [finding] else []

theorem mem_reportIf {condition : Bool} {f g : Finding} (h : f ∈ reportIf condition g) :
    condition = true ∧ f = g := by
  unfold reportIf at h
  split at h
  case isTrue hc => exact ⟨hc, List.mem_singleton.mp h⟩
  case isFalse => exact absurd h List.not_mem_nil

theorem filter_reportIf (condition : Bool) (u v : Violation) (n : Node) (detail : Option String) :
    (reportIf condition (u.atNode n detail)).filter (fun f => f.violation = v) =
      if u = v then reportIf condition (u.atNode n detail) else [] := by
  cases condition <;> simp [reportIf, List.filter_cons, Violation.atNode]

/-- A finding for each that passes a test. -/
theorem flatMap_reportIf {α : Type} (l : List α) (test : α → Bool) (finding : α → Finding) :
    (l.flatMap fun a => reportIf (test a) (finding a)) = (l.filter test).map finding := by
  induction l with
  | nil => rfl
  | cons a rest ih =>
    rw [List.flatMap_cons, ih]
    cases htest : test a <;> simp [reportIf, htest]

end Stricture
