import Mathlib.Data.List.TakeWhile
import Stricture.Rules.Layout

/-!
# Even layouts

The elements of a list are laid out evenly if each of them begins a new line or none does, where the
first one does not count. A call or a definition whose first element stands on its own line keeps
the others there too (`Node.IsEven`).

The rule goes over the elements with a mode, which is forgotten after a fault. Only the breaks
between lines count for it (`layoutFaults_eq_breakFaults`). A run that finds no fault never forgets
its mode, and so it has compared every break with the first one (`breakFaults_eq_zero_iff`).
-/

namespace Stricture

open Rules

/-! ### Breaks between lines -/

/-- Whether each element but the first stands on another line than the one before it. -/
def lineBreaks (lines : List Int) : List Bool :=
  lines.zipWith (fun l m => l != m) lines.tail

theorem lineBreaks_cons_cons (l m : Int) (rest : List Int) :
    lineBreaks (l :: m :: rest) = (l != m) :: lineBreaks (m :: rest) :=
  rfl

/-- How often the rule is broken by elements that begin a new line or not. -/
def breakFaults : Option Bool → List Bool → Nat
  | _, [] => 0
  | mode, b :: rest =>
    (if (layoutStep mode b).1 then 1 else 0) + breakFaults (layoutStep mode b).2 rest

/-- The rule looks at the breaks only. -/
theorem layoutFaults_eq_breakFaults (previous : Int) (mode : Option Bool) (lines : List Int) :
    layoutFaults previous mode lines = breakFaults mode (lineBreaks (previous :: lines)) := by
  induction lines generalizing previous mode with
  | nil => rfl
  | cons line rest ih =>
    rw [layoutFaults, lineBreaks_cons_cons, breakFaults, ← ih]

section Faults

variable {mode : Option Bool} {b : Bool} {breaks : List Bool}

/-- One more element goes without a fault if the mode is not the opposite, and then it is the mode
for the rest. -/
theorem breakFaults_cons_eq_zero_iff :
    breakFaults mode (b :: breaks) = 0 ↔ mode ≠ some (!b) ∧ breakFaults (some b) breaks = 0 := by
  rw [breakFaults, layoutStep]
  by_cases hmode : mode = some (!b)
  · rw [if_pos hmode]
    constructor
    · intro hsum
      have hone : 1 + breakFaults none breaks = 0 := hsum
      omega
    · intro hboth
      exact absurd hmode hboth.1
  · rw [if_neg hmode]
    have hsum : (if (false, some b).1 = true then 1 else 0) + breakFaults (false, some b).2 breaks =
        breakFaults (some b) breaks := Nat.zero_add _
    rw [hsum]
    exact (and_iff_right hmode).symm

/-- **A run finds no fault** exactly if all breaks are equal, and equal to the mode that it began
with. -/
theorem breakFaults_eq_zero_iff :
    breakFaults mode breaks = 0 ↔
      (∀ b ∈ breaks, ∀ c ∈ breaks, b = c) ∧ ∀ m, mode = some m → ∀ b ∈ breaks, b = m := by
  induction breaks generalizing mode with
  | nil => simp [breakFaults]
  | cons b rest ih =>
    rw [breakFaults_cons_eq_zero_iff, ih]
    constructor
    · rintro ⟨hmode, -, hrest⟩
      have hall : ∀ c ∈ b :: rest, c = b :=
        List.forall_mem_cons.mpr ⟨rfl, hrest b rfl⟩
      refine ⟨fun c hc d hd => (hall c hc).trans (hall d hd).symm, ?_⟩
      rintro m rfl c hc
      have hne : m ≠ !b := fun h => hmode (congrArg some h)
      rw [hall c hc]
      exact (Bool.not_not b).symm.trans (Bool.eq_not_of_ne hne).symm
    · rintro ⟨halike, hmode⟩
      have hall : ∀ c ∈ rest, c = b := fun c hc =>
        halike c (List.mem_cons_of_mem b hc) b List.mem_cons_self
      refine ⟨fun h => ?_, fun c hc d hd => (hall c hc).trans (hall d hd).symm, ?_⟩
      · exact Bool.eq_not.mp (hmode _ h b List.mem_cons_self) rfl
      · rintro m hm c hc
        rw [← Option.some.inj hm]
        exact hall c hc

end Faults

/-! ### Equal lines -/

/-- Lines are equal in the same places of both lists. -/
def AgreeOnEquality (lines lines' : List Int) : Prop :=
  ∀ i j : Nat, lines[i]? = lines[j]? ↔ lines'[i]? = lines'[j]?

namespace AgreeOnEquality

variable {l l' : Int} {lines lines' : List Int}

theorem symm (h : AgreeOnEquality lines lines') : AgreeOnEquality lines' lines :=
  fun i j => (h i j).symm

theorem of_cons (h : AgreeOnEquality (l :: lines) (l' :: lines')) :
    AgreeOnEquality lines lines' :=
  fun i j => h (i + 1) (j + 1)

/-- Behind the end of one list there is nothing, so nothing is there in the other. -/
theorem eq_nil (h : AgreeOnEquality [] lines) : lines = [] := by
  have hend : lines[0]? = lines[lines.length]? := (h 0 lines.length).mp rfl
  rw [List.getElem?_eq_none (Nat.le_refl lines.length)] at hend
  exact List.length_eq_zero_iff.mp (Nat.le_zero.mp (List.getElem?_eq_none_iff.mp hend))

theorem head_eq_iff (h : AgreeOnEquality (l :: lines) (l' :: lines')) :
    lines.head? = some l ↔ lines'.head? = some l' := by
  rw [List.head?_eq_getElem?, List.head?_eq_getElem?]
  exact h 1 0

theorem lineBreaks_eq (h : AgreeOnEquality lines lines') :
    lineBreaks lines = lineBreaks lines' := by
  induction lines generalizing lines' with
  | nil => rw [h.eq_nil]
  | cons l rest ih =>
    cases lines' with
    | nil => exact absurd h.symm.eq_nil (List.cons_ne_nil l rest)
    | cons l' rest' =>
      have hrest := ih h.of_cons
      cases rest with
      | nil =>
        rw [h.of_cons.eq_nil]
        rfl
      | cons m tail =>
        cases rest' with
        | nil => exact absurd h.of_cons.symm.eq_nil (List.cons_ne_nil m tail)
        | cons m' tail' =>
          have hhead : m = l ↔ m' = l' := by simpa using h.head_eq_iff
          have hbreak : (l != m) = (l' != m') := by
            rw [Bool.eq_iff_iff, bne_iff_ne, bne_iff_ne, ne_comm, ne_comm (a := l')]
            exact not_congr hhead
          rw [lineBreaks_cons_cons, lineBreaks_cons_cons, hbreak, hrest]

end AgreeOnEquality

/-! ### Nodes and their elements -/

/-- The kinds of displays. -/
def displayKinds : List Kind :=
  [.list, .tuple, .setOf, .dict]

namespace Node

/-- The node stands on `line`, and the elements that it lays out stand on `lines`. -/
structure StandsOn (n : Node) (line : Int) (lines : List Int) : Prop where
  own : n.line? = some line
  elements : (layoutElements n).2.map Node.line? = lines.map some

/-- Either every element but the first begins a new line or none does. If the node is no display and
the first element stands on its line, none does. -/
structure IsEven (n : Node) (line : Int) (lines : List Int) : Prop where
  alike : ∀ b ∈ lineBreaks lines, ∀ c ∈ lineBreaks lines, b = c
  kept : n.kind ∉ displayKinds → lines.head? = some line → ∀ b ∈ lineBreaks lines, b = false

variable {n : Node} {line : Int} {lines : List Int}

theorem layoutElements_fst (n : Node) :
    (layoutElements n).1 = decide (n.kind ∈ displayKinds) := by
  obtain ⟨id, position, shape⟩ := n
  cases shape with
  | functionDef mode | forLoop mode | withBlock mode => cases mode <;> rfl
  | _ => rfl

theorem StandsOn.knownLines_eq (h : n.StandsOn line lines) :
    knownLines (layoutElements n).2 = lines := by
  have hknown : (lines.map some).takeWhile Option.isSome = lines.map some :=
    List.takeWhile_eq_self_iff.mpr fun line? hline => by
      obtain ⟨l, -, rfl⟩ := List.mem_map.mp hline
      rfl
  rw [knownLines, h.elements, hknown, List.filterMap_map]
  exact List.filterMap_some

theorem StandsOn.length_eq (h : n.StandsOn line lines) :
    (layoutElements n).2.length = lines.length := by
  simpa using congrArg List.length h.elements

/-- If all lines are known, nothing stops the rule. -/
theorem StandsOn.elementLayout_eq {s : Site} (h : s.node.StandsOn line lines) :
    elementLayout s = .ofFindings (.replicate
      (countLayoutFaults (decide (s.node.kind ∈ displayKinds)) line lines)
      (Violation.parametersIndentation.atNode s.node)) := by
  have hlength := h.length_eq
  have hlines := h.knownLines_eq
  rw [← layoutElements_fst, elementLayout]
  dsimp only
  rw [h.own]
  cases helements : (layoutElements s.node).2 with
  | nil =>
    rw [helements] at hlength
    rw [List.length_eq_zero_iff.mp hlength.symm]
    rfl
  | cons first rest =>
    rw [helements] at hlength hlines
    dsimp only
    rw [hlines, hlength, if_neg (Nat.lt_irrefl _)]
    rfl

theorem countLayoutFaults_eq_zero_iff :
    countLayoutFaults (decide (n.kind ∈ displayKinds)) line lines = 0 ↔ n.IsEven line lines := by
  cases lines with
  | nil =>
    refine ⟨fun _ => ⟨fun b hb => absurd hb List.not_mem_nil, fun _ h => ?_⟩, fun _ => rfl⟩
    cases h
  | cons first rest =>
    rw [countLayoutFaults, layoutFaults_eq_breakFaults, breakFaults_eq_zero_iff]
    have hmode (m : Bool) :
        (if first = line ∧ (!decide (n.kind ∈ displayKinds)) = true then some false else none) =
          some m ↔ n.kind ∉ displayKinds ∧ first = line ∧ m = false := by
      rw [Option.ite_none_right_eq_some, Option.some.injEq, Bool.not_eq_true',
        decide_eq_false_iff_not, and_comm (a := first = line), and_assoc, eq_comm (a := false)]
    constructor
    · rintro ⟨halike, hkept⟩
      refine ⟨halike, fun hkind hhead => hkept false ((hmode false).mpr ⟨hkind, ?_, rfl⟩)⟩
      exact Option.some.inj hhead
    · rintro ⟨halike, hkept⟩
      refine ⟨halike, fun m hm => ?_⟩
      obtain ⟨hkind, rfl, rfl⟩ := (hmode m).mp hm
      exact hkept hkind rfl

end Node

theorem AgreeOnEquality.countLayoutFaults_eq {line line' : Int} {lines lines' : List Int}
    (h : AgreeOnEquality (line :: lines) (line' :: lines')) (isDisplay : Bool) :
    countLayoutFaults isDisplay line lines = countLayoutFaults isDisplay line' lines' := by
  have hbreaks := h.of_cons.lineBreaks_eq
  cases lines with
  | nil => rw [h.of_cons.eq_nil, countLayoutFaults, countLayoutFaults]
  | cons first rest =>
    cases lines' with
    | nil => exact absurd h.of_cons.symm.eq_nil (List.cons_ne_nil first rest)
    | cons first' rest' =>
      have hfirst : first = line ↔ first' = line' := by simpa using h.head_eq_iff
      rw [countLayoutFaults, countLayoutFaults, layoutFaults_eq_breakFaults,
        layoutFaults_eq_breakFaults, hbreaks]
      simp only [hfirst]

/-! ### The rule -/

/-- **Uneven layouts are reported.** The rule reports nothing about a node whose elements are laid
out evenly, and something about every other one. How often it reports depends on nothing but which
of the lines are equal and whether the node is a display. -/
theorem elementLayout_reports_uneven (s : Site) (line : Int) (lines : List Int)
    (h : s.node.StandsOn line lines) :
    ∃ faults : Nat,
      elementLayout s =
        .ofFindings (.replicate faults (Violation.parametersIndentation.atNode s.node)) ∧
      (faults = 0 ↔ s.node.IsEven line lines) ∧
      ∀ (t : Site) (line' : Int) (lines' : List Int), t.node.StandsOn line' lines' →
        (t.node.kind ∈ displayKinds ↔ s.node.kind ∈ displayKinds) →
        AgreeOnEquality (line :: lines) (line' :: lines') →
        elementLayout t =
          .ofFindings (.replicate faults (Violation.parametersIndentation.atNode t.node)) := by
  refine ⟨_, h.elementLayout_eq, Node.countLayoutFaults_eq_zero_iff, ?_⟩
  intro t line' lines' ht hdisplay hagree
  rw [ht.elementLayout_eq, hagree.countLayoutFaults_eq, decide_eq_decide.mpr hdisplay]

/-- A call whose second argument does not stay on its line. -/
def brokenCall : Node :=
  .mk 0 (some ⟨1, 0⟩) (.call (.mk 1 (some ⟨1, 0⟩) (.name "print" (some .load)))
    [.mk 2 (some ⟨1, 6⟩) (.constant (.int 1) none), .mk 3 (some ⟨2, 6⟩) (.constant (.int 2) none),
      .mk 4 (some ⟨2, 9⟩) (.constant (.int 3) none)] [])

/-- The same call further down, with an empty line before the second argument. -/
def spacedCall : Node :=
  .mk 0 (some ⟨5, 0⟩) (.call (.mk 1 (some ⟨5, 0⟩) (.name "print" (some .load)))
    [.mk 2 (some ⟨5, 6⟩) (.constant (.int 1) none), .mk 3 (some ⟨7, 6⟩) (.constant (.int 2) none),
      .mk 4 (some ⟨7, 9⟩) (.constant (.int 3) none)] [])

theorem elementLayout_reports_uneven_brokenCall :
    brokenCall.StandsOn 1 [1, 2, 2] ∧ ¬ brokenCall.IsEven 1 [1, 2, 2] ∧
    elementLayout brokenCall.top =
      .ofFindings [Violation.parametersIndentation.atNode brokenCall] ∧
    spacedCall.StandsOn 5 [5, 7, 7] ∧ AgreeOnEquality [1, 1, 2, 2] [5, 5, 7, 7] ∧
    elementLayout spacedCall.top =
      .ofFindings [Violation.parametersIndentation.atNode spacedCall] := by
  have hbroken : brokenCall.StandsOn 1 [1, 2, 2] := ⟨rfl, rfl⟩
  have hspaced : spacedCall.StandsOn 5 [5, 7, 7] := ⟨rfl, rfl⟩
  have hagree : AgreeOnEquality [1, 1, 2, 2] [5, 5, 7, 7] := by
    have hdouble : [5, 5, 7, 7] = [1, 1, 2, 2].map fun l : Int => 2 * l + 3 := rfl
    intro i j
    rw [hdouble, List.getElem?_map, List.getElem?_map]
    exact (Option.map_injective fun l m (h : 2 * l + 3 = 2 * m + 3) => by omega).eq_iff.symm
  obtain ⟨faults, hreport, hzero, hother⟩ :=
    elementLayout_reports_uneven brokenCall.top 1 [1, 2, 2] hbroken
  have hone : elementLayout brokenCall.top =
      .ofFindings [Violation.parametersIndentation.atNode brokenCall] := rfl
  obtain rfl : faults = 1 := by
    have hlength := congrArg (fun r : Report => r.findings.length) (hreport.symm.trans hone)
    simpa [Report.ofFindings] using hlength
  refine ⟨hbroken, fun heven => Nat.one_ne_zero (hzero.mpr heven), hone, hspaced, hagree, ?_⟩
  exact hother spacedCall.top 5 [5, 7, 7] hspaced Iff.rfl hagree

end Stricture
