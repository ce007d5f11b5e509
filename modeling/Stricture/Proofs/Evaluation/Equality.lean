import Stricture.Value

/-!
# Equal values

Equality of values is symmetric (`Value.same_comm`). Numbers are equal or not whatever their kinds,
and exactly if their opposites are (`Value.same_negated`). Containers that may change are never
compared with each other; when they are equal is said apart from that (`Value.equal`).
-/

namespace Stricture

namespace Value

theorem Real.same_comm (a b : Real) : a.same b = b.same a := by
  cases a with
  | whole m =>
    cases b with
    | whole n => exact BEq.comm
    | double y => rfl
  | double x =>
    cases b with
    | whole n => rfl
    | double y =>
      simp only [Real.same, Double.same]
      rw [Bool.and_comm y.isZero]
      congr 1
      by_cases h : x = y
      · rw [h]
      · have hxy : (x == y) = false := beq_eq_false_iff_ne.mpr h
        have hyx : (y == x) = false := beq_eq_false_iff_ne.mpr (Ne.symm h)
        rw [hxy, hyx, Bool.false_and, Bool.false_and]

theorem sameNumber_comm (v w : Value) : v.sameNumber w = w.sameNumber v := by
  unfold sameNumber
  cases v.number? with
  | none => cases w.number? <;> rfl
  | some p =>
    cases w.number? with
    | none => rfl
    | some q =>
      show (p.1.same q.1 && p.2.same q.2) = (q.1.same p.1 && q.2.same p.2)
      rw [Real.same_comm p.1, Real.same_comm p.2]

/-- Numbers are compared as numbers. -/
theorem same_eq_sameNumber {v : Value} (hv : v.number?.isSome = true) (w : Value) :
    v.same w = v.sameNumber w := by
  cases v with
  | bool | int | float | complex => rfl
  | _ => cases hv

theorem same_comm_of_number {v : Value} (hv : v.number?.isSome = true) (w : Value) :
    v.same w = w.same v := by
  rw [same_eq_sameNumber hv, sameNumber_comm]
  cases v with
  | bool | int | float | complex => cases w <;> rfl
  | _ => cases hv

mutual

/-- **Equality of values is symmetric.** -/
theorem same_comm (v w : Value) : v.same w = w.same v := by
  cases v with
  | bool | int | float | complex => exact same_comm_of_number rfl w
  | text s =>
    cases w with
    | text t => exact BEq.comm
    | _ => rfl
  | bytes s =>
    cases w with
    | bytes t => exact BEq.comm
    | _ => rfl
  | tuple vs =>
    cases w with
    | tuple ws => exact sameAll_comm vs ws
    | _ => rfl
  | none | ellipsis | list | setOf | dict => cases w <;> rfl

theorem sameAll_comm (vs ws : List Value) : sameAll vs ws = sameAll ws vs := by
  cases vs with
  | nil => cases ws <;> rfl
  | cons v vs =>
    cases ws with
    | nil => rfl
    | cons w ws => rw [sameAll, sameAll, same_comm v w, sameAll_comm vs ws]

end

/-- Only a text equals a text. -/
theorem eq_text_of_same {v : Value} {t : String} (h : v.same (.text t) = true) : v = .text t := by
  cases v with
  | text u => rw [eq_of_beq h]
  | _ => cases h

/-- Only nothing equals nothing. -/
theorem eq_none_of_same {v : Value} (h : v.same .none = true) : v = .none := by
  cases v with
  | none => rfl
  | _ => cases h

/-! ### Containers -/

mutual

/-- Equality of all values: lists and tuples member by member, sets by their members and
dictionaries by their entries, whatever their order. -/
def equal : Value → Value → Bool
  | tuple vs, tuple ws => equalAll vs ws
  | list vs, list ws => equalAll vs ws
  | setOf vs, setOf ws => vs.length == ws.length && vs.all fun v => ws.any v.same
  | dict entries, dict others =>
    entries.length == others.length && equalEntries entries others
  | v, w => sameAtom v w

/-- Equality member by member. -/
def equalAll : List Value → List Value → Bool
  | [], [] => true
  | v :: vs, w :: ws => equal v w && equalAll vs ws
  | _, _ => false

/-- Each of the entries is equal to one of the others. -/
def equalEntries : List (Value × Value) → List (Value × Value) → Bool
  | [], _ => true
  | (key, v) :: rest, others =>
    (others.any fun other => key.same other.1 && equal v other.2) && equalEntries rest others

end

mutual

/-- Values that are compared as equal are equal. -/
theorem equal_of_same {v w : Value} (h : v.same w = true) : v.equal w = true := by
  cases v with
  | tuple vs =>
    cases w with
    | tuple ws => exact equalAll_of_sameAll h
    | _ => cases h
  | list | setOf | dict => cases h
  | _ => cases w <;> exact h

theorem equalAll_of_sameAll {vs ws : List Value} (h : sameAll vs ws = true) :
    equalAll vs ws = true := by
  cases vs with
  | nil =>
    cases ws with
    | nil => rfl
    | cons => cases h
  | cons v vs =>
    cases ws with
    | nil => cases h
    | cons w ws =>
      rw [sameAll, Bool.and_eq_true] at h
      rw [equalAll, equal_of_same h.1, equalAll_of_sameAll h.2]
      rfl

end

end Value

/-! ### Opposite numbers -/

/-- The opposite of a part of a number. -/
def Value.Real.neg : Real → Real
  | whole n => whole (-n)
  | double x => double x.neg

/-- The opposite of a number. A truth value has none. -/
def Value.negated : Value → Value
  | int n => int (-n)
  | float x => float x.neg
  | complex x y => complex x.neg y.neg
  | v => v

theorem Double.neg_neg (x : Double) : x.neg.neg = x := by
  cases x <;> simp [Double.neg]

theorem Double.isZero_neg (x : Double) : x.neg.isZero = x.isZero := by
  cases x <;> rfl

theorem Double.same_neg (x y : Double) : x.neg.same y.neg = x.same y := by
  have heq : (x.neg == y.neg) = (x == y) := by
    rw [Bool.eq_iff_iff, beq_iff_eq, beq_iff_eq]
    constructor
    · intro h
      rw [← x.neg_neg, h, y.neg_neg]
    · intro h
      rw [h]
  have hundefined : (x.neg != undefined) = (x != undefined) := by
    cases x <;> rfl
  rw [Double.same, Double.same, x.isZero_neg, y.isZero_neg, heq, hundefined]

theorem Double.sameInt_neg (x : Double) (n : Int) : x.neg.sameInt (-n) = x.sameInt n := by
  cases x with
  | finite negative m e =>
    have hsize (k : Int) :
        (-n == (if !negative then -1 else 1) * k) = (n == (if negative then -1 else 1) * k) := by
      rw [Bool.eq_iff_iff, beq_iff_eq, beq_iff_eq]
      cases negative with
      | true => simp; omega
      | false => simp
    have hzero : (-n == 0) = (n == 0) := by
      rw [Bool.eq_iff_iff, beq_iff_eq, beq_iff_eq]
      omega
    simp only [Double.neg, Double.sameInt]
    rw [hsize, hzero]
  | infinite negative => rfl
  | undefined => rfl

namespace Value

theorem Real.same_neg (a b : Real) : a.neg.same b.neg = a.same b := by
  cases a with
  | whole m =>
    cases b with
    | whole n =>
      show (-m == -n) = (m == n)
      rw [Bool.eq_iff_iff, beq_iff_eq, beq_iff_eq, Int.neg_inj]
    | double y => exact y.sameInt_neg m
  | double x =>
    cases b with
    | whole n => exact x.sameInt_neg n
    | double y => exact x.same_neg y

variable {literal other : Literal}

theorem number?_ofLiteral (h : literal.isNumber = true) :
    (ofLiteral literal).number?.isSome = true := by
  cases literal with
  | int | float | imaginary => rfl
  | _ => cases h

theorem number?_negated (h : literal.isNumber = true) :
    (ofLiteral literal).negated.number? =
      (ofLiteral literal).number?.map fun p => (p.1.neg, p.2.neg) := by
  cases literal with
  | int | float | imaginary => rfl
  | _ => cases h

/-- Numbers are equal exactly if their opposites are. -/
theorem same_negated (h : literal.isNumber = true) (hother : other.isNumber = true) :
    (ofLiteral literal).negated.same (ofLiteral other).negated =
      (ofLiteral literal).same (ofLiteral other) := by
  have hv := number?_negated h
  have hw := number?_negated hother
  have hsome : (ofLiteral literal).negated.number?.isSome = true := by
    rw [hv, Option.isSome_map]
    exact number?_ofLiteral h
  rw [same_eq_sameNumber hsome, same_eq_sameNumber (number?_ofLiteral h), sameNumber, sameNumber,
    hv, hw]
  cases (ofLiteral literal).number? with
  | none => rfl
  | some p =>
    cases (ofLiteral other).number? with
    | none => rfl
    | some q =>
      show (p.1.neg.same q.1.neg && p.2.neg.same q.2.neg) = (p.1.same q.1 && p.2.same q.2)
      rw [Real.same_neg, Real.same_neg]

end Value

end Stricture
