import GridScript.Proofs.Value.Containment
import GridScript.Proofs.Value.Order
import GridScript.Script.Failure
import Mathlib.Data.Rat.Floor

namespace GridScript

/-!
# Exact integer arithmetic

On integers of 64 bits the operators give the mathematical result or stop with
an error. Powers of other bases than -1, 0 and 1 overflow for every exponent
above 64 and are not computed there.
-/

open GridScript.Number

/-- The integers of 64 bits. -/
def InRange (i : Int) : Prop :=
  -(2 ^ 63) ≤ i ∧ i ≤ 2 ^ 63 - 1

instance (i : Int) : Decidable (InRange i) :=
  inferInstanceAs (Decidable (_ ∧ _))

/-- A result is an error of a computation at run time. -/
def Stops (result : Outcome OperationError Value) : Prop :=
  ∃ error, result = fail error ∧
    (Script.Cause.operation error).kindText = "ScriptRuntimeError"

/-- A result is an integer if that is in range, and else an error. -/
def IsExact (result : Outcome OperationError Value) (i : Int) : Prop :=
  (InRange i → result = .ok (.int i)) ∧ (¬InRange i → Stops result)

/-- The quotient of two integers, cut toward zero. -/
def cutQuotient (a b : Int) : Int :=
  if 0 ≤ (a : Rat) / b then ⌊(a : Rat) / b⌋ else ⌈(a : Rat) / b⌉

theorem stops_computation (fault : ComputationError) :
    Stops (fail (.computation fault)) :=
  ⟨_, rfl, rfl⟩

theorem isExact_checkedValue (i : Int) : IsExact (checkedValue i) i := by
  unfold checkedValue checkInt
  constructor
  · intro inRange
    rw [if_pos (fitsInt_iff.mpr inRange)]
    rfl
  · intro outside
    rw [if_neg (mt fitsInt_iff.mp outside)]
    exact stops_computation _

/-! ## Division -/

/-- Division on integers cuts the rational quotient toward zero. -/
theorem tdiv_eq_cutQuotient (a b : Int) : a.tdiv b = cutQuotient a b := by
  have positive (a : Int) (n : Nat) : a.tdiv n = cutQuotient a n := by
    unfold cutQuotient
    rcases Int.le_total 0 a with nonneg | nonpos
    · have quotient : 0 ≤ (a : Rat) / (n : Int) :=
        div_nonneg (Int.cast_nonneg nonneg) (Int.cast_nonneg (Int.natCast_nonneg n))
      rw [if_pos quotient, Int.tdiv_eq_ediv_of_nonneg nonneg]
      exact (Rat.floor_intCast_div_natCast a n).symm
    · have mirrored : a.tdiv n = -(-a / n) := by
        rw [← Int.tdiv_eq_ediv_of_nonneg (by omega), Int.neg_tdiv, Int.neg_neg]
      rw [mirrored, ← Rat.ceil_intCast_div_natCast a n]
      split
      next quotient =>
        have zero : (a : Rat) / (n : Int) = 0 :=
          le_antisymm
            (div_nonpos_of_nonpos_of_nonneg (Int.cast_nonpos.mpr nonpos)
              (Int.cast_nonneg (Int.natCast_nonneg n)))
            quotient
        have zero' : (a : Rat) / (n : Nat) = 0 := zero
        rw [zero, zero']
        rfl
      next =>
        rfl
  obtain ⟨n, rfl | rfl⟩ := Int.eq_nat_or_neg b
  · exact positive a n
  · have same : cutQuotient a (-n) = cutQuotient (-a) n := by
      unfold cutQuotient
      rw [Int.cast_neg, Int.cast_neg, div_neg, neg_div]
    rw [same, ← positive, Int.tdiv_neg, Int.neg_tdiv]

/-- Only one quotient of integers in range is out of range. -/
theorem inRange_tdiv_iff
    {a b : Int}
    (inRange : InRange a)
    (nonzero : b ≠ 0) :
    InRange (a.tdiv b) ↔ ¬(a = -(2 ^ 63) ∧ b = -1) := by
  constructor
  · rintro quotient ⟨rfl, rfl⟩
    exact absurd quotient (by decide)
  · intro other
    by_cases flips : b = -1
    · subst flips
      rw [Int.tdiv_neg, Int.tdiv_one]
      unfold InRange at *
      omega
    · have quotient : (a.tdiv b).natAbs ≤ a.natAbs / b.natAbs :=
        Nat.le_of_eq (Int.natAbs_tdiv a b)
      by_cases one : b = 1
      · rwa [one, Int.tdiv_one]
      · have half : a.natAbs / b.natAbs ≤ a.natAbs / 2 :=
          Nat.div_le_div_left (by omega) (by decide)
        unfold InRange at *
        omega

/-- The remainder of a division is smaller than what is divided by, and has the
sign of what is divided unless it is zero. -/
theorem tmod_spec
    (a : Int)
    {b : Int}
    (nonzero : b ≠ 0) :
    |a.tmod b| < |b| ∧ (a.tmod b = 0 ∨ (a.tmod b).sign = a.sign) := by
  constructor
  · rw [Int.abs_eq_natAbs, Int.abs_eq_natAbs, Int.natAbs_tmod]
    exact Int.ofNat_lt.mpr (Nat.mod_lt _ (Int.natAbs_pos.mpr nonzero))
  · rw [Int.sign_tmod]
    by_cases divides : b ∣ a
    · exact .inl (Int.tmod_eq_zero_of_dvd divides)
    · exact .inr (if_neg divides)

/-! ## Powers -/

theorem intPower_eq (base : Int) (exponent : Nat) :
    intPower base exponent = base ^ exponent := by
  unfold intPower
  split
  next small =>
    simp only [Bool.and_eq_true, decide_eq_true_eq] at small
    obtain ⟨unit, large⟩ := small
    have bases : base = 0 ∨ base = 1 ∨ base = -1 := by
      omega
    rcases bases with rfl | rfl | rfl
    · rw [zero_pow (by omega), zero_pow (by omega)]
    · rw [one_pow, one_pow]
    · rw [neg_one_pow_eq_pow_mod_two, Nat.add_mod_right, Nat.mod_mod]
      exact (neg_one_pow_eq_pow_mod_two _).symm
  next =>
    rfl

/-- Every power above the 64th is out of range, unless the base is -1, 0 or 1. -/
theorem not_inRange_pow
    {base : Int}
    {exponent : Nat}
    (large : base.natAbs > 1)
    (far : exponent > 64) :
    ¬InRange (base ^ exponent) := by
  intro inRange
  have most : 2 ^ 65 ≤ (base ^ exponent).natAbs := by
    rw [Int.natAbs_pow]
    calc 2 ^ 65 ≤ 2 ^ exponent := Nat.pow_le_pow_right (by decide) far
      _ ≤ base.natAbs ^ exponent := Nat.pow_le_pow_left large exponent
  unfold InRange at inRange
  omega

/-! ## Operators on integers -/

/-- What the operators make of two integers. -/
structure ExactArithmetic (a b : Int) : Prop where
  add : IsExact (applyBinary .add (.int a) (.int b)) (a + b)
  sub : IsExact (applyBinary .sub (.int a) (.int b)) (a - b)
  mul : IsExact (applyBinary .mul (.int a) (.int b)) (a * b)
  pow : 0 ≤ b → IsExact (applyBinary .pow (.int a) (.int b)) (a ^ b.toNat)
  divZero : b = 0 → Stops (applyBinary .div (.int a) (.int b))
  modZero : b = 0 → Stops (applyBinary .mod (.int a) (.int b))
  div : b ≠ 0 →
    IsExact (applyBinary .div (.int a) (.int b)) (cutQuotient a b) ∧
      (InRange (cutQuotient a b) ↔ ¬(a = -(2 ^ 63) ∧ b = -1))
  mod : b ≠ 0 → ∃ r,
    applyBinary .mod (.int a) (.int b) = .ok (.int r) ∧
      a = b * cutQuotient a b + r ∧
      |r| < |b| ∧ (r = 0 ∨ r.sign = a.sign)
  negate :
    IsExact (applyUnary .negate (.int a)) (-a) ∧ (InRange (-a) ↔ a ≠ -(2 ^ 63))

theorem isExact_power
    {a b : Int}
    (nonneg : 0 ≤ b) :
    IsExact (applyBinary .pow (.int a) (.int b)) (a ^ b.toNat) := by
  show IsExact
    (ite (b < 0) _ (ite ((decide (a.natAbs > 1) && decide (b > 64)) = true) _ _)) _
  rw [if_neg (Int.not_lt.mpr nonneg)]
  split
  next far =>
    simp only [Bool.and_eq_true, decide_eq_true_eq] at far
    have outside : ¬InRange (a ^ b.toNat) := not_inRange_pow far.1 (by omega)
    exact ⟨fun inRange => absurd inRange outside, fun _ => stops_computation _⟩
  next =>
    rw [intPower_eq]
    exact isExact_checkedValue _

theorem isZero_int {i : Int} : (Number.int i).isZero = true ↔ i = 0 := by
  rw [Number.isZero, Number.equal, Number.compare_int, beq_iff_eq, Option.some_inj,
    Std.LawfulEqCmp.compare_eq_iff_eq]

theorem divide_ints
    (a : Int)
    {b : Int}
    (nonzero : b ≠ 0) :
    applyBinary .div (.int a) (.int b) = checkedValue (a.tdiv b) :=
  if_neg (mt isZero_int.mp nonzero)

/--
Integer arithmetic is exact or an error.

Sums, differences, products and powers are the mathematical ones if they are
in range and errors else; so are quotients, cut toward zero, and negatives,
each of which leaves the range in one case only. A remainder is never an
error. Zero divides nothing.
-/
theorem exact_arithmetic
    {a : Int}
    (inRange : InRange a)
    (b : Int) :
    ExactArithmetic a b where
  add := isExact_checkedValue _
  sub := isExact_checkedValue _
  mul := isExact_checkedValue _
  pow := isExact_power
  divZero := by
    rintro rfl
    exact stops_computation _
  modZero := by
    rintro rfl
    exact stops_computation _
  div nonzero := by
    rw [divide_ints a nonzero, ← tdiv_eq_cutQuotient]
    exact ⟨isExact_checkedValue _, inRange_tdiv_iff inRange nonzero⟩
  mod nonzero := by
    obtain ⟨smaller, sign⟩ := tmod_spec a nonzero
    refine ⟨a.tmod b, if_neg nonzero, ?_, smaller, sign⟩
    rw [← tdiv_eq_cutQuotient]
    exact (Int.mul_tdiv_add_tmod a b).symm
  negate := by
    refine ⟨isExact_checkedValue _, ?_⟩
    unfold InRange at *
    omega

/-- The least integer has no negative, and its quotient by -1 is out of range. -/
theorem exact_arithmetic_least :
    InRange (-(2 ^ 63)) ∧
      Stops (applyBinary .div (.int (-(2 ^ 63))) (.int (-1))) ∧
        applyBinary .mod (.int (-(2 ^ 63))) (.int (-1)) = .ok (.int 0) ∧
          Stops (applyUnary .negate (.int (-(2 ^ 63)))) := by
  have least : InRange (-(2 ^ 63)) := by decide
  have exact := exact_arithmetic least (-1)
  obtain ⟨quotient, fits⟩ := exact.div (by decide)
  refine ⟨least, quotient.2 ?_, rfl, exact.negate.1.2 (by decide)⟩
  exact fun inRange => fits.mp inRange ⟨rfl, rfl⟩

end GridScript
