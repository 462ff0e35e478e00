import GridScript.Value.Order

namespace GridScript.Number

/-!
# Counting past a number

Comparison with exact values lets integers grow past every number
that is not infinite.
-/

/-- The exact value of an integer has its sign. -/
theorem signed_natAbs (i : Int) :
    signed (decide (i < 0)) i.natAbs = i := by
  by_cases negative : i < 0
  · rw [signed, if_pos (decide_eq_true negative)]
    omega
  · rw [signed, if_neg (by simp [negative])]
    omega

/-- Integers are compared as they are. -/
theorem compare_int (i j : Int) :
    (Number.int i).exact.compare? (Number.int j).exact = some (compare i j) := by
  show some (compareScaled (signed (decide (i < 0)) i.natAbs) 0
    (signed (decide (j < 0)) j.natAbs) 0) = _
  rw [signed_natAbs, signed_natAbs, compareScaled]
  simp

theorem less_int (i j : Int) :
    (Number.int i).less (.int j) = decide (i < j) := by
  rw [less, compare_int]
  by_cases smaller : i < j
  · simp [smaller, Int.compare_eq_lt.mpr smaller]
  · have notLess : compare i j ≠ .lt :=
      fun less => smaller (Int.compare_eq_lt.mp less)
    simp [smaller, notLess]

theorem atMost_int
    {i j : Int} :
    (Number.int i).atMost (.int j) = true ↔ i ≤ j := by
  rw [atMost, compare_int]
  exact Int.isLE_compare

/-- The exact value of an integer. -/
theorem exact_ofInt (i : Int) :
    (Number.int i).exact = .finite (decide (i < 0)) i.natAbs 0 :=
  rfl

theorem exact_int (i : Nat) :
    (Number.int i).exact = .finite false i 0 := by
  have nonnegative : ¬ (i : Int) < 0 := by omega
  simp [exact, Exact.ofInt, nonnegative]

/-- A number that is at most an integer is at most every larger one. -/
theorem atMost_of_le
    {n : Number}
    {i j : Int}
    (below : n.atMost (.int i) = true)
    (le : i ≤ j) :
    n.atMost (.int j) = true := by
  cases value : n.exact with
  | undefined =>
      simp [atMost, value, Exact.compare?] at below
  | infinite negative =>
      simpa only [atMost, value, exact_ofInt, Exact.compare?] using below
  | finite negative mantissa exponent =>
      simp only [atMost, value, exact_ofInt, Exact.compare?, Option.any_some,
        compareScaled, Int.isLE_compare, signed_natAbs] at below ⊢
      exact Int.le_trans below
        (Int.mul_le_mul_of_nonneg_right le (Int.pow_nonneg (by omega)))

/-- A number that counting passes: neither positive infinity nor
the undefined float. -/
def Passable (n : Number) : Prop :=
  n.exact ≠ .infinite false ∧ n.exact ≠ .undefined

/-- A number with an exact finite value. -/
def IsFinite (n : Number) : Prop :=
  ∃ negative mantissa exponent, n.exact = .finite negative mantissa exponent

theorem IsFinite.passable
    {n : Number}
    (finite : n.IsFinite) :
    n.Passable := by
  obtain ⟨negative, mantissa, exponent, value⟩ := finite
  simp [Passable, value]

theorem signed_le (negative : Bool) (magnitude : Nat) :
    signed negative magnitude ≤ magnitude := by
  unfold signed
  split <;> omega

/-- Every large integer lies above the scaled value of a finite number. -/
theorem scaled_lt
    (negative : Bool)
    {mantissa : Nat}
    {exponent : Int}
    {i : Nat}
    (large : mantissa * 2 ^ exponent.toNat < i) :
    signed negative mantissa * 2 ^ (exponent - min exponent 0).toNat <
      (i : Int) * 2 ^ (0 - min exponent 0).toNat := by
  have below : signed negative mantissa ≤ mantissa := signed_le negative mantissa
  rcases Int.le_total 0 exponent with nonnegative | negativeExponent
  · have base : min exponent 0 = 0 := Int.min_eq_right nonnegative
    have power : (0 : Int) ≤ 2 ^ exponent.toNat := Int.pow_nonneg (by omega)
    have scaled :
        signed negative mantissa * 2 ^ exponent.toNat ≤
          mantissa * 2 ^ exponent.toNat :=
      Int.mul_le_mul_of_nonneg_right below power
    have largeInt : (mantissa : Int) * 2 ^ exponent.toNat < i := by
      exact_mod_cast large
    simp only [base, Int.sub_zero, Int.toNat_zero, Int.pow_zero, Int.mul_one]
    exact Int.lt_of_le_of_lt scaled largeInt
  · have base : min exponent 0 = exponent := Int.min_eq_left negativeExponent
    have noPower : exponent.toNat = 0 := Int.toNat_eq_zero.mpr negativeExponent
    have large : mantissa < i := by
      simpa [noPower] using large
    have power : 0 < 2 ^ (0 - exponent).toNat := Nat.two_pow_pos _
    have grown : i ≤ i * 2 ^ (0 - exponent).toNat := Nat.le_mul_of_pos_right i power
    have grownInt : (i : Int) ≤ i * 2 ^ (0 - exponent).toNat := by
      exact_mod_cast grown
    simp only [base, Int.sub_self, Int.toNat_zero, Int.pow_zero, Int.mul_one]
    omega

theorem compareScaled_large
    (negative : Bool)
    {mantissa : Nat}
    {exponent : Int}
    {i : Nat}
    (large : mantissa * 2 ^ exponent.toNat < i) :
    compareScaled (signed negative mantissa) exponent i 0 = .lt :=
  Int.compare_eq_lt.mpr (scaled_lt negative large)

/-- Large integers exceed a finite number. -/
theorem IsFinite.exists_less
    {n : Number}
    (finite : n.IsFinite) :
    ∃ bound : Nat, ∀ i : Nat, bound ≤ i → n.less (.int i) = true := by
  obtain ⟨negative, mantissa, exponent, value⟩ := finite
  refine ⟨mantissa * 2 ^ exponent.toNat + 1, fun i large => ?_⟩
  have compared := compareScaled_large negative (Nat.lt_of_succ_le large)
  simp only [less, value, exact_int, Exact.compare?]
  rw [show signed false i = (i : Int) from rfl, compared]
  rfl

/-- Large integers reach a number other than positive infinity and
the undefined float. -/
theorem Passable.exists_atMost
    {n : Number}
    (passable : n.Passable) :
    ∃ bound : Nat, ∀ i : Nat, bound ≤ i → n.atMost (.int i) = true := by
  cases value : n.exact with
  | undefined =>
      exact (passable.2 value).elim
  | infinite negative =>
      cases negative with
      | false =>
          exact (passable.1 value).elim
      | true =>
          refine ⟨0, fun i _ => ?_⟩
          simp only [atMost, value, exact_int, Exact.compare?]
          rfl
  | finite negative mantissa exponent =>
      refine ⟨mantissa * 2 ^ exponent.toNat + 1, fun i large => ?_⟩
      have compared := compareScaled_large negative (Nat.lt_of_succ_le large)
      simp only [atMost, value, exact_int, Exact.compare?]
      rw [show signed false i = (i : Int) from rfl, compared]
      rfl

end GridScript.Number
