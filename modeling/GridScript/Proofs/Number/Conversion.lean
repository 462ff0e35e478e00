import GridScript.Value.Rounding

namespace GridScript.Number

/-!
# Floats near integers

An integer of fewer than 200 binary digits has a finite float nearest to it. The
digits and the exponent of a float are followed through its computation;
rounding can raise the exponent by no more than the number of digits, so bounds
far below the range of floats are enough.
-/

open Float.Model
open Float.Model.UnpackedFloat

/-- A finite float of fewer binary digits than a number, and with
no greater exponent. -/
def Below (digits : Nat) (bound : Int) : UnpackedFloat → Prop
  | .zero _ => True
  | .finite _ mantissa exponent _ => mantissa < 2 ^ digits ∧ exponent ≤ bound
  | _ => False

theorem Below.isFinite
    {digits : Nat}
    {bound : Int}
    {x : UnpackedFloat}
    (below : Below digits bound x) :
    x.isFinite = true := by
  cases x with
  | zero | finite =>
      rfl
  | _ =>
      exact below.elim

theorem Below.mono
    {digits : Nat}
    {least most : Int}
    {x : UnpackedFloat}
    (below : Below digits least x)
    (le : least ≤ most) :
    Below digits most x := by
  cases x with
  | finite =>
      exact ⟨below.1, Int.le_trans below.2 le⟩
  | _ =>
      exact below

/-- A case distinction is below a bound if both of its cases are. -/
theorem below_dite
    {digits : Nat}
    {bound : Int}
    {condition : Prop}
    [Decidable condition]
    {yes : condition → UnpackedFloat}
    {no : ¬condition → UnpackedFloat}
    (ifHolds : ∀ holds, Below digits bound (yes holds))
    (ifNot : ∀ fails, Below digits bound (no fails)) :
    Below digits bound (dite condition yes no) := by
  by_cases holds : condition
  · rw [dif_pos holds]
    exact ifHolds holds
  · rw [dif_neg holds]
    exact ifNot holds

/-! ## Rounding -/

theorem shiftRight_mantissa_le (m : ExtendedMantissa) (amount : Nat) :
    (m >>> amount).mantissa ≤ m.mantissa := by
  induction amount with
  | zero =>
      exact Nat.le_refl _
  | succ amount inductionHypothesis =>
      exact Nat.le_trans (Nat.div_le_self _ 2) inductionHypothesis

theorem roundedMantissa_le (m : ExtendedMantissa) :
    m.roundedMantissa ≤ m.mantissa + 1 := by
  rcases m with ⟨mantissa, round, sticky⟩
  cases round <;> cases sticky <;>
    simp only [ExtendedMantissa.roundedMantissa, ExtendedMantissa.accuracy,
      Accuracy.roundToNearestEven] <;> omega

/-- A shift adds no digits, and raises the exponent by no more
than there are digits. -/
theorem shiftToTargetExponent_le
    {mantissa digits : Nat}
    (small : mantissa < 2 ^ digits)
    (exponent : Int)
    (accuracy : Accuracy) :
    (shiftToTargetExponent Format.binary64 mantissa exponent accuracy).1.mantissa ≤
        mantissa ∧
      (shiftToTargetExponent Format.binary64 mantissa exponent accuracy).2 ≤
        max exponent (-1074) + digits := by
  have logarithm : mantissa.log2 ≤ digits := by
    by_cases zero : mantissa = 0
    · simp [zero]
    · exact Nat.le_of_lt ((Nat.log2_lt zero).mpr small)
  constructor
  · refine Nat.le_trans (shiftRight_mantissa_le _ _) ?_
    cases accuracy with
    | exact =>
        exact Nat.le_refl _
    | inexact order =>
        cases order <;> exact Nat.le_refl _
  · show exponent +
        ((max ((mantissa.log2 : Int) + 1 + exponent - 53)
          (-1074) - exponent).toNat : Int) ≤ _
    omega

/-- Rounding shifts twice, and adds one to the digits between the shifts. -/
theorem roundWithAccuracy_below
    {mantissa digits : Nat}
    (small : mantissa < 2 ^ digits)
    (sign : Sign)
    (exponent : Int)
    (accuracy : Accuracy) :
    Below (digits + 1) (max exponent (-1074) + 2 * digits + 1)
      (roundWithAccuracy Format.binary64 sign mantissa exponent accuracy) := by
  unfold roundWithAccuracy
  obtain ⟨firstMantissa, firstExponent⟩ :=
    shiftToTargetExponent_le small exponent accuracy
  generalize shiftToTargetExponent Format.binary64 mantissa exponent accuracy =
    first
    at firstMantissa firstExponent
  have rounded : first.1.roundedMantissa < 2 ^ (digits + 1) := by
    have := roundedMantissa_le first.1
    rw [Nat.pow_succ]
    omega
  obtain ⟨lastMantissa, lastExponent⟩ :=
    shiftToTargetExponent_le rounded first.2 .exact
  refine below_dite (fun _ => trivial) fun _ => ?_
  refine ⟨Nat.lt_of_le_of_lt lastMantissa rounded, Int.le_trans lastExponent ?_⟩
  omega

/-! ## Packing -/

theorem exponentBias_binary64 : Format.binary64.exponentBias = 1023 :=
  rfl

/-- A float whose exponent field is not full is finite, with the
digits of its fields. -/
theorem unpack_packComponents_below
    (bound : Int)
    (sign : Sign)
    (field : BitVec 11)
    (fraction : BitVec 52)
    (proper : field.toNat < 2047)
    (within : (field.toNat : Int) ≤ bound + 1075) :
    Below 53 (max bound (-1074))
      (UnpackedFloat.unpack Format.binary64
        (packComponents Format.binary64 sign field fraction)) := by
  have exponentField :
      unpackExponent (packComponents Format.binary64 sign field fraction) = field :=
    unpackExponent_packComponents
  generalize packComponents Format.binary64 sign field fraction = packed
    at exponentField ⊢
  have notFull : unpackExponent packed ≠ -1#11 := by
    rw [exponentField]
    rintro rfl
    exact absurd proper (by decide)
  unfold UnpackedFloat.unpack
  dsimp only
  rw [if_neg notFull]
  by_cases noExponent : unpackExponent packed = 0#11
  · rw [if_pos noExponent]
    refine below_dite (fun _ => trivial) fun _ => ?_
    refine ⟨Nat.lt_trans (unpackMantissa packed).isLt (by decide), ?_⟩
    rw [noExponent]
    exact Int.le_max_right bound (-1074)
  · rw [if_neg noExponent]
    refine ⟨(1#1 ++ unpackMantissa packed).isLt, ?_⟩
    rw [exponentField, exponentBias_binary64]
    omega

/-- A float whose exponent field is that of an exponent within the
range of the format. -/
theorem field_below
    {bound exponent : Int}
    (sign : Sign)
    (fraction : BitVec 52)
    (within : exponent ≤ bound)
    (inRange : bound ≤ 971) :
    Below 53 (max bound (-1074))
      (UnpackedFloat.unpack Format.binary64 (packComponents Format.binary64 sign
        (BitVec.ofNat 11 (exponent + 1075).toNat) fraction)) := by
  have kept :
      (BitVec.ofNat 11 (exponent + 1075).toNat).toNat =
        (exponent + 1075).toNat := by
    rw [BitVec.toNat_ofNat, Nat.mod_eq_of_lt (by omega)]
  have proper : (BitVec.ofNat 11 (exponent + 1075).toNat).toNat < 2047 := by omega
  have placed : ((BitVec.ofNat 11 (exponent + 1075).toNat).toNat : Int) ≤
      max bound (-1075) + 1075 := by omega
  refine (unpack_packComponents_below (max bound (-1075)) sign _ fraction proper
    placed).mono ?_
  omega

/-- A float with an exponent within the range of the format is packed
as a finite float. -/
theorem unpack_pack_below
    {digits : Nat}
    {bound : Int}
    {x : UnpackedFloat}
    (below : Below digits bound x)
    (inRange : bound ≤ 971) :
    Below 53 (max bound (-1074)) (Float.Model.pack x).unpack := by
  show Below 53 _
    (UnpackedFloat.unpack Format.binary64 (UnpackedFloat.pack Format.binary64 x))
  have noField (sign : Sign) (fraction : BitVec 52) :
      Below 53 (max (-1075) (-1074)) (UnpackedFloat.unpack Format.binary64
        (packComponents Format.binary64 sign 0#11 fraction)) :=
    unpack_packComponents_below (-1075) sign 0#11 fraction (by decide) (by decide)
  cases x with
  | zero sign =>
      exact (noField sign 0#52).mono (by omega)
  | finite sign mantissa exponent positive =>
      obtain ⟨-, within⟩ := below
      have field : (exponent + Format.binary64.exponentBias +
          Format.binary64.mantissaBitsWithoutImplicit).toNat =
            (exponent + 1075).toNat := by
        show (exponent + (1023 : Nat) + (52 : Nat)).toNat = _
        omega
      have small :
          ¬2 ^ Format.binary64.exponentBits ≤ (exponent + 1075).toNat + 1 := by
        show ¬2 ^ 11 ≤ _
        omega
      unfold UnpackedFloat.pack
      dsimp only
      rw [field, if_neg small]
      split
      · exact field_below sign _ within inRange
      · exact (noField sign _).mono (by omega)
  | _ =>
      exact below.elim

/-! ## Integers -/

/-- The product of floats of few digits, rounded. -/
theorem mul_below
    {x y : UnpackedFloat}
    {xDigits yDigits : Nat}
    {xBound yBound : Int}
    (xBelow : Below xDigits xBound x)
    (yBelow : Below yDigits yBound y) :
    Below (xDigits + yDigits + 1)
      (max (xBound + yBound) (-1074) + 2 * (xDigits + yDigits : Nat) + 1)
      (UnpackedFloat.mul Format.binary64 x y) := by
  cases x with
  | zero =>
      cases y with
      | zero | finite =>
          trivial
      | _ =>
          exact yBelow.elim
  | finite xSign xMantissa xExponent =>
      cases y with
      | zero =>
          trivial
      | finite ySign yMantissa yExponent =>
          have small : xMantissa * yMantissa < 2 ^ (xDigits + yDigits) := by
            rw [Nat.pow_add]
            exact Nat.mul_lt_mul'' xBelow.1 yBelow.1
          refine (roundWithAccuracy_below small _ _ _).mono ?_
          have := xBelow.2
          have := yBelow.2
          omega
      | _ =>
          exact yBelow.elim
  | _ =>
      exact xBelow.elim

/-- A whole number, rounded: at most 53 digits are added before the rounding. -/
theorem ofNat_below
    {n digits : Nat}
    (small : n < 2 ^ digits) :
    Below (digits + 53 + 1) (2 * (digits + 53 : Nat) + 1)
      (UnpackedFloat.ofNat Format.binary64 n) := by
  show Below _ _ (UnpackedFloat.normalize Format.binary64 (n : Int) 0 .positive)
  unfold UnpackedFloat.normalize
  split
  next negative =>
    exact absurd (Int.compare_eq_lt.mp negative) (by omega)
  next =>
    trivial
  next =>
    have amount :
        ((0 - max ((n.log2 : Int) + 1 + 0 - 53) (-1074)) : Int).toNat ≤ 53 := by
      omega
    show Below _ _ (roundWithAccuracy Format.binary64 .positive
      (n <<< ((0 - max ((n.log2 : Int) + 1 + 0 - 53) (-1074)) : Int).toNat)
      (0 - ((0 - max ((n.log2 : Int) + 1 + 0 - 53) (-1074)) : Int).toNat) .exact)
    generalize ((0 - max ((n.log2 : Int) + 1 + 0 - 53) (-1074)) : Int).toNat = shift
      at amount ⊢
    have shifted : n <<< shift < 2 ^ (digits + 53) := by
      rw [Nat.shiftLeft_eq]
      calc n * 2 ^ shift < 2 ^ digits * 2 ^ shift := by
            exact Nat.mul_lt_mul_of_pos_right small (Nat.two_pow_pos shift)
        _ ≤ 2 ^ digits * 2 ^ 53 :=
        Nat.mul_le_mul_left _ (Nat.pow_le_pow_right (by decide) amount)
        _ = 2 ^ (digits + 53) := (Nat.pow_add ..).symm
    refine (roundWithAccuracy_below shifted _ _ _).mono ?_
    omega

/-- The first power of ten. -/
theorem one_below :
    Below 53 (-52) (Float.ofBits 0x3FF0000000000000).toModel.unpack := by
  show Below 53 (-52) (UnpackedFloat.unpack Format.binary64
    (packComponents Format.binary64 .positive 1023#11 0#52))
  exact unpack_packComponents_below (-52) .positive 1023#11 0#52 (by decide)
    (by decide)

/-- A whole number with room for its rounding, times the zeroth power of ten. -/
theorem scaled_below
    {mantissa : Nat}
    {exponent : Int}
    (small : mantissa < 2 ^ (200 + 53))
    (positive : 0 < mantissa)
    (within : exponent ≤ 0) :
    Below 53 600 (Float.Model.pack (UnpackedFloat.mul Format.binary64
      (.finite .positive mantissa exponent positive)
      (.finite .positive (10 ^ (0 : Int).toNat) 0
        (Nat.pow_pos (by decide))))).unpack := by
  have whole : Below (200 + 53) 0 (.finite .positive mantissa exponent positive) :=
    ⟨small, within⟩
  have unit : Below 1 0
      (.finite .positive (10 ^ (0 : Int).toNat) 0 (Nat.pow_pos (by decide))) :=
    ⟨by decide, by decide⟩
  exact (unpack_pack_below (mul_below whole unit) (by decide)).mono (by decide)

/-- The float of a whole number is computed in one of two ways, by its size. -/
theorem float_ofNat_below
    {n : Nat}
    (small : n < 2 ^ 200) :
    Below 53 600 (Float.ofNat n).toModel.unpack := by
  show Below 53 600 (Float.ofScientific n false 0).toModel.unpack
  unfold Float.ofScientific
  split
  next fast =>
    have whole : n.toUInt64.toNat < 2 ^ 64 := n.toUInt64.toNat_lt
    have factor := unpack_pack_below (ofNat_below whole) (by decide)
    exact (unpack_pack_below (mul_below factor one_below) (by decide)).mono
      (by decide)
  next slow =>
    show Below 53 600
      (Float.Model.pack (UnpackedFloat.ofScientific Format.binary64 n 0)).unpack
    unfold UnpackedFloat.ofScientific
    by_cases isZero : n = 0
    · rw [dif_pos isZero]
      have zero : Below 0 0 (.zero .positive) := trivial
      exact (unpack_pack_below zero (by decide)).mono (by decide)
    · rw [dif_neg isZero]
      have notHuge : ¬(0 : Int) > 2 ^ Format.binary64.exponentBits := by decide
      have notTiny :
          ¬(0 : Int) < -((2 ^ Format.binary64.exponentBits : Int) + n.log2) := by
        show ¬(0 : Int) < -(2 ^ 11 + n.log2)
        omega
      rw [if_neg notHuge, if_neg notTiny, if_pos (Int.le_refl 0)]
      have digits : n <<< Format.binary64.mantissaBits < 2 ^ (200 + 53) := by
        show n <<< 53 < _
        rw [Nat.shiftLeft_eq, Nat.pow_add]
        exact Nat.mul_lt_mul_of_pos_right small (by decide)
      exact scaled_below digits _ (by decide)

/-- A sign changes no digits. -/
theorem Below.neg
    {digits : Nat}
    {bound : Int}
    {x : UnpackedFloat}
    (below : Below digits bound x) :
    Below digits bound x.neg := by
  cases x with
  | zero | finite =>
      exact below
  | _ =>
      exact below.elim

/-- An integer of fewer than 200 digits has a finite float. -/
theorem ofInt?_isSome
    {i : Int}
    (small : i.natAbs < 2 ^ 200) :
    ∃ x, ofInt? i = some x := by
  have finite : (Float.ofInt i).isFinite = true := by
    cases i with
    | ofNat n =>
        exact (float_ofNat_below small).isFinite
    | negSucc n =>
        have magnitude : Below 53 600 (Float.ofNat (n + 1)).toModel.unpack :=
          float_ofNat_below small
        exact (unpack_pack_below magnitude.neg (by decide)).isFinite
  exact ⟨Float.ofInt i, if_pos finite⟩

end GridScript.Number
