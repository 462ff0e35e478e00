import GridScript.Proofs.Number.Conversion
import GridScript.Proofs.Number.Reading
import GridScript.Proofs.Value.Order
import Mathlib

namespace GridScript.Number

/-!
# Signs and decimals of floats

A float that is not zero stays so when it is multiplied by a hundred, and keeps
its sign: the hundred has digits enough for every digit that rounding takes
away. The product is followed from the exact parts of the float through its
rounding to the fields that it is packed into.

The decimal of a float has few digits before the point, and that of a large
float none after it.
-/

open Float.Model
open Float.Model.UnpackedFloat

/-! ## Signs of exact values -/

/-- An exact value is below zero. -/
def Exact.isNegative : Exact → Bool
  | .finite negative mantissa _ => negative && mantissa != 0
  | .infinite negative => negative
  | .undefined => false

theorem signed_neg_iff
    {negative : Bool}
    {mantissa : Nat} :
    signed negative mantissa < 0 ↔ (negative && mantissa != 0) = true := by
  cases negative with
  | false => simp [signed]
  | true =>
      simp [signed]
      omega

/-- A number is less than zero if its exact value is negative. -/
theorem less_zero (n : Number) : n.less (.int 0) = n.exact.isNegative := by
  unfold less
  cases n.exact with
  | undefined => rfl
  | infinite negative => cases negative <;> rfl
  | finite negative mantissa exponent =>
      rw [Bool.eq_iff_iff, Exact.isNegative, ← signed_neg_iff, exact_ofInt,
        Exact.compare?, beq_iff_eq, Option.some.injEq, compareScaled,
        Int.compare_eq_lt]
      have power : (0 : Int) < 2 ^ (exponent - min exponent 0).toNat :=
        Int.pow_pos (by decide)
      have grows : _ ↔ signed negative mantissa < 0 :=
        ⟨fun below => Int.lt_of_mul_lt_mul_right below (Int.le_of_lt power),
          fun below => Int.mul_lt_mul_of_pos_right below power⟩
      rw [Int.zero_mul] at grows
      show _ < (0 : Int) * _ ↔ _
      rw [Int.zero_mul]
      exact grows

/-! ## Exact values of unpacked floats -/

/-- The sign is a minus sign. -/
def isMinus : Sign → Bool
  | .negative => true
  | .positive => false

/-- The exact value of a float that is unpacked. -/
def exactOf : UnpackedFloat → Exact
  | .notANumber => .undefined
  | .infinity sign => .infinite (isMinus sign)
  | .zero sign => .finite (isMinus sign) 0 (-1074)
  | .finite sign mantissa exponent _ => .finite (isMinus sign) mantissa exponent

theorem toNat_unpackMantissa (word : BitVec Format.binary64.numBits) :
    (unpackMantissa word).toNat = word.toNat % 2 ^ 52 := by
  show (word.toNat >>> 0) % 2 ^ 52 = _
  rw [Nat.shiftRight_zero]

theorem toNat_unpackExponent (word : BitVec Format.binary64.numBits) :
    (unpackExponent word).toNat = word.toNat / 2 ^ 52 % 2048 := by
  show (word.toNat >>> 52) % 2 ^ 11 = _
  rw [Nat.shiftRight_eq_div_pow]

theorem isMinus_ofBitVec (bit : BitVec 1) :
    isMinus (Sign.ofBitVec bit) = (bit.toNat == 1) := by
  revert bit
  decide

theorem toNat_unpackSign (word : BitVec Format.binary64.numBits) :
    (unpackSign word).toNat = word.toNat / 2 ^ 63 := by
  show (word.toNat >>> 63) % 2 ^ 1 = _
  rw [Nat.shiftRight_eq_div_pow]
  have small : word.toNat < 2 ^ 64 := word.isLt
  omega

theorem toNat_one_append (fraction : BitVec 52) :
    (1#1 ++ fraction).toNat = fraction.toNat + 2 ^ 52 := by
  rw [BitVec.toNat_append, ← Nat.shiftLeft_add_eq_or_of_lt fraction.isLt,
    Nat.add_comm]
  rfl

theorem exact_unpack (x : Float) : Exact.ofFloat x = exactOf x.toModel.unpack := by
  show _ = exactOf (UnpackedFloat.unpack Format.binary64 x.toBits.toBitVec)
  unfold Exact.ofFloat UnpackedFloat.unpack
  dsimp only
  rw [show x.toBits.toNat = x.toBits.toBitVec.toNat from rfl]
  obtain ⟨word, isWord⟩ :
      ∃ word : BitVec Format.binary64.numBits, x.toBits.toBitVec = word :=
    ⟨_, rfl⟩
  rw [isWord]
  have sign := isMinus_ofBitVec (unpackSign word)
  rw [toNat_unpackSign] at sign
  have field := toNat_unpackExponent word
  have fraction := toNat_unpackMantissa word
  rw [← sign, ← field, ← fraction]
  have fullField : unpackExponent word = -1#11 ↔
      (unpackExponent word).toNat = 2047 :=
    BitVec.toNat_inj.symm
  have noField : unpackExponent word = 0#11 ↔
      (unpackExponent word).toNat = 0 :=
    BitVec.toNat_inj.symm
  have noFraction : unpackMantissa word = 0#52 ↔
      (unpackMantissa word).toNat = 0 :=
    BitVec.toNat_inj.symm
  by_cases full : unpackExponent word = -1#11
  · rw [if_pos full, if_pos (fullField.mp full)]
    by_cases empty : unpackMantissa word = 0#52
    · rw [if_pos empty, if_pos (noFraction.mp empty)]
      rfl
    · rw [if_neg empty, if_neg (mt noFraction.mpr empty)]
      rfl
  · rw [if_neg full, if_neg (mt fullField.mpr full)]
    by_cases least : unpackExponent word = 0#11
    · rw [if_pos least, if_pos (noField.mp least)]
      by_cases empty : unpackMantissa word = 0#52
      · rw [dif_pos empty, noFraction.mp empty]
        rfl
      · rw [dif_neg empty, noField.mp least]
        rfl
    · rw [if_neg least, if_neg (mt noField.mpr least)]
      show _ = Exact.finite _ (1#1 ++ unpackMantissa word).toNat _
      rw [toNat_one_append, exponentBias_binary64]
      rfl

/-- The parts of a finite float are within the range of the format. -/
theorem bounds_of_finite
    {x : Float}
    {negative : Bool}
    {mantissa : Nat}
    {exponent : Int}
    (value : Exact.ofFloat x = .finite negative mantissa exponent) :
    mantissa < 2 ^ 53 ∧ -1074 ≤ exponent ∧ exponent ≤ 971 ∧
      (-1074 < exponent → 0 < mantissa) := by
  unfold Exact.ofFloat at value
  dsimp only at value
  have field : x.toBits.toNat / 2 ^ 52 % 2048 < 2048 := Nat.mod_lt _ (by decide)
  have fraction : x.toBits.toNat % 2 ^ 52 < 2 ^ 52 := Nat.mod_lt _ (by decide)
  split at value
  · split at value <;> cases value
  · split at value <;> cases value <;> omega

/-! ## Rounding -/

theorem mantissa_shiftRight (m : ExtendedMantissa) (amount : Nat) :
    (m >>> amount).mantissa = m.mantissa / 2 ^ amount := by
  induction amount with
  | zero =>
      exact (Nat.div_one _).symm
  | succ amount inductionHypothesis =>
      show (m >>> amount).mantissa / 2 = _
      rw [inductionHypothesis, Nat.div_div_eq_div_mul, Nat.pow_succ]

theorem le_roundedMantissa (m : ExtendedMantissa) :
    m.mantissa ≤ m.roundedMantissa := by
  rcases m with ⟨mantissa, round, sticky⟩
  cases round <;> cases sticky <;>
    simp [ExtendedMantissa.roundedMantissa, ExtendedMantissa.accuracy,
      Accuracy.roundToNearestEven]

/-- A shift drops as many digits as the format has too many, or those below
its least exponent. -/
theorem shiftToTargetExponent_exact (mantissa : Nat) (exponent : Int) :
    let amount :=
      (max ((mantissa.log2 : Int) + 1 + exponent - 53) (-1074) - exponent).toNat
    (shiftToTargetExponent Format.binary64 mantissa exponent .exact).1.mantissa =
        mantissa / 2 ^ amount ∧
      (shiftToTargetExponent Format.binary64 mantissa exponent .exact).2 =
        exponent + amount :=
  ⟨mantissa_shiftRight _ _, rfl⟩

/-- A positive number that is at least the least positive float is
not shifted to zero. -/
theorem shiftToTargetExponent_pos
    {mantissa : Nat}
    {exponent : Int}
    (positive : 0 < mantissa)
    (large : -1074 ≤ exponent + mantissa.log2) :
    0 <
        (shiftToTargetExponent Format.binary64 mantissa exponent
          .exact).1.mantissa ∧
      (shiftToTargetExponent Format.binary64 mantissa exponent .exact).1.mantissa <
        2 ^ 53 ∧
      -1074 ≤
        (shiftToTargetExponent Format.binary64 mantissa exponent .exact).2 := by
  obtain ⟨shifted, placed⟩ := shiftToTargetExponent_exact mantissa exponent
  rw [shifted, placed]
  generalize counted :
    (max ((mantissa.log2 : Int) + 1 + exponent - 53) (-1074) - exponent).toNat =
      amount
  have within : amount ≤ mantissa.log2 := by omega
  have enough : mantissa.log2 + 1 ≤ 53 + amount := by omega
  refine ⟨Nat.div_pos ?_ (Nat.two_pow_pos _), ?_, by omega⟩
  · exact Nat.le_trans (Nat.pow_le_pow_right (by decide) within)
      (Nat.log2_self_le (Nat.ne_of_gt positive))
  · rw [Nat.div_lt_iff_lt_mul (Nat.two_pow_pos _), ← Nat.pow_add]
    exact Nat.lt_of_lt_of_le Nat.lt_log2_self
      (Nat.pow_le_pow_right (by decide) enough)

/-- A float that fits its format but for its greatest exponent. -/
def Fits (sign : Sign) : UnpackedFloat → Prop
  | .finite s mantissa exponent _ => s = sign ∧ mantissa < 2 ^ 53 ∧ -1074 ≤ exponent
  | _ => False

/-- A positive number that is at least the least positive float is rounded
to a positive one. -/
theorem roundWithAccuracy_fits
    {mantissa : Nat}
    {exponent : Int}
    (sign : Sign)
    (positive : 0 < mantissa)
    (large : -1074 ≤ exponent + mantissa.log2) :
    Fits sign
      (roundWithAccuracy Format.binary64 sign mantissa exponent .exact) := by
  unfold roundWithAccuracy
  obtain ⟨firstPositive, -, firstExponent⟩ :=
    shiftToTargetExponent_pos positive large
  generalize shiftToTargetExponent Format.binary64 mantissa exponent .exact = first
    at firstPositive firstExponent
  have rounded : 0 < first.1.roundedMantissa :=
    Nat.lt_of_lt_of_le firstPositive (le_roundedMantissa first.1)
  obtain ⟨lastPositive, lastMantissa, lastExponent⟩ :=
    shiftToTargetExponent_pos rounded
      (by omega : -1074 ≤ first.2 + first.1.roundedMantissa.log2)
  dsimp only
  rw [dif_neg (Nat.ne_of_gt lastPositive)]
  exact ⟨rfl, lastMantissa, lastExponent⟩

/-! ## Packing -/

/-- A float other than zero with a sign. -/
def Signed (sign : Sign) : UnpackedFloat → Prop
  | .infinity s => s = sign
  | .finite s _ _ _ => s = sign
  | _ => False

/-- Fields that stand neither for zero nor for the undefined float keep the sign. -/
theorem signed_packComponents
    (sign : Sign)
    {field : BitVec 11}
    {fraction : BitVec 52}
    (defined : field = -1#11 → fraction = 0#52)
    (nonzero : field = 0#11 → fraction ≠ 0#52) :
    Signed sign (UnpackedFloat.unpack Format.binary64
      (packComponents Format.binary64 sign field fraction)) := by
  have signField : Sign.ofBitVec
      (unpackSign (packComponents Format.binary64 sign field fraction)) = sign :=
    (congrArg _ (unpackSign_packComponents ..)).trans (Sign.ofBitVec_toBitVec sign)
  have exponentField :
      unpackExponent (packComponents Format.binary64 sign field fraction) = field :=
    unpackExponent_packComponents
  have mantissaField :
      unpackMantissa (packComponents Format.binary64 sign field fraction) =
        fraction :=
    unpackMantissa_packComponents
  generalize packComponents Format.binary64 sign field fraction = packed
    at signField exponentField mantissaField
  rw [← exponentField, ← mantissaField] at defined nonzero
  unfold UnpackedFloat.unpack
  dsimp only
  by_cases full : unpackExponent packed = -1#11
  · rw [if_pos full, if_pos (defined full)]
    exact signField
  · rw [if_neg full]
    by_cases least : unpackExponent packed = 0#11
    · rw [if_pos least, dif_neg (nonzero least)]
      exact signField
    · rw [if_neg least]
      exact signField

/-- Packing a float that fits keeps its sign, and does not make it zero. -/
theorem Fits.signed_pack
    {sign : Sign}
    {x : UnpackedFloat}
    (fits : Fits sign x) :
    Signed sign (Float.Model.pack x).unpack := by
  cases x with
  | finite s mantissa exponent positive =>
      obtain ⟨rfl, small, least⟩ := fits
      show Signed s
        (UnpackedFloat.unpack Format.binary64
          (UnpackedFloat.pack Format.binary64 _))
      have field : (exponent + Format.binary64.exponentBias +
          Format.binary64.mantissaBitsWithoutImplicit).toNat =
            (exponent + 1075).toNat := by
        show (exponent + (1023 : Nat) + (52 : Nat)).toNat = _
        omega
      unfold UnpackedFloat.pack
      dsimp only
      rw [field]
      split
      · exact signed_packComponents s (fun _ => rfl) (by decide)
      next inRange =>
        have inRange : (exponent + 1075).toNat + 1 < 2 ^ 11 :=
          Nat.lt_of_not_le inRange
        split
        · have kept : (BitVec.ofNat 11 (exponent + 1075).toNat).toNat =
              (exponent + 1075).toNat := by
            rw [BitVec.toNat_ofNat, Nat.mod_eq_of_lt (by omega)]
          refine signed_packComponents s (fun full => ?_) fun none => ?_
          · have isFull : (exponent + 1075).toNat = 2047 := by
              rw [← kept, full]
              rfl
            omega
          · have isEmpty : (exponent + 1075).toNat = 0 := by
              rw [← kept, none]
              rfl
            omega
        next subnormal =>
          have digits : mantissa.log2 ≠ 52 :=
            fun full => subnormal (congrArg (· + 1) full)
          have atMost : mantissa.log2 < 53 :=
            (Nat.log2_lt (Nat.ne_of_gt positive)).mpr small
          have fraction : mantissa < 2 ^ 52 :=
            (Nat.log2_lt (Nat.ne_of_gt positive)).mp (by omega)
          refine signed_packComponents s (fun full => absurd full (by decide))
            fun _ none => ?_
          have isZero := congrArg BitVec.toNat none
          rw [BitVec.toNat_ofNat, Nat.mod_eq_of_lt fraction] at isZero
          exact absurd isZero (Nat.ne_of_gt positive)
  | _ => exact fits.elim

/-! ## Products -/

theorem Signed.isNegative
    {sign : Sign}
    {x : UnpackedFloat}
    (signed : Signed sign x) :
    (exactOf x).isNegative = isMinus sign := by
  cases x with
  | infinity s =>
      cases (signed : s = sign)
      rfl
  | finite s mantissa exponent positive =>
      cases (signed : s = sign)
      show (isMinus sign && mantissa != 0) = isMinus sign
      simp [Nat.ne_of_gt positive]
  | _ => exact signed.elim

/-- The product by a hundred is rounded and packed. -/
theorem unpack_mul_hundred (x : Float) :
    (x * 100).toModel.unpack =
      (Float.Model.pack (UnpackedFloat.mul Format.binary64 x.toModel.unpack
        (.finite .positive (100 * 2 ^ 46) (-46) (by decide)))).unpack :=
  rfl

theorem mul_positive (sign : Sign) : sign * Sign.positive = sign := by
  cases sign <;> rfl

/-- A finite float times a hundred keeps its sign and does not become zero. -/
theorem isNegative_mul_hundred
    {x : Float}
    (finite : (Number.float x).IsFinite) :
    (Number.float (x * 100)).exact.isNegative =
      (Number.float x).exact.isNegative := by
  show (Exact.ofFloat (x * 100)).isNegative = (Exact.ofFloat x).isNegative
  obtain ⟨negative, mantissa, exponent, value⟩ := finite
  have value : Exact.ofFloat x = .finite negative mantissa exponent := value
  obtain ⟨-, least, -, -⟩ := bounds_of_finite value
  rw [exact_unpack] at value ⊢
  rw [exact_unpack, unpack_mul_hundred]
  cases unpacked : x.toModel.unpack with
  | zero sign =>
      cases sign <;> rfl
  | finite sign m e positive =>
      rw [unpacked] at value
      cases value
      have hundred : 2 ^ 52 ≤ mantissa * (100 * 2 ^ 46) := by omega
      have digits : 52 ≤ (mantissa * (100 * 2 ^ 46)).log2 :=
        (Nat.le_log2 (by omega)).mpr hundred
      have fits : Fits sign (UnpackedFloat.mul Format.binary64
          (.finite sign mantissa exponent positive)
          (.finite .positive (100 * 2 ^ 46) (-46) (by decide))) := by
        show Fits sign
          (roundWithAccuracy Format.binary64 (sign * .positive) _ _ .exact)
        rw [mul_positive]
        exact roundWithAccuracy_fits sign (by omega) (by omega)
      rw [fits.signed_pack.isNegative]
      have signed : Signed sign (.finite sign mantissa exponent positive) := rfl
      exact signed.isNegative.symm
  | infinity | notANumber =>
      rw [unpacked] at value
      cases value

/-- Only finite floats have a finite product by a hundred. -/
theorem isFinite_of_mul_hundred
    {x : Float}
    (finite : (Number.float (x * 100)).IsFinite) :
    (Number.float x).IsFinite := by
  obtain ⟨negative, mantissa, exponent, value⟩ := finite
  have value : Exact.ofFloat (x * 100) = .finite negative mantissa exponent := value
  show ∃ _ _ _, Exact.ofFloat x = _
  rw [exact_unpack, unpack_mul_hundred] at value
  rw [exact_unpack]
  cases unpacked : x.toModel.unpack with
  | zero | finite => exact ⟨_, _, _, rfl⟩
  | infinity sign =>
      rw [unpacked] at value
      cases sign <;> cases value
  | notANumber =>
      rw [unpacked] at value
      cases value

/-- What trimming a zero preserves holds of a trimmed decimal. -/
theorem trimZeros_of_step
    {holds : Decimal → Prop}
    (step : ∀ digits exponent, holds ⟨digits * 10, exponent⟩ → 0 < digits →
      holds ⟨digits, exponent + 1⟩)
    (fuel : Nat)
    {d : Decimal}
    (start : holds d) :
    holds (trimZeros fuel d) := by
  induction fuel generalizing d with
  | zero => exact start
  | succ fuel inductionHypothesis =>
      unfold trimZeros
      split
      next trims =>
        have whole : d.digits / 10 * 10 = d.digits := by omega
        refine inductionHypothesis (step _ _ ?_ (by omega))
        rw [whole]
        exact start
      next => exact start

/-- The guess at the number of decimal digits that `magnitude` corrects. -/
def guess (value : Quotient) : Int :=
  Int.fdiv (((value.numerator.log2 : Int) - (value.denominator.log2 : Int)) * 1233)
    4096

/-- A decimal of at most 309 digits before the point. -/
def Moderate (d : Decimal) : Prop :=
  d.exponent ≤ 309 ∧ d.digits ≤ 10 ^ (309 - d.exponent).toNat

theorem Moderate.trimZeros
    {d : Decimal}
    (moderate : Moderate d)
    (fuel : Nat) :
    Moderate (trimZeros fuel d) := by
  refine trimZeros_of_step (fun digits exponent held positive => ?_) fuel moderate
  obtain ⟨within, small⟩ := held
  dsimp only at within small
  have notLast : exponent ≠ 309 := by
    rintro rfl
    simp at small
    omega
  have places :
      (309 - exponent).toNat = (309 - (exponent + 1)).toNat + 1 := by omega
  rw [places, Nat.pow_succ] at small
  exact ⟨by dsimp only; omega, Nat.le_of_mul_le_mul_right small (by decide)⟩

/-- A decimal with digits, and no fraction. -/
def Whole (d : Decimal) : Prop :=
  0 < d.digits ∧ 0 ≤ d.exponent

theorem Whole.trimZeros
    {d : Decimal}
    (whole : Whole d)
    (fuel : Nat) :
    Whole (trimZeros fuel d) :=
  trimZeros_of_step (fun _ _ held positive => ⟨positive, Int.le_add_one held.2⟩)
    fuel whole

end GridScript.Number
