import GridScript.Number.Reading
import GridScript.Value.Failure

namespace GridScript

/-!
# Rounding

Numbers are rounded on their decimals, and sums of floats are rounded once.
-/

open GridScript.Number

/-!
## Rounding half away from zero

A number is rounded on the decimal that is its shortest text, and a half
goes away from zero. Decimals are computed with 28 digits: a number whose
rounding would need more is left as it is. Decimal exponents reach from
-999999 to 999999.
-/

/-- Digits that a computed decimal may have. -/
def decimalPrecision : Nat := 28

/-- Greatest exponent of a computed decimal. -/
def maxExponent : Int := 999999

/-- Division with a half rounded up. -/
def divideHalfUp (numerator denominator : Nat) : Nat :=
  (2 * numerator + denominator) / (2 * denominator)

/-- Division with a half rounded to the even neighbour. -/
def divideHalfEven (numerator denominator : Nat) : Nat :=
  let whole := numerator / denominator
  let rest := numerator % denominator
  if 2 * rest > denominator || (2 * rest == denominator && whole % 2 == 1) then
    whole + 1
  else whole

/-- The multiple of `10 ^ place` nearest to a decimal, as a count of
`10 ^ place`. -/
def Number.Decimal.roundTo (d : Decimal) (place : Int) : Nat :=
  if place ≤ d.exponent then d.digits * 10 ^ (d.exponent - place).toNat
  else
    let dropped := (place - d.exponent).toNat
    if dropped > (digitChars d.digits).length then 0
    else divideHalfUp d.digits (10 ^ dropped)

/-- A float rounded to so many decimal places. -/
def roundFloat (x : Float) (places : Int) : Except Breach Float :=
  match shortestDecimal? x with
  | none => .ok x
  | some (negative, d) =>
      let place := -places
      if place.natAbs > 2 * (maxExponent.toNat + decimalPrecision) then .ok x
      else if place > maxExponent then .error .decimalOverflow
      else if place ≤ d.exponent then .ok x
      else .ok (withSign negative (nearestFloat (d.roundTo place) place))

/-- The float of a number, if there is one. -/
def Number.toFloat : Number → Except Breach Float
  | .int i =>
      match ofInt? i with
      | some x => .ok x
      | none => .error .overflow
  | .float x => .ok x

/-- A number rounded to so many decimal places; an integer has no places to lose. -/
def roundHalfAway (n : Number) (places : Int) : Except Breach Number :=
  match n with
  | .int i =>
      if places ≥ 0 then .ok (.int i)
      else do
        let x ← (Number.int i).toFloat
        return .float (← roundFloat x places)
  | .float x => return .float (← roundFloat x places)

/-!
## Exact sums

Floats are added without rounding, as multiples of the least positive float, and
only the sum is rounded. A running total beyond the range of floats is a breach,
and so are infinities of both signs. An infinity forgets the finite floats
before it, and an undefined float makes the sum undefined.
-/

/-- The exponent of the least positive float. -/
def leastExponent : Nat := 1074

/-- A finite float as a multiple of the least positive float. -/
def unitsOf (negative : Bool) (mantissa : Nat) (exponent : Int) : Int :=
  signed negative (mantissa * 2 ^ (exponent + leastExponent).toNat)

/-- The multiples from which on a float is infinite. -/
def unitLimit : Nat := 2 ^ (1024 + leastExponent) - 2 ^ (970 + leastExponent)

/-- The float nearest to a multiple of the least positive float. -/
def ofUnits (units : Int) : Float :=
  withSign (units < 0)
    (nearestFloat (units.natAbs * 5 ^ leastExponent) (-leastExponent))

/-- A sum of floats so far. -/
structure RunningSum where
  /-- The finite floats since the last one that is not finite. -/
  units : Int
  positiveInfinity : Bool
  negativeInfinity : Bool
  undefined : Bool

/-- The sum with one more float. -/
def RunningSum.add (sum : RunningSum) (x : Float) : Except Breach RunningSum :=
  match Exact.ofFloat x with
  | .undefined => .ok { sum with units := 0, undefined := true }
  | .infinite true => .ok { sum with units := 0, negativeInfinity := true }
  | .infinite false => .ok { sum with units := 0, positiveInfinity := true }
  | .finite negative mantissa exponent =>
      let units := sum.units + unitsOf negative mantissa exponent
      if units.natAbs ≥ unitLimit then .error .overflow
      else .ok { sum with units := units }

/-- The value of a sum. -/
def RunningSum.total (sum : RunningSum) : Except Breach Float :=
  if sum.positiveInfinity && sum.negativeInfinity then .error .opposedInfinities
  else if sum.undefined then .ok Number.undefined
  else if sum.positiveInfinity then .ok infinity
  else if sum.negativeInfinity then .ok (-infinity)
  else .ok (ofUnits sum.units)

/-- The sum of some floats, rounded once. -/
def exactSum (xs : List Float) : Except Breach Float := do
  (← xs.foldlM RunningSum.add ⟨0, false, false, false⟩).total

end GridScript
