namespace GridScript.Number

/-!
# Exact values of floats

A finite float is a whole number times a power of two. Comparison, sums and
decimal text work on this exact form, so that they never depend on a rounded
intermediate result.
-/

/-- Powers of natural numbers are the same wherever the numbers are also
known as a monoid. -/
@[default_instance 20000]
instance (priority := 20000) naturalPower : Pow Nat Nat :=
  instPowNat

/-- Powers of integers are the same wherever the integers are also
known as a monoid. -/
@[default_instance 15000]
instance (priority := 20000) integerPower : Pow Int Nat :=
  instPowNat

/-- The exact value of a float. -/
inductive Exact where
  /-- `mantissa * 2 ^ exponent`, negated when `negative`. -/
  | finite (negative : Bool) (mantissa : Nat) (exponent : Int)
  | infinite (negative : Bool)
  | undefined
  deriving Repr, DecidableEq

/-- The exact value of a float, from its sign, exponent and fraction fields. -/
def Exact.ofFloat (x : Float) : Exact :=
  let bits := x.toBits.toNat
  let negative := bits / 2 ^ 63 == 1
  let field : Nat := bits / 2 ^ 52 % 2048
  let fraction : Nat := bits % 2 ^ 52
  if field = 2047 then
    if fraction = 0 then .infinite negative else .undefined
  else if field = 0 then .finite negative fraction (-1074)
  else .finite negative (fraction + 2 ^ 52) ((field : Int) - 1075)

/-- The exact value of an integer. -/
def Exact.ofInt (i : Int) : Exact :=
  .finite (i < 0) i.natAbs 0

/-- The whole number with its sign. -/
def signed (negative : Bool) (magnitude : Nat) : Int :=
  if negative then -(magnitude : Int) else magnitude

/-- Order of two whole numbers times powers of two. -/
def compareScaled (left leftExponent right rightExponent : Int) : Ordering :=
  let base := min leftExponent rightExponent
  compare
    (left * 2 ^ (leftExponent - base).toNat)
    (right * 2 ^ (rightExponent - base).toNat)

/-- Order of two exact values; none when one is undefined. -/
def Exact.compare? : Exact → Exact → Option Ordering
  | .undefined, _ => none
  | _, .undefined => none
  | .infinite left, .infinite right =>
      some (compare (signed left 1) (signed right 1))
  | .infinite left, .finite .. => some (compare (signed left 1) 0)
  | .finite .., .infinite right => some (compare 0 (signed right 1))
  | .finite left leftMantissa leftExponent,
    .finite right rightMantissa rightExponent =>
      some (compareScaled
        (signed left leftMantissa) leftExponent
        (signed right rightMantissa) rightExponent)

/-- The whole part of `mantissa * 2 ^ exponent`, cut toward zero. -/
def wholeMagnitude (mantissa : Nat) (exponent : Int) : Nat :=
  if exponent ≥ 0 then mantissa * 2 ^ exponent.toNat
  else mantissa / 2 ^ (-exponent).toNat

/-- `mantissa * 2 ^ exponent` has no fractional part. -/
def isWholeMagnitude (mantissa : Nat) (exponent : Int) : Bool :=
  exponent ≥ 0 || mantissa % 2 ^ (-exponent).toNat == 0

/-- The integer that a finite float cuts to, toward zero. -/
def truncate? (x : Float) : Option Int :=
  match Exact.ofFloat x with
  | .finite negative mantissa exponent =>
      some (signed negative (wholeMagnitude mantissa exponent))
  | _ => none

/-- The integer that equals a float. -/
def whole? (x : Float) : Option Int :=
  match Exact.ofFloat x with
  | .finite negative mantissa exponent =>
      if isWholeMagnitude mantissa exponent then
        some (signed negative (wholeMagnitude mantissa exponent))
      else none
  | _ => none

/-- The greatest integer not above a finite float. -/
def floor? (x : Float) : Option Int :=
  match Exact.ofFloat x with
  | .finite negative mantissa exponent =>
      let whole := wholeMagnitude mantissa exponent
      let fractional := !isWholeMagnitude mantissa exponent
      some (if negative && fractional then
        -(whole : Int) - 1
      else signed negative whole)
  | _ => none

/-- The least integer not below a finite float. -/
def ceiling? (x : Float) : Option Int :=
  match Exact.ofFloat x with
  | .finite negative mantissa exponent =>
      let whole := wholeMagnitude mantissa exponent
      let fractional := !isWholeMagnitude mantissa exponent
      some (if !negative && fractional then
        (whole : Int) + 1
      else signed negative whole)
  | _ => none

/-- The integer nearest to a finite float; a half goes to the even neighbour. -/
def nearest? (x : Float) : Option Int :=
  match Exact.ofFloat x with
  | .finite negative mantissa exponent =>
      if exponent ≥ 0 then some (signed negative (wholeMagnitude mantissa exponent))
      else
        let unit := 2 ^ (-exponent).toNat
        let whole := mantissa / unit
        let rest := mantissa % unit
        let up := 2 * rest > unit || (2 * rest == unit && whole % 2 == 1)
        some (signed negative (if up then whole + 1 else whole))
  | _ => none

/-- The float nearest to an integer; infinite beyond the range of floats. -/
def ofInt (i : Int) : Float :=
  Float.ofInt i

/-- The float nearest to an integer, if it is finite. -/
def ofInt? (i : Int) : Option Float :=
  let x := ofInt i
  if x.isFinite then some x else none

/-- Positive infinity. -/
def infinity : Float :=
  Float.ofBits 0x7FF0000000000000

/-- The undefined float. -/
def undefined : Float :=
  Float.ofBits 0x7FF8000000000000

end GridScript.Number
