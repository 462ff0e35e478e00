import GridScript.Value.Rounding

namespace GridScript.Format

/-!
# Fixed-point text

Numbers are rounded half away from zero on their decimal text and written with a
fixed number of decimals. Scientific text rounds the exact binary value instead,
a half to the even digit.
-/

open GridScript.Number

/-- Digits of a number before and after the point. -/
structure FixedDigits where
  whole : List Char
  fraction : List Char
  deriving Repr, DecidableEq

/-- A decimal with at most `decimalPrecision` digits, a half going to
the even neighbour. -/
def limitDigits (d : Decimal) : Decimal :=
  let length := (digitChars d.digits).length
  if length ≤ decimalPrecision then d
  else
    let dropped := length - decimalPrecision
    ⟨divideHalfEven d.digits (10 ^ dropped), d.exponent + dropped⟩

/-- The magnitude of a number as a decimal. -/
def magnitudeDecimal? : Number → Option Decimal
  | .int i => some (limitDigits ⟨i.natAbs, 0⟩)
  | .float x => (shortestDecimal? x).map Prod.snd

/-- Digits of `count * 10 ^ -decimals`. -/
def fixedDigits (count decimals : Nat) : FixedDigits :=
  let digits := padLeft (decimals + 1) (digitChars count)
  let wholes := digits.length - decimals
  ⟨digits.take wholes, digits.drop wholes⟩

/-- Most digits that fixed-point text may have. -/
def maxFixedDigits (decimals : Nat) : Nat :=
  max 400 (decimals + 320)

/-- The digits of a number's magnitude, rounded half away from zero
to so many decimals. -/
def fixed (n : Number) (decimals : Nat) : Except Breach FixedDigits :=
  match magnitudeDecimal? n with
  | none => .error .decimalPrecision
  | some d =>
      let count := d.roundTo (-(decimals : Int))
      if (digitChars count).length > maxFixedDigits decimals then
        .error .decimalPrecision
      else .ok (fixedDigits count decimals)

/-- Digits in groups of three from the right, joined by commas; the
argument is in reverse. -/
def groupReversed : List Char → List Char
  | a :: b :: c :: d :: rest => a :: b :: c :: ',' :: groupReversed (d :: rest)
  | cs => cs

/-- Digits in groups of three from the right, joined by commas. -/
def group (digits : List Char) : List Char :=
  (groupReversed digits.reverse).reverse

/-- The point and the digits after it; nothing without digits. -/
def pointed (fraction : List Char) : List Char :=
  if fraction.isEmpty then [] else '.' :: fraction

/-- Fixed-point text without a sign. -/
def FixedDigits.chars (digits : FixedDigits) (thousands : Bool) : List Char :=
  (if thousands then group digits.whole else digits.whole) ++
    pointed digits.fraction

/-- The greatest exponent of ten not above a positive quotient is the
magnitude less one. -/
def leadingExponent (value : Quotient) : Int :=
  magnitude value - 1

/-- Rounded digits and the exponent of the first of them. -/
def scientificDigits (value : Quotient) (decimals : Nat) : List Char × Int :=
  let exponent := leadingExponent value
  let place := exponent - decimals
  let count :=
    divideHalfEven
      (value.numerator * 10 ^ (-place).toNat)
      (value.denominator * 10 ^ place.toNat)
  let digits := digitChars count
  if digits.length > decimals + 1 then (digits.dropLast, exponent + 1)
  else (digits, exponent)

/-- Scientific text such as `-1.50E+03` of a finite float. -/
def scientificText (x : Float) (decimals : Nat) : List Char :=
  match Exact.ofFloat x with
  | .finite negative mantissa exponent =>
      let (digits, e) :=
        if mantissa = 0 then (List.replicate (decimals + 1) '0', 0)
        else scientificDigits (.binary mantissa exponent) decimals
      let body :=
        digits.take 1 ++ pointed (digits.drop 1) ++ 'E' :: exponentChars 2 e
      if negative then '-' :: body else body
  | _ => (floatText x).toList

end GridScript.Format
