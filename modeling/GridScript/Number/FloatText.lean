import GridScript.Number.Exact

namespace GridScript.Number

/-!
# Text of floats

A float is written with the fewest digits that round to it. This module finds
these digits and lays them out.
-/

/-!
## Shortest decimals

Among the decimals that round to a given float, the one with the fewest digits
is written, and of several of those the nearest to the float. The search tries
one digit, two digits, and so on; on each decimal grid only the two neighbours
of the float can be nearest.
-/

/-- The decimal number `digits * 10 ^ exponent`. -/
structure Decimal where
  digits : Nat
  exponent : Int
  deriving Repr, DecidableEq

/-- A positive quotient. -/
structure Quotient where
  numerator : Nat
  denominator : Nat
  deriving Repr

/-- `n * 2 ^ exponent` as a quotient. -/
def Quotient.binary (n : Nat) (exponent : Int) : Quotient :=
  ⟨n * 2 ^ exponent.toNat, 2 ^ (-exponent).toNat⟩

/-- `n * 10 ^ exponent` as a quotient. -/
def Quotient.decimal (n : Nat) (exponent : Int) : Quotient :=
  ⟨n * 10 ^ exponent.toNat, 10 ^ (-exponent).toNat⟩

/-- Order of quotients by cross multiplication. -/
def Quotient.compare (left right : Quotient) : Ordering :=
  Ord.compare (left.numerator * right.denominator)
    (right.numerator * left.denominator)

/-- `left - right`, or zero when `right` is greater. -/
def Quotient.sub (left right : Quotient) : Quotient :=
  ⟨left.numerator * right.denominator - right.numerator * left.denominator,
    left.denominator * right.denominator⟩

/--
The reals that round to `mantissa * 2 ^ exponent`.

The bounds lie half way to the neighbours; below a power of two the neighbour is
nearer. They belong to the interval when the mantissa is even.
-/
structure Interval where
  low : Quotient
  high : Quotient
  closed : Bool

/-- The interval of a finite positive float. -/
def Interval.ofBinary (mantissa : Nat) (exponent : Int) : Interval :=
  let lower :=
    if mantissa = 2 ^ 52 ∧ exponent ≠ -1074 then 4 * mantissa - 1
    else 4 * mantissa - 2
  { low := .binary lower (exponent - 2)
    high := .binary (4 * mantissa + 2) (exponent - 2)
    closed := mantissa % 2 == 0 }

/-- The interval holds a quotient. -/
def Interval.holds (interval : Interval) (value : Quotient) : Bool :=
  let low := interval.low.compare value
  let high := value.compare interval.high
  (low == .lt || (interval.closed && low == .eq)) &&
    (high == .lt || (interval.closed && high == .eq))

/-- The number of decimal digits before the point of a positive quotient, or
minus the zeros after it. -/
def magnitude (value : Quotient) : Int :=
  let guess : Int :=
    Int.fdiv
      (((value.numerator.log2 : Int) - (value.denominator.log2 : Int)) * 1233) 4096
  let candidates := [guess - 1, guess, guess + 1, guess + 2]
  match candidates.find? fun place => value.compare (.decimal 1 place) == .lt with
  | some place => place
  | none => guess + 2

/-- The whole part of `value * 10 ^ exponent`. -/
def scaledFloor (value : Quotient) (exponent : Int) : Nat :=
  (value.numerator * 10 ^ exponent.toNat) /
    (value.denominator * 10 ^ (-exponent).toNat)

/--
The neighbour of `value` on the grid of `10 ^ place` that lies in the interval.

Of two neighbours the nearer is taken, and of two equally near the even one.
-/
def onGrid?
    (interval : Interval)
    (value : Quotient)
    (place : Int) : Option Decimal :=
  let below := scaledFloor value (-place)
  let lower := Quotient.decimal below place
  let upper := Quotient.decimal (below + 1) place
  let lowerHeld := below != 0 && interval.holds lower
  let upperHeld := interval.holds upper
  if lowerHeld && upperHeld then
    match (value.sub lower).compare (upper.sub value) with
    | .lt => some ⟨below, place⟩
    | .gt => some ⟨below + 1, place⟩
    | .eq => some ⟨below + below % 2, place⟩
  else if lowerHeld then some ⟨below, place⟩
  else if upperHeld then some ⟨below + 1, place⟩
  else none

/-- Trailing zero digits moved into the exponent, `fuel` at most. -/
def trimZeros : Nat → Decimal → Decimal
  | 0, d => d
  | fuel + 1, d =>
      if d.digits ≠ 0 ∧ d.digits % 10 = 0 then
        trimZeros fuel ⟨d.digits / 10, d.exponent + 1⟩
      else d

/-- The shortest decimal in the interval of a positive float, nearest to it
among the shortest. -/
def shortest (mantissa : Nat) (exponent : Int) : Decimal :=
  if mantissa = 0 then ⟨0, 0⟩
  else
    let value := Quotient.binary mantissa exponent
    let interval := Interval.ofBinary mantissa exponent
    let places := magnitude value
    let widths := (List.range 17).map fun (n : Nat) => places - (n + 1 : Int)
    match widths.findSome? (onGrid? interval value) with
    | some d => trimZeros 20 d
    | none => ⟨scaledFloor value (17 - places), places - 17⟩

/-- Sign and shortest decimal of a finite float. -/
def shortestDecimal? (x : Float) : Option (Bool × Decimal) :=
  match Exact.ofFloat x with
  | .finite negative mantissa exponent =>
      some (negative, shortest mantissa exponent)
  | _ => none

/-!
## Layout

A float is written with its shortest digits: positionally when the
decimal exponent lies between -4 and 15, with an exponent of at least
two digits otherwise.
-/

/-- The decimal digits of a whole number. -/
def digitChars (n : Nat) : List Char :=
  Nat.toDigits 10 n

/-- Digits preceded by zeros up to a width. -/
def padLeft (width : Nat) (cs : List Char) : List Char :=
  List.replicate (width - cs.length) '0' ++ cs

/-- How a decimal is laid out. -/
structure Layout where
  /-- Least decimal exponent that is written positionally. -/
  lowest : Int
  /-- Greatest decimal exponent that is written positionally. -/
  highest : Int
  /-- Least number of digits of a written exponent. -/
  exponentWidth : Nat

/-- Floats are positional for exponents -4 to 15, and exponents have
two digits or more. -/
def floatLayout : Layout := ⟨-4, 15, 2⟩

/-- An exponent with its sign and at least `width` digits. -/
def exponentChars (width : Nat) (exponent : Int) : List Char :=
  (if exponent < 0 then '-' else '+') :: padLeft width (digitChars exponent.natAbs)

/-- Digits with the decimal point after the first `places` of them, and at least
one digit on each side. -/
def positional (digits : List Char) (places : Int) : List Char :=
  if places ≤ 0 then
    '0' :: '.' :: (List.replicate (-places).toNat '0' ++ digits)
  else if digits.length ≤ places.toNat then
    digits ++ List.replicate (places.toNat - digits.length) '0' ++ ['.', '0']
  else digits.take places.toNat ++ '.' :: digits.drop places.toNat

/-- Digits with a point after the first, and an exponent. -/
def scientific
    (layout : Layout)
    (digits : List Char)
    (exponent : Int) : List Char :=
  let mantissa :=
    match digits with
    | [] => []
    | [d] => [d]
    | d :: rest => d :: '.' :: rest
  mantissa ++ 'e' :: exponentChars layout.exponentWidth exponent

/-- A decimal as text. -/
def Decimal.chars (layout : Layout) (d : Decimal) : List Char :=
  let digits := digitChars d.digits
  let exponent := if d.digits = 0 then 0 else d.exponent + digits.length - 1
  if layout.lowest ≤ exponent ∧ exponent ≤ layout.highest then
    positional digits (exponent + 1)
  else scientific layout digits exponent

/-- The text of a float that reads back as the same float. -/
def floatText (x : Float) : String :=
  match Exact.ofFloat x with
  | .undefined => "nan"
  | .infinite negative => if negative then "-inf" else "inf"
  | .finite negative mantissa exponent =>
      let body := (shortest mantissa exponent).chars floatLayout
      String.ofList (if negative then '-' :: body else body)

/-- The text of an integer. -/
def intText (i : Int) : String :=
  String.ofList (if i < 0 then '-' :: digitChars i.natAbs else digitChars i.natAbs)

end GridScript.Number
