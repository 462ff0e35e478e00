import GridScript.Number.FloatText
import GridScript.Text.Character

namespace GridScript.Number

/-!
# Numbers in texts

Numeric text may have blank space around it, one sign, single underscores
between digits, and the decimal digits of any script. A float may also be `inf`,
`infinity` or `nan` in any letter case.
-/

open GridScript.Text

/-- Decimal digits of any script become ASCII digits. -/
def plainDigit (c : Char) : Char :=
  match digitValue? c with
  | some d => Char.ofNat (48 + d)
  | none => c

/-- Every underscore stands between two digits; `before` is the
character before the text. -/
def underscoresFit (before : Char) : List Char → Bool
  | [] => before != '_'
  | c :: rest =>
      (if c == '_' then before.isDigit else before != '_' || c.isDigit) &&
        underscoresFit c rest

/-- Text with plain digits and without underscores; none if an
underscore is out of place. -/
def plain? (cs : List Char) : Option (List Char) :=
  let digits := cs.map plainDigit
  if underscoresFit ' ' digits then some (digits.filter (· != '_')) else none

/-- A leading sign, and the text after it. -/
def cutSign : List Char → Bool × List Char
  | '-' :: rest => (true, rest)
  | '+' :: rest => (false, rest)
  | cs => (false, cs)

/-- The whole number written by digits, continuing from `n`. -/
def digitsValueFrom (n : Nat) (cs : List Char) : Nat :=
  cs.foldl (fun value c => 10 * value + (c.val.toNat - 48)) n

/-- The whole number written by ASCII digits. -/
def digitsValue (cs : List Char) : Nat :=
  digitsValueFrom 0 cs

/-- An exponent part such as `e-12`; empty text is exponent zero. -/
def exponentValue? : List Char → Option Int
  | [] => some 0
  | c :: rest =>
      if c == 'e' || c == 'E' then
        let (negative, digits) := cutSign rest
        if digits.isEmpty || !digits.all Char.isDigit then none
        else some (signed negative (digitsValue digits))
      else none

/-- The float nearest to `digits * 10 ^ exponent`. -/
def nearestFloat (digits : Nat) (exponent : Int) : Float :=
  if digits = 0 then 0
  else
    let top := (digitChars digits).length + exponent
    if top > 400 then infinity
    else if top < -400 then 0
    else Float.ofScientific digits (exponent < 0) exponent.natAbs

/-- The magnitude written by plain digits, an optional fraction and an
optional exponent. -/
def magnitude? (cs : List Char) : Option Float :=
  let whole := cs.takeWhile Char.isDigit
  let rest := cs.dropWhile Char.isDigit
  let (fraction, rest) :=
    match rest with
    | '.' :: rest => (rest.takeWhile Char.isDigit, rest.dropWhile Char.isDigit)
    | rest => ([], rest)
  if whole.isEmpty && fraction.isEmpty then none
  else
    (exponentValue? rest).map fun exponent =>
      nearestFloat (digitsValue (whole ++ fraction)) (exponent - fraction.length)

/-- The float with the opposite sign when `negative`. -/
def withSign (negative : Bool) (x : Float) : Float :=
  if negative then -x else x

/-- The float that a text denotes. -/
def readFloat? (text : List Char) : Option Float := do
  let cs ← plain? (trim text)
  let (negative, body) := cutSign cs
  let word := body.map Char.toLower
  if word = ['i', 'n', 'f'] || word = ['i', 'n', 'f', 'i', 'n', 'i', 't', 'y'] then
    some (withSign negative infinity)
  else if word = ['n', 'a', 'n'] then some undefined
  else (magnitude? body).map (withSign negative)

/-- Most digits that an integer text may have. -/
def maxIntDigits : Nat := 4300

/-- Reading of an integer text. -/
inductive IntReading where
  | value (i : Int)
  /-- More digits than `maxIntDigits`. -/
  | tooLong (digits : Nat)
  | malformed
  deriving Repr, DecidableEq

/-- The integer that a text denotes. -/
def readInt (text : List Char) : IntReading :=
  match plain? (trim text) with
  | none => .malformed
  | some cs =>
      let (negative, digits) := cutSign cs
      if digits.isEmpty || !digits.all Char.isDigit then .malformed
      else if digits.length > maxIntDigits then .tooLong digits.length
      else .value (signed negative (digitsValue digits))

end GridScript.Number
