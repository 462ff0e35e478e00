import GridScript.Format.Fixed
import GridScript.Value.Display
import GridScript.Value.Order

namespace GridScript.Format

/-!
# Custom patterns

A custom pattern with an unquoted `@` shows the general text of the value there.
Otherwise it is a number pattern: the placeholders `0`, `#` and `?` from the
first to the last form its core, which holds nothing else but commas and one
point, and the text before and after is shown around the number. A pattern that
is neither is shown as it is.
-/

open GridScript.Number

/-!
## Sections of a format code

A format code holds sections for positive numbers, negative numbers,
zero and text, separated by semicolons. A semicolon inside double quotes
or after a backslash belongs to its section, and sections keep their
quotes and backslashes.
-/

/-- Where the reader of a format code stands. -/
structure Reader where
  quoted : Bool
  escaped : Bool
  deriving Repr, DecidableEq

/-- Outside quotes, with no backslash pending. -/
def Reader.start : Reader := ⟨false, false⟩

/-- The place after one more character. -/
def Reader.next (reader : Reader) (c : Char) : Reader :=
  if reader.escaped then { reader with escaped := false }
  else if c = '\\' then { reader with escaped := true }
  else if c = '"' then { reader with quoted := !reader.quoted }
  else reader

/-- The character separates two sections. -/
def Reader.separates (reader : Reader) (c : Char) : Bool :=
  !reader.escaped && !reader.quoted && c == ';'

/-- The sections of a code; `current` holds the current one in reverse. -/
def sectionsFrom
    (reader : Reader)
    (current : List Char) : List Char → List (List Char)
  | [] => [current.reverse]
  | c :: rest =>
      if reader.separates c then current.reverse :: sectionsFrom reader [] rest
      else sectionsFrom (reader.next c) (c :: current) rest

/-- The sections of a format code. -/
def sections (code : List Char) : List (List Char) :=
  sectionsFrom .start [] code

/-- Each character that is shown, with whether it was quoted or escaped. -/
def markLiterals (reader : Reader) : List Char → List (Char × Bool)
  | [] => []
  | c :: rest =>
      let after := markLiterals (reader.next c) rest
      if reader.escaped then (c, true) :: after
      else if c = '\\' || c = '"' then after
      else (c, reader.quoted) :: after

/-! ## Patterns -/

/-- The text of a value without a format. -/
def general : Value → List Char
  | .null => []
  | .bool b => if b then "TRUE".toList else "FALSE".toList
  | v => v.display.toList

/-- Most decimals of a custom pattern. -/
def maxDecimals : Nat := 30

/-- The finite number that a value is. -/
def finiteNumber? (v : Value) : Option Number :=
  match v.number? with
  | some (.float x) => if x.isFinite then some (.float x) else none
  | n => n

/-- An unquoted digit placeholder. -/
def isSlot (mark : Char × Bool) : Bool :=
  !mark.2 && (mark.1 == '0' || mark.1 == '#' || mark.1 == '?')

/-- A mark that the core of a number pattern may hold. -/
def isCoreMark (mark : Char × Bool) : Bool :=
  !mark.2 &&
    (mark.1 == '0' || mark.1 == '#' || mark.1 == '?' || mark.1 == ',' ||
      mark.1 == '.')

/-- A pattern cut before its first and after its last placeholder. -/
structure Cut where
  before : List (Char × Bool)
  core : List (Char × Bool)
  after : List (Char × Bool)

/-- The cut of a pattern with a placeholder. -/
def cutPattern (marks : List (Char × Bool)) : Cut :=
  let before := marks.takeWhile fun mark => !isSlot mark
  let rest := marks.dropWhile fun mark => !isSlot mark
  let after := (rest.reverse.takeWhile fun mark => !isSlot mark).reverse
  ⟨before, rest.take (rest.length - after.length), after⟩

/-- Position after the last `0`; zero without one. -/
def requiredDigits (cs : List Char) : Nat :=
  (cs.reverse.dropWhile (· != '0')).length

/-- Digits without the zeros at their end. -/
def dropTrailingZeros (cs : List Char) : List Char :=
  (cs.reverse.dropWhile (· == '0')).reverse

/-- Text filled with zeros at the end up to a width. -/
def padRight (width : Nat) (cs : List Char) : List Char :=
  cs ++ List.replicate (width - cs.length) '0'

/-- The number times one hundred, so many times. -/
def timesHundred : Nat → Number → Number
  | 0, n => n
  | k + 1, .int i => timesHundred k (.int (i * 100))
  | k + 1, .float x => timesHundred k (.float (x * 100))

/-- A number pattern. -/
structure NumberPattern where
  before : List Char
  after : List Char
  /-- Most decimals shown. -/
  decimals : Nat
  /-- Least decimals shown. -/
  required : Nat
  /-- Least digits before the point. -/
  wholeDigits : Nat
  thousands : Bool
  percents : Nat
  deriving Repr, DecidableEq

/-- The number pattern of a cut; none if its core holds anything else. -/
def Cut.numberPattern? (cut : Cut) : Option NumberPattern :=
  let core := cut.core.map Prod.fst
  if !cut.core.all isCoreMark || core.count '.' > 1 then none
  else
    let whole := core.takeWhile (· != '.')
    let fraction := (core.dropWhile (· != '.')).drop 1
    some {
      before := cut.before.map Prod.fst
      after := cut.after.map Prod.fst
      decimals := min fraction.length maxDecimals
      required := requiredDigits fraction
      wholeDigits := whole.count '0'
      thousands := whole.contains ','
      percents := (cut.before ++ cut.after).count ('%', false) }

/-- Digits in groups of three; the last group may be shorter. -/
def triples : List Char → List (List Char)
  | [] => []
  | a :: b :: c :: rest => [a, b, c] :: triples rest
  | cs => [cs]

/-- Digits in groups of three with commas between them; the first
group may be shorter. -/
def groupFromLeft (digits : List Char) : List Char :=
  let first := if digits.length % 3 = 0 then 3 else digits.length % 3
  digits.take first ++ (triples (digits.drop first)).flatMap (',' :: ·)

/-- A digit other than zero. -/
def hasNonzero (cs : List Char) : Bool :=
  cs.any (· != '0')

/-- The digits as a number pattern shows them. -/
def NumberPattern.digits
    (pattern : NumberPattern)
    (digits : FixedDigits) : FixedDigits :=
  let fraction :=
    if digits.fraction.isEmpty then []
    else padRight pattern.required (dropTrailingZeros digits.fraction)
  let whole :=
    if pattern.wholeDigits = 0 && digits.whole == ['0'] then [] else digits.whole
  let filled := padLeft pattern.wholeDigits whole
  ⟨if pattern.thousands then groupFromLeft filled else filled, fraction⟩

/-- A number written by a number pattern. -/
def NumberPattern.render
    (pattern : NumberPattern)
    (n : Number) : Except Breach (List Char) := do
  let scaled := timesHundred pattern.percents n
  let shown := pattern.digits (← fixed scaled pattern.decimals)
  let negative :=
    scaled.less (.int 0) && (hasNonzero shown.whole || hasNonzero shown.fraction)
  return (if negative then ['-'] else []) ++ pattern.before ++ shown.whole ++
    pointed shown.fraction ++ pattern.after

/-- A value written by a custom pattern. -/
def renderCustom (pattern : List Char) (v : Value) : Except Breach (List Char) :=
  let marks := markLiterals .start pattern
  if marks.contains ('@', false) then
    .ok (marks.flatMap fun mark =>
      if mark == ('@', false) then general v else [mark.1])
  else if !marks.any isSlot then .ok pattern
  else
    match finiteNumber? v with
    | none => .ok (general v)
    | some n =>
        match (cutPattern marks).numberPattern? with
        | none => .ok pattern
        | some numberPattern => numberPattern.render n

end GridScript.Format
