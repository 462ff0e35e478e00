import GridScript.Json.Basic
import GridScript.Number.Reading

namespace GridScript.Yaml

/-!
# Plain scalars

A plain scalar is null, a truth value or a number if it has the form of one, and
else a text. Integers may be written with base 2, 8 or 16 and with underscores,
and in groups of base 60.
-/

open GridScript.Number

/-- The words for null. -/
def nullWords : List String := ["", "~", "null", "Null", "NULL"]

/-- The words for true. -/
def trueWords : List String :=
  ["yes", "Yes", "YES", "true", "True", "TRUE", "on", "On", "ON"]

/-- The words for false. -/
def falseWords : List String :=
  ["no", "No", "NO", "false", "False", "FALSE", "off", "Off", "OFF"]

/-- The value of a digit in bases up to sixteen. -/
def digitValue? (c : Char) : Option Nat :=
  if '0' ≤ c ∧ c ≤ '9' then some (c.toNat - 48)
  else if 'a' ≤ c ∧ c ≤ 'f' then some (c.toNat - 87)
  else if 'A' ≤ c ∧ c ≤ 'F' then some (c.toNat - 55)
  else none

/-- The number that digits denote in a base; underscores are passed over. -/
def digitsIn? (base : Nat) (cs : List Char) : Option Nat :=
  let step (n : Nat) (c : Char) : Option Nat := do
    let d ← digitValue? c
    if d < base then some (n * base + d) else none
  (cs.filter (· != '_')).foldlM step 0

/-- The number that digits denote in a base, of which there must be some. -/
def someDigitsIn? (base : Nat) (cs : List Char) : Option Nat :=
  if cs.all (· == '_') then none else digitsIn? base cs

/-- The texts between colons. -/
def colonParts (cs : List Char) : List (List Char) :=
  (String.ofList cs).splitOn ":" |>.map String.toList

/-- A group of base 60: one or two digits below sixty. -/
def sixtieth? (cs : List Char) : Option Nat :=
  match digitsIn? 10 cs with
  | some n =>
      if cs.length ≤ 2 ∧ !cs.isEmpty ∧ cs.all Char.isDigit ∧ n < 60 then some n
      else none
  | none => none

/-- A decimal number without a leading zero. -/
def decimal? (cs : List Char) : Option Nat :=
  match cs with
  | ['0'] => some 0
  | c :: _ => if '1' ≤ c ∧ c ≤ '9' then digitsIn? 10 cs else none
  | [] => none

/-- The integer that characters without a sign denote. -/
def natural? (cs : List Char) : Option Nat :=
  match cs with
  | '0' :: 'b' :: rest => someDigitsIn? 2 rest
  | '0' :: 'x' :: rest => someDigitsIn? 16 rest
  | '0' :: d :: rest => digitsIn? 8 (d :: rest)
  | cs =>
      match colonParts cs with
      | first :: second :: rest => do
          let head ← decimal? first
          if head = 0 then none
          else
            let groups ← (second :: rest).mapM sixtieth?
            return groups.foldl (fun n group => n * 60 + group) head
      | _ => decimal? cs

/-- Digits and underscores. -/
def isDigitText (cs : List Char) : Bool :=
  cs.all fun c => c.isDigit || c == '_'

/-- An exponent with a sign, or nothing. -/
def isExponent : List Char → Bool
  | [] => true
  | e :: sign :: d :: rest =>
      (e == 'e' || e == 'E') && (sign == '+' || sign == '-') &&
        (d :: rest).all Char.isDigit
  | _ => false

/-- The form of a float with a point, without its sign; `bare` allows no
digit before the point. -/
def isPointed (bare : Bool) (cs : List Char) : Bool :=
  let isExponentMark (c : Char) : Bool := c == 'e' || c == 'E'
  let whole := cs.takeWhile (· != '.')
  match cs.drop whole.length with
  | _ :: rest =>
      let fraction := rest.takeWhile fun c => !isExponentMark c
      let exponent := rest.drop fraction.length
      isDigitText fraction && isExponent exponent &&
        (match whole with
          | [] => bare && (fraction.head?.map Char.isDigit).getD false
          | d :: more => d.isDigit && isDigitText more)
  | [] => false

/-- The float that characters without a sign denote. -/
def magnitude? (signed : Bool) (cs : List Char) : Option Float :=
  if cs = ['.', 'i', 'n', 'f'] ∨ cs = ['.', 'I', 'n', 'f'] ∨
      cs = ['.', 'I', 'N', 'F'] then
    some infinity
  else if isPointed (!signed) cs then readFloat? (cs.filter (· != '_'))
  else none

/-- Characters without a sign, and whether it was there and negative. -/
def cutSign (cs : List Char) : Option Bool × List Char :=
  match cs with
  | '-' :: rest => (some true, rest)
  | '+' :: rest => (some false, rest)
  | cs => (none, cs)

/-- The number that a plain scalar denotes. -/
def number? (text : List Char) : Option Json :=
  let (sign, cs) := cutSign text
  let negative := sign.getD false
  match natural? cs with
  | some n => some (.int (if negative then -n else n))
  | none =>
      match magnitude? sign.isSome cs with
      | some x => some (.float (withSign negative x))
      | none =>
          if [".nan", ".NaN", ".NAN"].contains (String.ofList text) then
            some (.float undefined)
          else none

/-- The document of a plain scalar; an equals sign alone has none. -/
def scalar? (text : List Char) : Option Json :=
  let s := String.ofList text
  if nullWords.contains s then some .null
  else if trueWords.contains s then some (.bool true)
  else if falseWords.contains s then some (.bool false)
  else if s == "=" then none
  else some ((number? text).getD (.string s))

end GridScript.Yaml
