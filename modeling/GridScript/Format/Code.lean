import GridScript.Format.Custom
import GridScript.Format.Date
import GridScript.Text.Character

namespace GridScript.Format

/-!
# Format codes

A code is classified by its first section, colour marks removed: plain
numbers, currency, percentage, scientific, dates and times have renderers of
their own, and everything else is a custom pattern. `formatValue` chooses
the section by the value and never fails: a value that a section cannot show
gets its general text.
-/

open GridScript.Number
open GridScript.Text

/-- What one section of a code shows. -/
inductive Style where
  | general
  | number (decimals : Nat) (thousands : Bool)
  | currency (symbol : Char) (decimals : Nat) (thousands : Bool)
  | percentage (decimals : Nat)
  | scientific (decimals : Nat)
  | date (tokens : List DateToken)
  | time (tokens : List DateToken)
  | custom
  deriving Repr, DecidableEq

/-- The word for a style. -/
def Style.word : Style → String
  | general => "general"
  | number .. => "number"
  | currency .. => "currency"
  | percentage .. => "percentage"
  | scientific .. => "scientific"
  | date _ => "date"
  | time _ => "time"
  | custom => "custom"

/-- A classified section and its text without colour marks. -/
structure NumberFormat where
  style : Style
  pattern : List Char
  deriving Repr, DecidableEq

/-- Names of colours that a code may hold. -/
def colorNames : List (List Char) :=
  ["black", "white", "red", "green", "blue", "yellow", "magenta", "cyan"].map
    String.toList

/-- The text after a word, letter case ignored. -/
def dropWord? : List Char → List Char → Option (List Char)
  | [], cs => some cs
  | _ :: _, [] => none
  | p :: word, c :: cs => if standsFor p c then dropWord? word cs else none

/-- The text after a closing bracket. -/
def dropBracket? : List Char → Option (List Char)
  | ']' :: rest => some rest
  | _ => none

/-- The text after a numbered colour and a closing bracket. -/
def dropNumbered? (cs : List Char) : Option (List Char) := do
  let rest ← dropWord? "color".toList cs
  let digits := rest.dropWhile isBlank
  let after := digits.dropWhile isDecimalDigit
  if after.length = digits.length then none else dropBracket? after

/-- The text after a colour and a closing bracket. -/
def dropColor? (cs : List Char) : Option (List Char) :=
  match colorNames.findSome? fun name => (dropWord? name cs).bind dropBracket? with
  | some rest => some rest
  | none => dropNumbered? cs

/-- Text without colour marks; `skip` characters of a mark are passed over. -/
def withoutColors (skip : Nat) : List Char → List Char
  | [] => []
  | c :: rest =>
      match skip with
      | skip + 1 => withoutColors skip rest
      | 0 =>
          if c = '[' then
            match dropColor? rest with
            | some after => withoutColors (rest.length - after.length) rest
            | none => c :: withoutColors 0 rest
          else c :: withoutColors 0 rest

/-- Decimals of a text that is empty or a point and zeros. -/
def zeroDecimals? : List Char → Option Nat
  | [] => some 0
  | '.' :: '0' :: zeros =>
      if zeros.all (· == '0') then some (zeros.length + 1) else none
  | _ => none

/-- Thousands and decimals of a plain number code such as `#,##0.00`. -/
def plainCode? : List Char → Option (Bool × Nat)
  | '#' :: ',' :: '#' :: '#' :: '0' :: rest => (zeroDecimals? rest).map (true, ·)
  | '0' :: rest => (zeroDecimals? rest).map (false, ·)
  | _ => none

/-- A symbol of a currency code. -/
def isCurrency (c : Char) : Bool :=
  ['$', '€', '£', '¥'].contains c

/-- Decimals of a percentage code such as `0.0%`. -/
def percentCode? (cs : List Char) : Option Nat :=
  match cs.reverse with
  | '%' :: rest =>
      match rest.reverse with
      | '0' :: zeros => zeroDecimals? zeros
      | _ => none
  | _ => none

/-- Decimals of a scientific code such as `0.00E+00`. -/
def scientificCode? : List Char → Option Nat
  | '0' :: rest =>
      let mantissa := rest.takeWhile fun c => c == '.' || c == '0'
      match rest.dropWhile fun c => c == '.' || c == '0' with
      | e :: s :: '0' :: zeros =>
          if (e == 'e' || e == 'E') && (s == '+' || s == '-') &&
              zeros.all (· == '0') then
            zeroDecimals? mantissa
          else none
      | _ => none
  | _ => none

/-- The style of a section without colour marks and blank ends. -/
def classify (cs : List Char) : Style :=
  if cs.isEmpty || lower (String.ofList cs) == "general" then .general
  else
    match plainCode? cs with
    | some (thousands, decimals) => .number decimals thousands
    | none =>
        let currency :=
          match cs with
          | c :: rest => if isCurrency c then (plainCode? rest).map (c, ·) else none
          | [] => none
        match currency with
        | some (symbol, thousands, decimals) => .currency symbol decimals thousands
        | none =>
            match percentCode? cs with
            | some decimals => .percentage decimals
            | none =>
                match scientificCode? cs with
                | some decimals => .scientific decimals
                | none =>
                    match dateTokens? cs with
                    | some tokens =>
                        if isTimeOnly tokens then .time tokens else .date tokens
                    | none => .custom

/-- The first section of a code, classified. -/
def NumberFormat.parse (code : List Char) : NumberFormat :=
  let pattern := trim (withoutColors 0 ((sections code).headD []))
  ⟨classify pattern, pattern⟩

/-- A digit other than zero among digits, commas and points. -/
def isVisible (cs : List Char) : Bool :=
  cs.any fun c => c != '0' && c != '.' && c != ','

/-- A minus sign for a negative number whose digits are not all zero. -/
def visibleSign (n : Number) (digits : List Char) : List Char :=
  if n.less (.int 0) && isVisible digits then ['-'] else []

/-- A number written by a section. -/
def NumberFormat.formatNumber
    (format : NumberFormat)
    (n : Number) : Except Breach (List Char) := do
  match format.style with
  | .general => return general n.value
  | .custom => renderCustom format.pattern n.value
  | .number decimals thousands =>
      let digits := (← fixed n decimals).chars thousands
      return visibleSign n digits ++ digits
  | .currency symbol decimals thousands =>
      let digits := (← fixed n decimals).chars thousands
      return visibleSign n digits ++ symbol :: digits
  | .percentage decimals =>
      let digits := (← fixed (timesHundred 1 n) decimals).chars false
      return visibleSign n digits ++ digits ++ ['%']
  | .scientific decimals => return scientificText (← n.toFloat) decimals
  | .date tokens | .time tokens =>
      match ← Moment.ofSerial (← n.toFloat) with
      | some moment => return renderDate tokens moment
      | none => return general n.value

/-- A value written by a section. -/
def NumberFormat.format
    (format : NumberFormat)
    (v : Value) : Except Breach (List Char) :=
  match format.style with
  | .general => .ok (general v)
  | .custom => renderCustom format.pattern v
  | _ =>
      match finiteNumber? v with
      | some n => format.formatNumber n
      | none => .ok (general v)

/-- The number with the opposite sign. -/
def negated : Number → Number
  | .int i => .int (-i)
  | .float x => .float (-x)

/-- The section for a value, and the value that it shows; none if text
is shown as it is. -/
def choose (code : List Char) (v : Value) : Option (List Char × Value) :=
  let all := sections code
  let first := all.headD []
  match v, v.number? with
  | .string _, _ =>
      let chosen := if all.length ≥ 4 then all.getD 3 [] else first
      if chosen.contains '@' then some (chosen, v) else none
  | _, some n =>
      if all.length > 1 then
        if n.less (.int 0) then some (all.getD 1 [], (negated n).value)
        else if n.isZero && all.length ≥ 3 then some (all.getD 2 [], v)
        else some (first, v)
      else some (first, v)
  | _, none => some (first, v)

/-- A value written by a format code. -/
def formatValue (v : Value) (code : String) : String :=
  match choose code.toList v with
  | none => v.display
  | some (chosen, shown) =>
      match (NumberFormat.parse chosen).format shown with
      | .ok cs => String.ofList cs
      | .error _ => String.ofList (general shown)

end GridScript.Format
