import GridScript.Number.FloatText
import GridScript.Value.Failure

namespace GridScript.Format

/-!
# Serial dates

A date is a number of days, and its fraction is the time of day: 1 is the first
of January 1900. Serials below 61 are moved by a day, because the calendar of
spreadsheets has a 29th of February 1900. Dates end with the year 9999.
-/

open GridScript.Number

/-- A date and a time of day. -/
structure Moment where
  year : Nat
  month : Nat
  day : Nat
  hour : Nat
  minute : Nat
  second : Nat
  /-- Days after Monday. -/
  weekday : Nat
  deriving Repr, DecidableEq

/-- Days from the first of March of the year 0 to the 30th of December 1899. -/
def epochDay : Nat := 693899

/-- The last day of the year 9999, counted from the 30th of December 1899. -/
def lastDay : Nat := 2958465

/-- Year, month and day of a day counted from the first of March of the year 0. -/
def civil (day : Nat) : Nat × Nat × Nat :=
  let era := day / 146097
  let dayOfEra := day % 146097
  let yearOfEra :=
    (dayOfEra - dayOfEra / 1460 + dayOfEra / 36524 - dayOfEra / 146096) / 365
  let dayOfYear := dayOfEra - (365 * yearOfEra + yearOfEra / 4 - yearOfEra / 100)
  let fromMarch := (5 * dayOfYear + 2) / 153
  let dayOfMonth := dayOfYear - (153 * fromMarch + 2) / 5 + 1
  let month := if fromMarch < 10 then fromMarch + 3 else fromMarch - 9
  let year := yearOfEra + era * 400 + (if month ≤ 2 then 1 else 0)
  (year, month, dayOfMonth)

/-- The moment so many seconds after the start of the 30th of December 1899. -/
def Moment.ofSeconds? (seconds : Nat) : Option Moment :=
  let days := seconds / 86400
  if days > lastDay then none
  else
    let time := seconds % 86400
    let (year, month, day) := civil (days + epochDay)
    some {
      year := year
      month := month
      day := day
      hour := time / 3600
      minute := time / 60 % 60
      second := time % 60
      weekday := (days + 5) % 7 }

/-- The moment of a serial number, rounded to seconds. -/
def Moment.ofSerial (serial : Float) : Except Breach (Option Moment) :=
  if !serial.isFinite || serial < 0 then .ok none
  else
    match nearest? (serial * 86400) with
    | none => .error .overflow
    | some seconds =>
        let shifted := seconds.toNat + (if serial < 61 then 86400 else 0)
        .ok (Moment.ofSeconds? shifted)

/-- A number with leading zeros up to a width. -/
def padded (width n : Nat) : List Char :=
  padLeft width (digitChars n)

/-- Date and time in the order of the calendar standard. -/
def Moment.text (m : Moment) : String :=
  String.ofList (
    padded 4 m.year ++ '-' :: padded 2 m.month ++ '-' :: padded 2 m.day ++ 'T' ::
      padded 2 m.hour ++ ':' :: padded 2 m.minute ++ ':' :: padded 2 m.second)

end GridScript.Format
