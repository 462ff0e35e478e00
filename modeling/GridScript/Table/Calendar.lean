import GridScript.Number.FloatText
import GridScript.Sheet.Cell

namespace GridScript.Table

/-!
# Entries of typed columns

Entries of a frame from elsewhere may be dates and times. In a sheet they are
text: dates as year-month-day, times as hour:minute:second with six further
digits where there is a fraction.
-/

open GridScript.Number

/-- A day. -/
structure Date where
  year : Nat
  month : Nat
  day : Nat
  deriving Repr, DecidableEq

/-- A time of a day. -/
structure Time where
  hour : Nat
  minute : Nat
  second : Nat
  microsecond : Nat
  deriving Repr, DecidableEq

/-- A number with leading zeros. -/
def padded (width n : Nat) : String :=
  String.ofList (padLeft width (digitChars n))

/-- The text of a day. -/
def Date.text (date : Date) : String :=
  s!"{padded 4 date.year}-{padded 2 date.month}-{padded 2 date.day}"

/-- The text of a time. -/
def Time.text (time : Time) : String :=
  let clock :=
    s!"{padded 2 time.hour}:{padded 2 time.minute}:{padded 2 time.second}"
  if time.microsecond = 0 then clock else s!"{clock}.{padded 6 time.microsecond}"

/-- An entry of a typed column. -/
inductive Entry where
  | null
  | bool (b : Bool)
  | int (i : Int)
  | float (x : Float)
  | text (s : String)
  | date (date : Date)
  | time (time : Time)
  | moment (date : Date) (time : Time)
  deriving Repr

/-- The value of an entry. -/
def Entry.value : Entry → Value
  | null => .null
  | bool b => .bool b
  | int i => .int i
  | float x => .float x
  | text s => .string s
  | date d => .string d.text
  | time t => .string t.text
  | moment d t => .string (d.text ++ "T" ++ t.text)

/-- The cell of an entry. -/
def Entry.cell (entry : Entry) : Outcome SheetError Cell :=
  Cell.ofValue entry.value

end GridScript.Table
