import GridScript.Format.Moment
import GridScript.Text.Case

namespace GridScript.Format

/-!
# Date patterns

A date pattern is made of date parts, quoted or escaped text and a few
separators. `m` and `mm` mean minutes next to hours or seconds.
-/

open GridScript.Number
open GridScript.Text

/-- A piece of a date pattern. -/
inductive DateToken where
  /-- A date part, in lower case. -/
  | code (text : List Char)
  | literal (text : List Char)
  deriving Repr, DecidableEq

/-- The date parts of more than one letter, and `m`, `d`, `h`, `s`, in the
order they are tried. -/
def dateCodes : List (List Char) :=
  ["am/pm", "a/p", "yyyy", "yy", "mmmmm", "mmmm", "mmm", "mm", "m", "dddd", "ddd",
    "dd", "d", "hh", "h", "ss", "s"].map String.toList

/-- Characters that may stand between date parts. -/
def dateSeparators : List Char :=
  " -/.:,()".toList

/-- The text starts with a code, letter case ignored. -/
def startsWithCode : List Char → List Char → Bool
  | [], _ => true
  | _ :: _, [] => false
  | p :: code, c :: cs => standsFor p c && startsWithCode code cs

/-- Length of the piece at the head of a pattern. -/
def dateTokenLength (cs : List Char) : Nat :=
  match cs with
  | [] => 0
  | '"' :: rest =>
      let body := rest.takeWhile (· != '"')
      if body.length < rest.length then body.length + 2 else 1
  | '\\' :: _ :: _ => 2
  | cs =>
      match dateCodes.find? fun code => startsWithCode code cs with
      | some code => code.length
      | none => 1

/-- The meaning of a piece; none for a character that no date pattern holds. -/
def dateToken? (text : List Char) : Option DateToken :=
  match text with
  | '"' :: rest => some (.literal rest.dropLast)
  | '\\' :: rest => some (.literal rest)
  | _ =>
      let word := (lower (String.ofList text)).toList
      if text.length > 1 ||
          (word.length == 1 && word.all (['y', 'm', 'd', 'h', 's'].contains ·)) then
        some (.code word)
      else if text.all (dateSeparators.contains ·) then some (.literal text)
      else none

/-- The pieces of a pattern, at most `fuel` of them. -/
def dateTokensFrom : Nat → List Char → Option (List DateToken)
  | _, [] => some []
  | 0, _ :: _ => none
  | fuel + 1, c :: cs => do
      let length := dateTokenLength (c :: cs)
      let token ← dateToken? ((c :: cs).take length)
      let rest ← dateTokensFrom fuel ((c :: cs).drop length)
      return token :: rest

/-- The code of a piece. -/
def DateToken.code? : DateToken → Option (List Char)
  | code text => some text
  | literal _ => none

/-- The first code among pieces. -/
def firstCode? (tokens : List DateToken) : Option (List Char) :=
  tokens.findSome? DateToken.code?

/-- The code means hours. -/
def isHours (code : List Char) : Bool :=
  code == ['h'] || code == ['h', 'h']

/-- The code means seconds. -/
def isSeconds (code : List Char) : Bool :=
  code == ['s'] || code == ['s', 's']

/-- Pieces in which `m` next to hours or seconds is `n`; `before` is
the code before them. -/
def markMinutes (before : Option (List Char)) : List DateToken → List DateToken
  | [] => []
  | .literal text :: rest => .literal text :: markMinutes before rest
  | .code text :: rest =>
      let minutes :=
        (text == ['m'] || text == ['m', 'm']) &&
          (before.any isHours || (firstCode? rest).any isSeconds)
      let marked := if minutes then text.map fun _ => 'n' else text
      .code marked :: markMinutes (some text) rest

/-- The pieces of a date pattern; none if it holds anything else or no date part. -/
def dateTokens? (pattern : List Char) : Option (List DateToken) := do
  let tokens ← dateTokensFrom pattern.length pattern
  if tokens.any fun token => token.code?.isSome then return markMinutes none tokens
  else none

/-- Codes that tell the time of day. -/
def timeCodes : List (List Char) :=
  ["h", "hh", "s", "ss", "am/pm", "a/p", "n", "nn"].map String.toList

/-- Every code of the pieces tells the time of day. -/
def isTimeOnly (tokens : List DateToken) : Bool :=
  (tokens.filterMap DateToken.code?).all (timeCodes.contains ·)

/-- The months. -/
def monthNames : List String :=
  ["January", "February", "March", "April", "May", "June", "July", "August",
    "September", "October", "November", "December"]

/-- The days of the week, from Monday. -/
def weekdayNames : List String :=
  ["Monday", "Tuesday", "Wednesday", "Thursday", "Friday", "Saturday", "Sunday"]

/-- The name of a month. -/
def monthName (month : Nat) : List Char :=
  (monthNames.getD (month - 1) "").toList

/-- The name of a day of the week. -/
def weekdayName (weekday : Nat) : List Char :=
  (weekdayNames.getD weekday "").toList

/-- The hour as shown: from 1 to 12 when the half of the day is shown too. -/
def shownHour (twelve : Bool) (hour : Nat) : Nat :=
  if twelve then (if hour % 12 = 0 then 12 else hour % 12) else hour

/-- The text of a code at a moment; a code of any other kind stands for itself. -/
def renderCode (twelve : Bool) (m : Moment) (code : List Char) : List Char :=
  let hour := shownHour twelve m.hour
  match String.ofList code with
  | "yyyy" => padded 4 m.year
  | "yy" => padded 2 (m.year % 100)
  | "mmmmm" => (monthName m.month).take 1
  | "mmmm" => monthName m.month
  | "mmm" => (monthName m.month).take 3
  | "mm" => padded 2 m.month
  | "m" => digitChars m.month
  | "dddd" => weekdayName m.weekday
  | "ddd" => (weekdayName m.weekday).take 3
  | "dd" => padded 2 m.day
  | "d" => digitChars m.day
  | "hh" => padded 2 hour
  | "h" => digitChars hour
  | "nn" => padded 2 m.minute
  | "n" => digitChars m.minute
  | "ss" => padded 2 m.second
  | "s" => digitChars m.second
  | "am/pm" => if m.hour < 12 then ['A', 'M'] else ['P', 'M']
  | "a/p" => if m.hour < 12 then ['A'] else ['P']
  | _ => code

/-- The pieces of a pattern show which half of the day it is. -/
def isTwelveHour (tokens : List DateToken) : Bool :=
  tokens.any fun token =>
    token.code?.any fun code => code == "am/pm".toList || code == "a/p".toList

/-- A moment written by the pieces of a pattern. -/
def renderDate (tokens : List DateToken) (m : Moment) : List Char :=
  let twelve := isTwelveHour tokens
  tokens.flatMap fun
    | .code text => renderCode twelve m text
    | .literal text => text

end GridScript.Format
