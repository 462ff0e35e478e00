import GridScript.Json.Basic
import GridScript.Number.Reading

namespace GridScript.Json

/-!
# Reading JSON

A document is read from its characters; of several members with one key the
last value counts, in the place of the first. `NaN`, `Infinity` and `-Infinity`
are read as floats.
-/

open GridScript.Number

/-- Text after blanks. -/
def skipBlanks (cs : List Char) : List Char :=
  cs.dropWhile fun c => c == ' ' || c == '\t' || c == '\n' || c == '\r'

/-- The text after a word. -/
def dropLiteral? : List Char → List Char → Option (List Char)
  | [], cs => some cs
  | _ :: _, [] => none
  | p :: word, c :: cs => if p = c then dropLiteral? word cs else none

/-- The value of a hexadecimal digit. -/
def hexValue? (c : Char) : Option Nat :=
  if '0' ≤ c ∧ c ≤ '9' then some (c.val.toNat - 48)
  else if 'a' ≤ c ∧ c ≤ 'f' then some (c.val.toNat - 87)
  else if 'A' ≤ c ∧ c ≤ 'F' then some (c.val.toNat - 55)
  else none

/-- Four hexadecimal digits and the text after them. -/
def readCode? : List Char → Option (Nat × List Char)
  | a :: b :: c :: d :: rest => do
      let a ← hexValue? a
      let b ← hexValue? b
      let c ← hexValue? c
      let d ← hexValue? d
      return (((a * 16 + b) * 16 + c) * 16 + d, rest)
  | _ => none

/-- The character of an escape code; two codes of a surrogate pair
make one character. -/
def readUnicode? (cs : List Char) : Option (Char × List Char) := do
  let (code, rest) ← readCode? cs
  if 0xD800 ≤ code ∧ code < 0xDC00 then
    match rest with
    | '\\' :: 'u' :: more => do
        let (low, rest) ← readCode? more
        if 0xDC00 ≤ low ∧ low < 0xE000 then
          return (Char.ofNat (0x10000 + (code - 0xD800) * 1024 + (low - 0xDC00)),
            rest)
        else return (Char.ofNat 0xFFFD, more)
    | _ => return (Char.ofNat 0xFFFD, rest)
  else return (Char.ofNat code, rest)

/-- The character of a short escape. -/
def shortEscape? (c : Char) : Option Char :=
  match c with
  | '"' => some '"'
  | '\\' => some '\\'
  | '/' => some '/'
  | 'b' => some '\x08'
  | 'f' => some '\x0c'
  | 'n' => some '\n'
  | 'r' => some '\r'
  | 't' => some '\t'
  | _ => none

/-- The body of a string up to its closing quote; `done` holds what
is read, in reverse. -/
def readBody? : Nat → List Char → List Char → Option (String × List Char)
  | 0, _, _ => none
  | _, _, [] => none
  | fuel + 1, done, c :: rest =>
      if c = '"' then some (String.ofList done.reverse, rest)
      else if c = '\\' then
        match rest with
        | 'u' :: code => do
            let (c, rest) ← readUnicode? code
            readBody? fuel (c :: done) rest
        | e :: rest => do
            let c ← shortEscape? e
            readBody? fuel (c :: done) rest
        | [] => none
      else if c.val < 32 then none
      else readBody? fuel (c :: done) rest

/-- Digits without a leading zero, unless zero is all. -/
def wholeDigits? (cs : List Char) : Option (List Char × List Char) :=
  match cs with
  | '0' :: rest => some (['0'], rest)
  | cs =>
      let digits := cs.takeWhile Char.isDigit
      if digits.isEmpty then none else some (digits, cs.dropWhile Char.isDigit)

/-- A point and digits, or nothing. -/
def fractionDigits (cs : List Char) : List Char × List Char :=
  match cs with
  | '.' :: rest =>
      let digits := rest.takeWhile Char.isDigit
      if digits.isEmpty then ([], cs) else (digits, rest.dropWhile Char.isDigit)
  | cs => ([], cs)

/-- An exponent with its sign, or nothing. -/
def exponentDigits (cs : List Char) : List Char × List Char :=
  match cs with
  | e :: rest =>
      if e = 'e' ∨ e = 'E' then
        let sign :=
          match rest with
          | '-' :: _ => ['-']
          | '+' :: _ => ['+']
          | _ => []
        let body := rest.drop sign.length
        let digits := body.takeWhile Char.isDigit
        if digits.isEmpty then ([], cs)
        else ('e' :: sign ++ digits, body.dropWhile Char.isDigit)
      else ([], cs)
  | [] => ([], [])

/-- A number without its sign. -/
def readNumber? (negative : Bool) (cs : List Char) : Option (Json × List Char) := do
  let (whole, rest) ← wholeDigits? cs
  let (fraction, rest) := fractionDigits rest
  let (exponent, rest) := exponentDigits rest
  if fraction.isEmpty && exponent.isEmpty then
    return (.int (signed negative (digitsValue whole)), rest)
  else
    let e := (exponentValue? exponent).getD 0
    let x := nearestFloat (digitsValue (whole ++ fraction)) (e - fraction.length)
    return (.float (withSign negative x), rest)

mutual

/-- A value at the head of the text, and the text after it. -/
def readValue? : Nat → List Char → Option (Json × List Char)
  | 0, _ => none
  | fuel + 1, cs =>
      match cs with
      | '"' :: rest => (readBody? (fuel + 1) [] rest).map fun (s, rest) =>
        (.string s, rest)
      | '[' :: rest =>
          match skipBlanks rest with
          | ']' :: rest => some (.array [], rest)
          | rest => readItems? fuel [] rest
      | '\x7b' :: rest =>
          match skipBlanks rest with
          | '\x7d' :: rest => some (.object [], rest)
          | rest => readMembers? fuel [] rest
      | 't' :: _ => (dropLiteral? "true".toList cs).map (.bool true, ·)
      | 'f' :: _ => (dropLiteral? "false".toList cs).map (.bool false, ·)
      | 'n' :: _ => (dropLiteral? "null".toList cs).map (.null, ·)
      | 'N' :: _ => (dropLiteral? "NaN".toList cs).map (.float undefined, ·)
      | 'I' :: _ => (dropLiteral? "Infinity".toList cs).map (.float infinity, ·)
      | '-' :: 'I' :: rest =>
          (dropLiteral? "nfinity".toList rest).map (.float (-infinity), ·)
      | '-' :: rest => readNumber? true rest
      | cs => readNumber? false cs

/-- Items up to the closing bracket; `done` holds the items read, in reverse. -/
def readItems? : Nat → List Json → List Char → Option (Json × List Char)
  | 0, _, _ => none
  | fuel + 1, done, cs => do
      let (item, rest) ← readValue? fuel (skipBlanks cs)
      match skipBlanks rest with
      | ',' :: rest => readItems? fuel (item :: done) rest
      | ']' :: rest => return (.array (item :: done).reverse, rest)
      | _ => none

/-- Members up to the closing brace; `done` holds the members read. -/
def readMembers? :
    Nat → List (String × Json) → List Char → Option (Json × List Char)
  | 0, _, _ => none
  | fuel + 1, done, cs =>
      match skipBlanks cs with
      | '"' :: body => do
          let (key, rest) ← readBody? (fuel + 1) [] body
          match skipBlanks rest with
          | ':' :: rest => do
              let (value, rest) ← readValue? fuel (skipBlanks rest)
              let members := insertMember key value done
              match skipBlanks rest with
              | ',' :: rest => readMembers? fuel members rest
              | '\x7d' :: rest => return (.object members, rest)
              | _ => none
          | _ => none
      | _ => none

end

/-- The document that a text holds. -/
def parse? (cs : List Char) : Option Json := do
  let (value, rest) ← readValue? (2 * cs.length + 2) (skipBlanks cs)
  if (skipBlanks rest).isEmpty then return value else none

end GridScript.Json
