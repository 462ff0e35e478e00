import GridScript.Parsing.Lexicon
import GridScript.Sheet.Address
import GridScript.Text.Case

namespace GridScript.Formula

/-!
# Tokens of formulas

References are tried before names, the qualified ones first and ranges
before single cells. Addresses are written in capitals, so a name in lower
case is never an address.
-/

open GridScript.Parsing
open GridScript.Text

/-- Operators and punctuation. -/
inductive Mark where
  | greaterEqual
  | lessEqual
  | angles
  | dollar
  | percent
  | ampersand
  | openParen
  | closeParen
  | star
  | plus
  | comma
  | minus
  | slash
  | less
  | equal
  | greater
  | caret
  deriving Repr, DecidableEq

namespace Mark

/-- The text of a mark. -/
def text : Mark → String
  | greaterEqual => ">="
  | lessEqual => "<="
  | angles => "<>"
  | dollar => "$"
  | percent => "%"
  | ampersand => "&"
  | openParen => "("
  | closeParen => ")"
  | star => "*"
  | plus => "+"
  | comma => ","
  | minus => "-"
  | slash => "/"
  | less => "<"
  | equal => "="
  | greater => ">"
  | caret => "^"

/-- The word for a mark in messages. -/
def label : Mark → String
  | greaterEqual => "__ANON_0"
  | lessEqual => "__ANON_1"
  | angles => "__ANON_2"
  | dollar => "DOLLAR"
  | percent => "PERCENT"
  | ampersand => "AMPERSAND"
  | openParen => "LPAR"
  | closeParen => "RPAR"
  | star => "STAR"
  | plus => "PLUS"
  | comma => "COMMA"
  | minus => "MINUS"
  | slash => "SLASH"
  | less => "LESSTHAN"
  | equal => "EQUAL"
  | greater => "MORETHAN"
  | caret => "CIRCUMFLEX"

/-- The marks, the longer ones first. -/
def all : List Mark :=
  [greaterEqual, lessEqual, angles, dollar, percent, ampersand, openParen,
    closeParen, star, plus, comma, minus, slash, less, equal, greater, caret]

end Mark

/-- The kinds of tokens of formulas. -/
inductive Terminal where
  | sheetRange
  | quotedSheetRange
  | range
  | sheetCell
  | quotedSheetCell
  | cell
  | truth
  | name
  | number
  | string
  | blank
  | mark (mark : Mark)
  | finish
  deriving Repr, DecidableEq

/-- The word for a kind of token in messages. -/
def Terminal.label : Terminal → String
  | sheetRange => "SHEET_RANGE"
  | quotedSheetRange => "QUOTED_SHEET_RANGE"
  | range => "CELL_RANGE"
  | sheetCell => "SHEET_REF"
  | quotedSheetCell => "QUOTED_SHEET_REF"
  | cell => "CELL_REF"
  | truth => "BOOL"
  | name => "NAME"
  | number => "NUMBER"
  | string => "ESCAPED_STRING"
  | blank => "WS"
  | mark m => m.label
  | finish => "$END"

/-- A reader of the head of a text gives the length that it read. -/
abbrev Head := List Char → Option Nat

/-- One reader after another. -/
def Head.andThen (first second : Head) : Head := fun cs =>
  match first cs with
  | some n => (second (cs.drop n)).map (n + ·)
  | none => none

/-- Length of an optional dollar sign. -/
def dollarLength : List Char → Nat
  | '$' :: _ => 1
  | _ => 0

/-- Length of one to three capitals that no further capital follows. -/
def lettersLength? : Head := fun cs =>
  match runLength? Address.isCapital cs with
  | some n => if n ≤ 3 then some n else none
  | none => none

/-- Length of the address of a cell. -/
def addressLength? : Head :=
  Head.andThen (fun cs => some (dollarLength cs)) <|
    Head.andThen lettersLength? <|
      Head.andThen (fun cs => some (dollarLength cs)) (runLength? Char.isDigit)

/-- Length of two addresses with a colon between them. -/
def rangeLength? : Head :=
  Head.andThen addressLength? (Head.andThen (fixedLength? [':']) addressLength?)

/-- Length of a plain sheet name and its exclamation mark. -/
def sheetLength? : Head :=
  Head.andThen nameLength? (fixedLength? ['!'])

/-- Length of a sheet name in single quotes and its exclamation mark. -/
def quotedSheetLength? : Head :=
  Head.andThen (fixedLength? ['\'']) <|
    Head.andThen (runLength? (· != '\'')) (fixedLength? ['\'', '!'])

/-- A character that continues a truth word; case is ignored. -/
def continuesTruth (c : Char) : Bool :=
  isNameChar c || standsFor 'i' c || standsFor 's' c || standsFor 'k' c

/-- Length of a truth word in any letter case. -/
def truthLength? (cs : List Char) : Option Nat :=
  match foldedLength? "true".toList cs <|> foldedLength? "false".toList cs with
  | some n =>
      match cs.drop n with
      | c :: _ => if continuesTruth c then none else some n
      | [] => some n
  | none => none

/-- Length of a run of ASCII digits, zero if there is none. -/
def digitsLength (cs : List Char) : Nat :=
  (cs.takeWhile Char.isDigit).length

/-- Length of an exponent with its letter. -/
def exponentLength? : Head := fun cs =>
  match cs with
  | c :: rest =>
      if c = 'e' || c = 'E' then
        let sign :=
          match rest with
          | '+' :: _ => 1
          | '-' :: _ => 1
          | _ => 0
        (runLength? Char.isDigit (rest.drop sign)).map (sign + 1 + ·)
      else none
  | [] => none

/-- Length of digits with a point among, before or after them. -/
def decimalLength? (cs : List Char) : Option Nat :=
  let whole := digitsLength cs
  match cs.drop whole with
  | '.' :: rest =>
      let fraction := digitsLength rest
      if whole + fraction = 0 then none else some (whole + 1 + fraction)
  | _ => none

/-- Length of a number: digits, with a point, an exponent or both. -/
def numberLength? (cs : List Char) : Option Nat :=
  match Head.andThen (runLength? Char.isDigit) exponentLength? cs with
  | some n => some n
  | none =>
      match decimalLength? cs with
      | some n => some (n + (exponentLength? (cs.drop n)).getD 0)
      | none => runLength? Char.isDigit cs

/-- Length of the rest of a string, up to the first quote without an open
backslash before it. -/
def stringRestLength? : List Char → Option Nat
  | '\\' :: c :: rest =>
      if c = '\n' then none else (stringRestLength? rest).map (· + 2)
  | '\\' :: [] => none
  | '"' :: _ => some 1
  | c :: rest => if c = '\n' then none else (stringRestLength? rest).map (· + 1)
  | [] => none

/-- Length of a string in double quotes within a line. -/
def stringLength? : Head := fun cs =>
  match cs with
  | '"' :: rest => (stringRestLength? rest).map (· + 1)
  | _ => none

/-- A blank between tokens. -/
def isSeparator (c : Char) : Bool :=
  c == ' ' || c == '\t' || c == '\x0c' || c == '\r' || c == '\n'

/-- Length of a token of a kind at the head of a text. -/
def Terminal.length? : Terminal → List Char → Option Nat
  | sheetRange, cs => Head.andThen sheetLength? rangeLength? cs
  | quotedSheetRange, cs => Head.andThen quotedSheetLength? rangeLength? cs
  | range, cs => rangeLength? cs
  | sheetCell, cs => Head.andThen sheetLength? addressLength? cs
  | quotedSheetCell, cs => Head.andThen quotedSheetLength? addressLength? cs
  | cell, cs => addressLength? cs
  | truth, cs => truthLength? cs
  | name, cs => nameLength? cs
  | number, cs => numberLength? cs
  | string, cs => stringLength? cs
  | blank, cs => runLength? isSeparator cs
  | mark m, cs => fixedLength? m.text.toList cs
  | finish, _ => none

/-- The kinds of tokens in the order in which they are tried. -/
def Terminal.order : List Terminal :=
  [.sheetRange, .quotedSheetRange, .range, .sheetCell, .quotedSheetCell, .cell,
    .truth, .name, .number, .string, .blank] ++ Mark.all.map .mark

/-- The tokens of formulas. -/
def lexicon : Lexicon Terminal where
  order := Terminal.order
  ignored := [.blank]
  length? := Terminal.length?

end GridScript.Formula
