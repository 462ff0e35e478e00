import GridScript.Text.Case
import GridScript.Text.Character
import GridScript.Text.Search

namespace GridScript.Formula

/-!
# References

A formula refers to a cell or to a rectangular range, on the current sheet or on
a named one. The text of a reference is its normal form: addresses without
dollar signs, and a sheet name in single quotes unless it is made of letters,
digits and underscores and does not begin with a digit.
-/

open GridScript.Text

/-- A reference to a cell or a range; without a sheet name it is on
the current sheet. -/
inductive Reference where
  | cell (sheet : Option String) (address : String)
  | range (sheet : Option String) (start finish : String)
  deriving Repr, DecidableEq

namespace Reference

/-- A sheet name that needs no quotes. -/
def isPlainName (name : String) : Bool :=
  match name.toList with
  | [] => false
  | c :: rest => (c :: rest).all (fun c => c == '_' || isAlphanumeric c) &&
    !isDigitLike c

/-- The sheet name and the exclamation mark before an address. -/
def sheetPart : Option String → String
  | none => ""
  | some name => if isPlainName name then name ++ "!" else "'" ++ name ++ "'!"

/-- The normal form of a reference. -/
def text : Reference → String
  | cell sheet address => sheetPart sheet ++ address
  | range sheet start finish => sheetPart sheet ++ start ++ ":" ++ finish

end Reference

/-- An address in capitals and without dollar signs. -/
def plainAddress (cs : List Char) : String :=
  upper (String.ofList (replaceChar '$' [] cs))

/-- A sheet name and what follows its exclamation mark; none where a mark or
a quote is missing. -/
def splitQualified? (text : List Char) : Option (String × String) :=
  match trim text with
  | '\'' :: rest =>
      (cut? ['\''] rest).map fun (name, rest) =>
        (String.ofList name, plainAddress (rest.drop 1))
  | cs =>
      (cut? ['!'] cs).map fun (name, rest) =>
        (String.ofList name, plainAddress rest)

/-- The two addresses of a range. -/
def splitRange (addresses : String) : String × String :=
  match cut? [':'] addresses.toList with
  | some (start, finish) => (String.ofList start, String.ofList finish)
  | none => (addresses, addresses)

/-- The reference to a cell on the current sheet. -/
def Reference.ofCell (text : List Char) : Reference :=
  .cell none (plainAddress text)

/-- The reference to a range on the current sheet. -/
def Reference.ofRange (text : List Char) : Reference :=
  let (start, finish) := splitRange (plainAddress text)
  .range none start finish

/-- The reference to a cell on a named sheet. -/
def Reference.ofSheetCell (text : List Char) : Reference :=
  match splitQualified? text with
  | some (sheet, address) => .cell (some sheet) address
  | none => .ofCell text

/-- The reference to a range on a named sheet. -/
def Reference.ofSheetRange (text : List Char) : Reference :=
  match splitQualified? text with
  | some (sheet, addresses) =>
      let (start, finish) := splitRange addresses
      .range (some sheet) start finish
  | none => .ofRange text

end GridScript.Formula
