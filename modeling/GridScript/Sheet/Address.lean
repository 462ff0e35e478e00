import GridScript.Number.Reading
import GridScript.Sheet.Failure
import GridScript.Text.Case

namespace GridScript.Address

/-!
# Cell addresses

Columns are lettered A to Z, AA, AB, … in bijective base 26, and rows are
numbered from one. An address has one to three letters, and a dollar sign before
its letters or its digits has no effect.
-/

open GridScript.Number
open GridScript.Text

/-- The letter of a digit from 0 to 25. -/
def letter (digit : Nat) : Char :=
  Char.ofNat (65 + digit)

/-- The letters of a column counted from one; none for zero. -/
def lettersFrom (n : Nat) (rest : List Char) : List Char :=
  if h : n = 0 then rest
  else lettersFrom ((n - 1) / 26) (letter ((n - 1) % 26) :: rest)
  termination_by n
  decreasing_by omega

/-- The letters of a column counted from zero; none for a negative column. -/
def columnLetters (column : Int) : String :=
  String.ofList (lettersFrom (column + 1).toNat [])

/-- The column counted from zero that letters name. -/
def columnOfLetters (letters : List Char) : Int :=
  letters.foldl (fun n c => n * 26 + ((c.val.toNat : Int) - 64)) 0 - 1

/-- The column that a text names, in any letter case. -/
def columnIndex (text : String) : Int :=
  columnOfLetters (upper text).toList

/-- The text of the address of a cell. -/
def make (row column : Int) : String :=
  columnLetters column ++ intText (row + 1)

/-- The address of a cell; a row number with more digits than an integer text
may have is not written. -/
def write (row column : Int) : Outcome SheetError String :=
  if (digitChars (row + 1).natAbs).length > maxIntDigits then breach .longNumeral
  else .ok (make row column)

/-- An upper-case ASCII letter. -/
def isCapital (c : Char) : Bool :=
  'A' ≤ c && c ≤ 'Z'

/-- Text after an optional dollar sign. -/
def skipDollar : List Char → List Char
  | '$' :: rest => rest
  | cs => cs

/-- The letters and the row digits of an address in upper case. -/
def parts? (cs : List Char) : Option (List Char × List Char) :=
  let body := skipDollar cs
  let letters := body.takeWhile isCapital
  let digits := skipDollar (body.dropWhile isCapital)
  if letters.isEmpty || letters.length > 3 || digits.isEmpty ||
      !digits.all isDecimalDigit then
    none
  else some (letters, digits)

/-- The row and the column of an address, both counted from zero. -/
def parse (text : String) : Outcome SheetError (Nat × Nat) :=
  match parts? (upper (strip text)).toList with
  | none => fail (.address text)
  | some (letters, digits) =>
      if digits.length > maxIntDigits then breach (.longInteger digits.length)
      else
        match digitsValue (digits.map plainDigit) with
        | 0 => fail (.address text)
        | row + 1 => .ok (row, (columnOfLetters letters).toNat)

/-- A block of cells, with both bounds in it. -/
structure Block where
  top : Nat
  left : Nat
  bottom : Nat
  right : Nat
  deriving Repr, DecidableEq

/-- The rows of a block, from the top down. -/
def Block.rows (block : Block) : List Nat :=
  List.range' block.top (block.bottom + 1 - block.top)

/-- The columns of a block, from the left. -/
def Block.columns (block : Block) : List Nat :=
  List.range' block.left (block.right + 1 - block.left)

/-- The block between two corners in any order. -/
def parseBlock (start finish : String) : Outcome SheetError Block := do
  let (r, c) ← parse start
  let (r', c') ← parse finish
  return ⟨min r r', min c c', max r r', max c c'⟩

end GridScript.Address
