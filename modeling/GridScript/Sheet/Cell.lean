import GridScript.Number.Reading
import GridScript.Sheet.Failure
import GridScript.Text.Case
import GridScript.Value.Arithmetic

namespace GridScript

/-!
# Cells

A cell is empty or holds a boolean, a number, a text or an error. Numbers in
cells are floats; read back into a script, a float without a fraction becomes an
integer where it fits 64 bits.
-/

open GridScript.Number
open GridScript.Text

/-- The content of a cell. -/
inductive Cell where
  | empty
  | bool (b : Bool)
  | number (x : Float)
  | text (s : String)
  | error (tag : ErrorTag)
  deriving Repr, Inhabited

namespace Cell

/-- The cell that stores a value. -/
def ofValue : Value → Outcome SheetError Cell
  | .null => .ok .empty
  | .bool b => .ok (.bool b)
  | .int i => liftBreach ((Number.int i).toFloat.map .number)
  | .float x => .ok (.number x)
  | .string s => .ok (.text s)
  | .error tag => .ok (.error tag)
  | .array _ => fail (.cellValue "list")
  | .sheet _ => fail (.cellValue "SheetRef")

/-- The script value of a number in a cell. -/
def numberValue (x : Float) : Value :=
  match whole? x with
  | some i => if fitsInt i then .int i else .float x
  | none => .float x

/-- The script value of a cell; an error becomes its text. -/
def toValue : Cell → Value
  | empty => .null
  | bool b => .bool b
  | number x => numberValue x
  | text s => .string s
  | error tag => .string tag.text

/-- The cell is empty or holds the empty text. -/
def isEmpty : Cell → Bool
  | empty => true
  | text s => s.isEmpty
  | _ => false

/-- The display text of a cell. -/
def display : Cell → String
  | empty => ""
  | bool b => if b then "true" else "false"
  | number x => displayFloat x
  | text s => s
  | error tag => tag.text

/-- Text that may be numeric: after signs, a digit, or a point and a digit. -/
def looksNumeric (cs : List Char) : Bool :=
  match cs.dropWhile fun c => c == '+' || c == '-' with
  | '.' :: c :: _ => isDigitLike c
  | c :: _ => isDigitLike c
  | [] => false

/-- The cell that raw text denotes: a truth word, an error, a number,
or the text itself. -/
def parse (raw : String) : Cell :=
  let stripped := strip raw
  let word := lower stripped
  if stripped.isEmpty then .empty
  else if word == "true" || word == "yes" then .bool true
  else if word == "false" || word == "no" then .bool false
  else
    match ErrorTag.ofText? stripped with
    | some tag => .error tag
    | none =>
        if looksNumeric stripped.toList then
          match readFloat? stripped.toList with
          | some x => if x.isNaN then .text raw else .number x
          | none => .text raw
        else .text raw

end Cell

end GridScript
