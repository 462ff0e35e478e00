import GridScript.Number.FloatText
import GridScript.Text.Quoted
import GridScript.Text.Search
import GridScript.Value.Basic

namespace GridScript

/-!
# Display text

`Value.display` is the text that printing and concatenation use. Strings stand
bare, except inside arrays, where they are quoted and a backslash or double
quote in them is escaped. Floats without a fraction are written without a
point below 10^16.

`Value.shown` is the form that messages of formulas use for a value.
-/

open GridScript.Number
open GridScript.Text

/-- The display text of a float. -/
def displayFloat (x : Float) : String :=
  match Exact.ofFloat x with
  | .undefined => "NaN"
  | .infinite negative => if negative then "-inf" else "inf"
  | .finite .. =>
      match whole? x with
      | some i => if i.natAbs < 10 ^ 16 then intText i else floatText x
      | none => floatText x

/-- The characters of a string inside an array: backslashes are escaped first,
double quotes after them. -/
def escapeItem (cs : List Char) : List Char :=
  replaceChar '"' ['\\', '"'] (replaceChar '\\' ['\\', '\\'] cs)

/-- A string inside an array, quoted. -/
def displayItemString (s : String) : String :=
  String.ofList ('"' :: escapeItem s.toList ++ ['"'])

namespace Value

mutual

/-- The display text of a value. -/
def display : Value → String
  | null => "null"
  | bool b => if b then "true" else "false"
  | int i => intText i
  | float x => displayFloat x
  | string s => s
  | array items => "[" ++ ", ".intercalate (displayItems items) ++ "]"
  | sheet ref => "<sheet " ++ ref.name ++ ">"
  | error tag => tag.text

/-- The display texts of the items of an array. -/
def displayItems : List Value → List String
  | [] => []
  | string s :: rest => displayItemString s :: displayItems rest
  | item :: rest => item.display :: displayItems rest

end

mutual

/-- The form of a value in messages of formulas. -/
def shown : Value → String
  | null => "None"
  | bool b => if b then "True" else "False"
  | int i => intText i
  | float x => floatText x
  | string s => quoted s
  | array items => "[" ++ ", ".intercalate (shownItems items) ++ "]"
  | sheet ref => "SheetRef(book_id='', name=" ++ quoted ref.name ++ ")"
  | error tag => "CellError(tag=" ++ quoted tag.text ++ ")"

/-- The forms of the items of an array. -/
def shownItems : List Value → List String
  | [] => []
  | item :: rest => item.shown :: shownItems rest

end

end Value

/-- A list of names as messages show it. -/
def shownNames (names : List String) : String :=
  "[" ++ ", ".intercalate (names.map quoted) ++ "]"

end GridScript
