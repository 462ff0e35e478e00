import GridScript.Json.Reading
import GridScript.Sheet.Edit

namespace GridScript.Table

/-!
# Frames

A frame has named columns of one type each. A column of a sheet keeps its type
if all its cells are numbers or all are booleans; any other column becomes text.
Empty cells fit every type.

Files of frames are written by a codec of their own, the Parquet one, of which
only this matters here: a stored frame is loaded with its names, types and cells.
`storeFrame` and `loadFrame?` stand for that codec with a text of documents.
-/

open GridScript.Number

/-- The types of columns. -/
inductive ColumnType where
  | number
  | bool
  | text
  deriving Repr, DecidableEq

/-- The word for a type. -/
def ColumnType.label : ColumnType → String
  | number => "Float64"
  | bool => "Boolean"
  | text => "String"

/-- A typed column. -/
structure Column where
  name : String
  type : ColumnType
  cells : List Cell
  deriving Repr

/-- Columns of equal length. -/
abbrev Frame := List Column

/-- The cell is not empty. -/
def isPresent : Cell → Bool
  | .empty => false
  | _ => true

/-- The cell holds a boolean. -/
def isBoolCell : Cell → Bool
  | .bool _ => true
  | _ => false

/-- The cell holds a number. -/
def isNumberCell : Cell → Bool
  | .number _ => true
  | _ => false

/-- A cell as text; an empty one stays empty. -/
def asText : Cell → Cell
  | .empty => .empty
  | cell => .text cell.display

/-- The column of some cells. -/
def columnOf (name : String) (cells : List Cell) : Column :=
  let present := cells.filter isPresent
  if !present.isEmpty && present.all isBoolCell then ⟨name, .bool, cells⟩
  else if !present.isEmpty && present.all isNumberCell then ⟨name, .number, cells⟩
  else ⟨name, .text, cells.map asText⟩

/-- The names of the columns of a sheet; without names they are numbered. -/
def columnLabels (sheet : Sheet) : List String :=
  sheet.columnNames.getD ((List.range sheet.width).map Sheet.defaultColumnName)

/-- The frame of a sheet. -/
def frameOf (sheet : Sheet) : Frame :=
  (columnLabels sheet).mapIdx fun j name => columnOf name (sheet.columnAt j)

/-- The row at a position. -/
def frameRow (frame : Frame) (i : Nat) : List Cell :=
  frame.map fun column => column.cells.getD i .empty

/-- The number of rows. -/
def frameHeight (frame : Frame) : Nat :=
  (frame.head?.map fun column => column.cells.length).getD 0

/-- The sheet of a frame: the names are its first row, which then
becomes the column names. -/
def sheetOfFrame (frame : Frame) (name : String) : Outcome SheetError Sheet := do
  let header := frame.map fun column => Cell.text column.name
  let rows := (List.range (frameHeight frame)).map (frameRow frame)
  let sheet ← Sheet.ofRows (header :: rows) name 0
  Change.made sheet (Sheet.nameColumnsByRow 0)

/-- A cell in a stored frame. -/
def storeCell : Cell → Json
  | .empty => .null
  | .bool b => .bool b
  | .number x => .string (floatText x)
  | .text s => .string s
  | .error tag => .string tag.text

/-- The text that stores a frame. It stands for the bytes of a columnar file. -/
def storeFrame (frame : Frame) : String :=
  let columns := frame.map fun column =>
    Json.object [
      ("name", .string column.name),
      ("type", .string column.type.label),
      ("cells", .array (column.cells.map storeCell))]
  String.ofList (Json.render (.array columns))

/-- The cell that a stored one of a column type is. -/
def loadCell (type : ColumnType) : Json → Cell
  | .bool b => .bool b
  | .string s =>
      match type with
      | .number => .number ((readFloat? s.toList).getD 0)
      | _ => .text s
  | _ => .empty

/-- The column that a stored one is. -/
def loadColumn? (j : Json) : Option Column := do
  match j.get? "name", j.get? "type", j.get? "cells" with
  | some (.string name), some (.string label), some (.array cells) =>
      let type ← [.number, .bool, .text].find? fun type =>
        ColumnType.label type == label
      return ⟨name, type, cells.map (loadCell type)⟩
  | _, _, _ => none

/-- The frame that a text stores, in the form that `storeFrame` gives it. -/
def loadFrame? (text : String) : Option Frame := do
  match Json.parse? text.toList with
  | some (.array columns) => columns.mapM loadColumn?
  | _ => none

end GridScript.Table
