import GridScript.Change
import GridScript.Sheet.Address
import GridScript.Sheet.Cell
import GridScript.Text.Search

namespace GridScript

/-!
# Sheets

A sheet is a rectangular grid of cells. Its width is stored beside the rows,
so a sheet without rows still has columns. Columns may have names, each at
its own position, and rows may have names that point at positions; of several
rows with one name the first has it. The positions of the column names are
stored beside the names.
-/

/-- Names with their positions, in the order in which they were added. -/
abbrev NameIndex := List (String × Nat)

/-- The index has a name. -/
def NameIndex.has (index : NameIndex) (name : String) : Bool :=
  (index.lookup name).isSome

/-- A grid of cells with optional names of columns and rows. -/
structure Sheet where
  name : String
  rows : List (List Cell)
  width : Nat
  columnNames : Option (List String)
  /-- The positions of the named columns. -/
  columnIndex : Option NameIndex
  /-- The positions of the named rows. -/
  rowIndex : Option NameIndex
  deriving Repr, Inhabited

/-- A change of a sheet. -/
abbrev SheetChange := Change SheetError Sheet

/-- The cells that store some values. -/
def cellsOf (values : List Value) : Outcome SheetError (List Cell) :=
  values.mapM Cell.ofValue

/-- A position within an extent. -/
def position? (i : Int) (extent : Nat) : Option Nat :=
  if 0 ≤ i && i < extent then some i.toNat else none

namespace Sheet

/-- A sheet without rows and columns. -/
def empty (name : String) : Sheet :=
  ⟨name, [], 0, none, none, none⟩

/-- The number of rows. -/
def rowCount (sheet : Sheet) : Nat :=
  sheet.rows.length

/-- The position of a row. -/
def checkRow (sheet : Sheet) (row : Int) : Outcome SheetError Nat :=
  match position? row sheet.rowCount with
  | some i => .ok i
  | none => fail (.rowBounds row sheet.rowCount)

/-- The position of a column. -/
def checkColumn (sheet : Sheet) (column : Int) : Outcome SheetError Nat :=
  match position? column sheet.width with
  | some j => .ok j
  | none => fail (.columnBounds column sheet.width)

/-- The position of a cell. -/
def checkCell (sheet : Sheet) (row column : Int) : Outcome SheetError (Nat × Nat) :=
  match position? row sheet.rowCount, position? column sheet.width with
  | some i, some j => .ok (i, j)
  | _, _ => fail (.cellBounds row column sheet.rowCount sheet.width)

/-- The cell at a position; empty outside the grid. -/
def cellAt (sheet : Sheet) (i j : Nat) : Cell :=
  (sheet.rows.getD i []).getD j .empty

/-- The cell at a row and a column. -/
def get (sheet : Sheet) (row column : Int) : Outcome SheetError Cell := do
  let (i, j) ← sheet.checkCell row column
  return sheet.cellAt i j

/-- The sheet with a cell in place of another. -/
def withCell (sheet : Sheet) (i j : Nat) (cell : Cell) : Sheet :=
  { sheet with rows := sheet.rows.modify i fun cells => cells.set j cell }

/-- The sheet with other rows and without row names. -/
def withRows (sheet : Sheet) (rows : List (List Cell)) : Sheet :=
  { sheet with rows := rows, rowIndex := none }

/-- Store a value at a row and a column. -/
def set (row column : Int) (v : Value) : SheetChange Unit := do
  let (i, j) ← Change.ask (·.checkCell row column)
  let cell ← Cell.ofValue v
  modify (·.withCell i j cell)

/-- The cell at an address. -/
def getAddress (sheet : Sheet) (address : String) : Outcome SheetError Cell := do
  let (row, column) ← Address.parse address
  sheet.get row column

/-- Store a value at an address. -/
def setAddress (address : String) (v : Value) : SheetChange Unit := do
  let (row, column) ← Address.parse address
  set row column v

/-- The block that an address or a range of two addresses names. -/
def blockOf (range : String) : Outcome SheetError Address.Block :=
  match Text.cut? [':'] range.toList with
  | none => Address.parseBlock range range
  | some (start, []) =>
      Address.parseBlock (String.ofList start) (String.ofList start)
  | some (start, finish) =>
      Address.parseBlock (String.ofList start) (String.ofList finish)

/-- Both corners of a block must lie in the grid. -/
def checkBlock
    (sheet : Sheet)
    (block : Address.Block) : Outcome SheetError Unit := do
  let _ ← sheet.checkCell block.top block.left
  let _ ← sheet.checkCell block.bottom block.right

/-- The cells of a block of the grid, row by row. -/
def block (sheet : Sheet) (block : Address.Block) : List (List Cell) :=
  ((sheet.rows.take (block.bottom + 1)).drop block.top).map fun row =>
    (row.take (block.right + 1)).drop block.left

/-- The cells of a range, row by row; a single address is a range of one cell. -/
def getRange
    (sheet : Sheet)
    (range : String) : Outcome SheetError (List (List Cell)) := do
  let corners ← blockOf range
  sheet.checkBlock corners
  return sheet.block corners

/-- The cells of a row. -/
def row (sheet : Sheet) (index : Int) : Outcome SheetError (List Cell) := do
  let i ← sheet.checkRow index
  return sheet.rows.getD i []

/-- The cells at a position of every row. -/
def columnAt (sheet : Sheet) (j : Nat) : List Cell :=
  sheet.rows.map fun row => row.getD j .empty

/-- The cells of a column. -/
def column (sheet : Sheet) (index : Int) : Outcome SheetError (List Cell) := do
  let j ← sheet.checkColumn index
  return sheet.columnAt j

/-- The names of the named rows, in the order of their positions. -/
def rowNames (sheet : Sheet) : Option (List String) :=
  sheet.rowIndex.map fun index =>
    (index.mergeSort fun left right => left.2 ≤ right.2).map Prod.fst

/-- The position of a named column. -/
def columnPosition (sheet : Sheet) (name : String) : Outcome SheetError Nat :=
  match sheet.columnIndex with
  | none => fail .columnsNotNamed
  | some index =>
      match index.lookup name with
      | some j => .ok j
      | none => fail (.columnNotFound name)

/-- The position of a named row. -/
def rowPosition (sheet : Sheet) (name : String) : Outcome SheetError Nat :=
  match sheet.rowIndex with
  | none => fail .rowsNotNamed
  | some index =>
      match index.lookup name with
      | some i => .ok i
      | none => fail (.rowNotFound name)

/-- The cells of a named column. -/
def columnByName
    (sheet : Sheet)
    (name : String) : Outcome SheetError (List Cell) := do
  let j ← sheet.columnPosition name
  sheet.column j

/-- The cells of a named row. -/
def rowByName (sheet : Sheet) (name : String) : Outcome SheetError (List Cell) := do
  let i ← sheet.rowPosition name
  sheet.row i

/-- The cell at a row and a named column. -/
def getByName
    (sheet : Sheet)
    (row : Int)
    (name : String) : Outcome SheetError Cell := do
  let j ← sheet.columnPosition name
  sheet.get row j

/-- Store a value at a row and a named column. -/
def setByName (row : Int) (name : String) (v : Value) : SheetChange Unit := do
  let j ← Change.ask (·.columnPosition name)
  set row j v

/-- The rows, with the column names as the first row if they are asked for
and there are any. -/
def grid (sheet : Sheet) (withHeader : Bool) : List (List Cell) :=
  match withHeader, sheet.columnNames with
  | true, some names => names.map .text :: sheet.rows
  | _, _ => sheet.rows

/-- The rows as script values. -/
def values (sheet : Sheet) (withHeader : Bool) : List (List Value) :=
  (sheet.grid withHeader).map fun row => row.map Cell.toValue

/-- The sheet under another name. -/
def rename (sheet : Sheet) (name : String) : Sheet :=
  { sheet with name := name }

/-- What a sheet is called in a listing. -/
def summary (sheet : Sheet) : String :=
  "Sheet(name=" ++ Text.quoted sheet.name ++
    s!", rows={sheet.rowCount}, cols={sheet.width})"

end Sheet

end GridScript
