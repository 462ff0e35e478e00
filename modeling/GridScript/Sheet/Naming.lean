import GridScript.Sheet.Basic

namespace GridScript.Sheet

/-!
# Names of columns and rows

Columns are named by a row, which then leaves the data, or by a list of
names. Rows are named by the display texts of a column. Column names
differ from each other.
-/

/-- An index with further names from a position on. None of them may
have a place already. -/
def addColumnNames
    (index : NameIndex) : Nat → List String → Outcome SheetError NameIndex
  | _, [] => .ok index
  | position, name :: rest =>
      if index.has name then fail (.duplicateColumn name)
      else addColumnNames (index ++ [(name, position)]) (position + 1) rest

/-- The positions of column names, which differ from each other. -/
def indexColumns (names : List String) : Outcome SheetError NameIndex :=
  addColumnNames [] 0 names

/-- Store column names with their positions. -/
def storeColumns
    (names : List String)
    (index : NameIndex)
    (sheet : Sheet) : Sheet :=
  { sheet with columnNames := some names, columnIndex := some index }

/-- Forget the names of the rows. -/
def forgetRowNames : SheetChange Unit :=
  modify fun sheet => { sheet with rowIndex := none }

/-- Name the columns by the texts of a row and take the row out of the data. -/
def nameColumnsByRow (index : Int) : SheetChange Unit := do
  let i ← Change.ask (·.checkRow index)
  let header ← Change.look fun sheet => sheet.rows.getD i []
  let names := header.map Cell.display
  let positions ← indexColumns names
  modify fun sheet => { sheet with rows := sheet.rows.eraseIdx i }
  modify (storeColumns names positions)
  forgetRowNames

/-- Name the columns by a list of names. -/
def setColumnNames (names : List String) : SheetChange Unit := do
  let width ← Change.look Sheet.width
  Change.require (names.length = width) (.length .header width names.length)
  let positions ← indexColumns names
  modify (storeColumns names positions)

/-- An index of row names with those of further cells; a name that
has a place keeps it. -/
def addRowNames (index : NameIndex) : Nat → List Cell → NameIndex
  | _, [] => index
  | position, cell :: rest =>
      let name := cell.display
      addRowNames (if index.has name then index else index ++ [(name, position)])
        (position + 1) rest

/-- Name the rows by the texts of a column. -/
def nameRowsByColumn (index : Int) : SheetChange Unit := do
  let cells ← Change.ask (·.column index)
  modify fun sheet => { sheet with rowIndex := some (addRowNames [] 0 cells) }

/-- The sheet of rows of cells, which are equally long; without rows it
has the given width. -/
def ofCells (rows : List (List Cell)) (name : String) (columns : Nat) : Sheet :=
  ⟨name, rows, (rows.head?.map List.length).getD columns, none, none, none⟩

/-- The sheet with columns named by a list of names. -/
def withColumnNames
    (sheet : Sheet)
    (names : List String) : Outcome SheetError Sheet :=
  Change.made sheet (setColumnNames names)

/-- The sheet of rows of cells; rows that are not equally long are refused. -/
def ofRows
    (rows : List (List Cell))
    (name : String)
    (columns : Nat) : Outcome SheetError Sheet :=
  let sheet := ofCells rows name columns
  match rows.find? fun row => row.length != sheet.width with
  | some row => fail (.length .row sheet.width row.length)
  | none => .ok sheet

/-- The sheet of a grid. Rows are equally long; a grid without rows
has the given width. -/
def ofGrid
    (grid : List (List Value))
    (name : String)
    (header : Bool)
    (columns : Nat) : Outcome SheetError Sheet := do
  let rows ← grid.mapM cellsOf
  let sheet ← ofRows rows name columns
  if header && !rows.isEmpty then Change.made sheet (nameColumnsByRow 0)
  else .ok sheet

end GridScript.Sheet
