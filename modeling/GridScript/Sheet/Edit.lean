import GridScript.Sheet.Naming

namespace GridScript.Sheet

/-!
# Edits of a sheet

An edit looks at all that can fail before it changes the sheet. Edits that move
rows forget the names of the rows.
-/

/-- The sheet has no columns yet, so that its first row sets the width. -/
def isUnsized (sheet : Sheet) : Bool :=
  sheet.rows.isEmpty && sheet.width == 0 && sheet.columnNames.isNone

/-- Make room for a row of a length: the first row of a sheet without
columns sets the width. -/
def fitRow (length : Nat) : SheetChange Unit := do
  let unsized ← Change.look isUnsized
  let width ← Change.look Sheet.width
  if unsized then modify fun sheet => { sheet with width := length }
  else Change.require (length = width) (.length .row width length)

/-- The cells of a new row, which fits the sheet. -/
def newRow (values : List Value) : SheetChange (List Cell) := do
  let cells ← cellsOf values
  fitRow cells.length
  return cells

/-- Add a row at the end. -/
def appendRow (values : List Value) : SheetChange Unit := do
  let cells ← newRow values
  modify fun sheet => { sheet with rows := sheet.rows ++ [cells] }

/-- Add a row before a row, or at the end. -/
def insertRow (index : Int) (values : List Value) : SheetChange Unit := do
  let count ← Change.look Sheet.rowCount
  Change.require (0 ≤ index ∧ index ≤ count) (.rowBounds index count)
  let cells ← newRow values
  modify fun sheet => { sheet with rows := sheet.rows.insertIdx index.toNat cells }
  forgetRowNames

/-- Remove a row; its cells are the result. -/
def deleteRow (index : Int) : SheetChange (List Cell) := do
  let i ← Change.ask (·.checkRow index)
  forgetRowNames
  let removed ← Change.look fun sheet => sheet.rows.getD i []
  modify fun sheet => { sheet with rows := sheet.rows.eraseIdx i }
  return removed

/-- The name of a new column that was given none. -/
def defaultColumnName (position : Nat) : String :=
  s!"column_{position + 1}"

/-- Name a new column at the right, if the columns have names. -/
def nameNewColumn (name : Option String) : SheetChange Unit := do
  match ← Change.look Sheet.columnNames with
  | none => return
  | some names =>
      let width ← Change.look Sheet.width
      let index ← Change.look fun sheet => sheet.columnIndex.getD []
      let name := name.getD (defaultColumnName width)
      Change.require (index.has name = false) (.duplicateColumn name)
      modify (storeColumns (names ++ [name]) (index ++ [(name, width)]))

/-- Add a column at the right. In a sheet with column names it gets a name. -/
def appendColumn
    (values : List Value)
    (name : Option String) : SheetChange Unit := do
  let cells ← cellsOf values
  let count ← Change.look Sheet.rowCount
  Change.require (cells.length = count) (.length .column count cells.length)
  nameNewColumn name
  modify fun sheet =>
    { sheet with
      rows := List.zipWith (fun row cell => row ++ [cell]) sheet.rows cells
      width := sheet.width + 1 }

/-- Take the name of a column away; the columns after it move by one. -/
def dropColumnName (sheet : Sheet) (j : Nat) : Sheet :=
  match sheet.columnNames with
  | none => sheet
  | some names => storeColumns (names.eraseIdx j) (names.eraseIdx j).zipIdx sheet

/-- Remove a column; its cells are the result. -/
def deleteColumn (index : Int) : SheetChange (List Cell) := do
  let j ← Change.ask (·.checkColumn index)
  let removed ← Change.look (·.columnAt j)
  modify fun sheet =>
    { sheet with
      rows := sheet.rows.map fun row => row.eraseIdx j
      width := sheet.width - 1 }
  modify (·.dropColumnName j)
  return removed

/-- Keep some of the rows, if they are fewer than all. -/
def keepRows (kept : List (List Cell)) (removed : Nat) : SheetChange Unit :=
  if removed = 0 then pure ()
  else do
    modify fun sheet => { sheet with rows := kept }
    forgetRowNames

/-- Remove the rows whose cells are all empty; their number is the result. -/
def removeEmptyRows : SheetChange Nat := do
  let kept ← Change.look fun sheet =>
    sheet.rows.filter fun row => !row.all Cell.isEmpty
  let removed ← Change.look fun sheet => sheet.rowCount - kept.length
  keepRows kept removed
  return removed

/-- A row with columns named by `source`, laid out for the columns
named by `target`. -/
def alignRow (target source : List String) (row : List Cell) : List Cell :=
  target.map fun name => ((source.zip row).lookup name).getD .empty

/-- Stack rows below. -/
def stackRows (rows : List (List Cell)) : SheetChange Unit :=
  modify fun sheet => { sheet with rows := sheet.rows ++ rows }

/-- Stack the rows of a sheet with other column names below,
aligned by the names. -/
def stackByName
    (names otherNames : List String)
    (rows : List (List Cell)) : SheetChange Unit := do
  otherNames.forM fun name => do
    let _ ← Change.ask (·.columnPosition name)
  rows.forM fun row => stackRows [alignRow names otherNames row]

/-- The sheet has rows or column names, so that its width is settled. -/
def isSized (sheet : Sheet) : Bool :=
  !sheet.rows.isEmpty || sheet.columnNames.isSome

/-- Stack rows of a width below; a sheet whose width is not
settled gets the width. -/
def stackByPosition (width : Nat) (rows : List (List Cell)) : SheetChange Unit := do
  let held ← Change.look Sheet.width
  let sized ← Change.look isSized
  Change.require (sized = true → width = held) (.columnCount held width)
  modify fun sheet => { sheet with width := width }
  stackRows rows

/-- Stack the rows of another sheet below. Two sheets with column names
are aligned by them. -/
def append (other : Sheet) : SheetChange Unit := do
  let columnNames ← Change.look Sheet.columnNames
  match columnNames, other.columnNames with
  | some names, some otherNames => do
      stackByName names otherNames other.rows
      forgetRowNames
  | _, _ => do
      stackByPosition other.width other.rows
      forgetRowNames

end GridScript.Sheet
