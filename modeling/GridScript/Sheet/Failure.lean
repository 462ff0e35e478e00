import GridScript.Value.Failure

namespace GridScript

/-!
# Failures of sheets and books

Positions count from zero here, because they name rows and columns
of the stored grid.
-/

open GridScript.Number
open GridScript.Text

/-- A part of a sheet whose length was given. -/
inductive Extent where
  | row
  | column
  | header
  deriving Repr, DecidableEq

/-- The word for a part of a sheet at the head of a message. -/
def Extent.text : Extent → String
  | row => "Row"
  | column => "Column"
  | header => "Header"

/-- The two sheets of a join. -/
inductive JoinSide where
  | left
  | right
  deriving Repr, DecidableEq

/-- The word for a sheet of a join. -/
def JoinSide.text : JoinSide → String
  | left => "left"
  | right => "right"

/-- The errors of sheets and books. -/
inductive SheetError where
  | cellBounds (row column : Int) (rows columns : Nat)
  | rowBounds (row : Int) (rows : Nat)
  | columnBounds (column : Int) (columns : Nat)
  | columnNotFound (name : String)
  | rowNotFound (name : String)
  | sheetNotFound (name : String)
  | sheetExists (name : String)
  | columnsNotNamed
  | rowsNotNamed
  | duplicateColumn (name : String)
  | length (extent : Extent) (expected actual : Nat)
  | columnCount (expected actual : Nat)
  | joinKey (key : String) (side : JoinSide)
  | address (text : String)
  /-- A value of this kind cannot be stored in a cell. -/
  | cellValue (kind : String)
  /-- A file could not be read or written. -/
  | file (path : String)
  deriving Repr, DecidableEq

/-- The wording of a sheet error. -/
def SheetError.message : SheetError → String
  | cellBounds row column rows columns =>
      "Cell (" ++ intText row ++ ", " ++ intText column ++
        s!") is out of bounds for a {rows}x{columns} sheet"
  | rowBounds row rows =>
      "Row index " ++ intText row ++ s!" is out of bounds (row count {rows})"
  | columnBounds column columns =>
      "Column index " ++ intText column ++
        s!" is out of bounds (column count {columns})"
  | columnNotFound name => "Column not found: " ++ quoted name
  | rowNotFound name => "Row not found: " ++ quoted name
  | sheetNotFound name => "Sheet not found: " ++ quoted name
  | sheetExists name => "Sheet already exists: " ++ quoted name
  | columnsNotNamed => "Columns are not named; call name_columns_by_row first"
  | rowsNotNamed => "Rows are not named; call name_rows_by_column first"
  | duplicateColumn name => "Duplicate column name: " ++ quoted name
  | length extent expected actual =>
      s!"{extent.text} length mismatch: expected {expected}, got {actual}"
  | columnCount expected actual =>
      s!"Column count mismatch: expected {expected}, got {actual}"
  | joinKey key side =>
      "Join key " ++ quoted key ++ s!" not found in {side.text} sheet"
  | address text => "Invalid cell address: " ++ quoted text
  | cellValue kind => s!"A {kind} value cannot be stored in a cell"
  | file path => path ++ ": the file cannot be read or written"

/-- The kind of a sheet error, as reports of errors name it. -/
def SheetError.kindText : SheetError → String
  | cellBounds .. => "CellIndexOutOfBoundsError"
  | rowBounds .. => "RowIndexOutOfBoundsError"
  | columnBounds .. => "ColumnIndexOutOfBoundsError"
  | columnNotFound _ => "ColumnNotFoundError"
  | rowNotFound _ => "RowNotFoundError"
  | sheetNotFound _ => "SheetNotFoundError"
  | sheetExists _ => "SheetAlreadyExistsError"
  | columnsNotNamed => "ColumnsNotNamedError"
  | rowsNotNamed => "RowsNotNamedError"
  | duplicateColumn _ => "DuplicateColumnNameError"
  | length .. => "LengthMismatchError"
  | columnCount .. => "ColumnCountMismatchError"
  | joinKey .. => "JoinKeyNotFoundError"
  | address _ => "InvalidAddressError"
  | cellValue _ => "InvalidCellValueError"
  | file _ => "SheetIOError"

end GridScript
