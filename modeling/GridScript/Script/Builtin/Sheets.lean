import GridScript.Script.Builtin.Core

namespace GridScript.Script

/-!
# Sheet functions

A sheet argument is a reference or the name of a sheet of the book. Rows and
columns count from zero, and may be given by name once they have names. A
function that changes a sheet puts the changed sheet into the book in one step.
-/

/-- An array of arrays. -/
def gridArgument (function : String) (v : Value) : Attempt (List (List Value)) :=
  match v with
  | .array items =>
      match Value.rows? items with
      | some rows => .ok rows
      | none => fail (.operation (typeFound function .grid v))
  | v => fail (.operation (typeFound function .grid v))

/-- An array of arrays that may be missing. -/
def optionalGrid (function : String) : Option Value → Attempt (List (List Value))
  | none => .ok []
  | some v => gridArgument function v

/-- An array of column names. -/
def namesArgument (function : String) (v : Value) : Attempt (List String) :=
  let name? : Value → Option String
    | .string s => some s
    | _ => none
  match v with
  | .array items =>
      match items.mapM name? with
      | some names => .ok names
      | none => fail (.operation (typeFound function .columnNames v))
  | v => fail (.operation (typeFound function .columnNames v))

/-- A row by its name or its position. -/
def rowArgument (sheet : Sheet) (function : String) (v : Value) : Attempt Int :=
  match v with
  | .string name => do
      let i ← onSheet (sheet.rowPosition name)
      return i
  | v => operation (intArgument function v "row")

/-- A column by its name or its position. -/
def columnArgument (sheet : Sheet) (function : String) (v : Value) : Attempt Int :=
  match v with
  | .string name => do
      let j ← onSheet (sheet.columnPosition name)
      return j
  | v => operation (intArgument function v "column")

/-- A text argument of a function of the host. -/
def textArgument (function : String) (v : Value) (what : String) : Attempt String :=
  operation (stringArgument function v what)

/-- A name argument that may be missing. -/
def nameArgument
    (function : String)
    (what : String) : Option Value → Attempt (Option String)
  | none => .ok none
  | some v => (textArgument function v what).map some

/-- The number of arguments of a function of the host. -/
def checkCount
    (function : String)
    (arity : Arity)
    (arguments : List Value) : Attempt Unit :=
  operation (checkArity function arity arguments)

/-- The result of a change of a sheet. -/
def changeSheet (change : SheetChange α) : Change Cause Sheet α :=
  change.mapError .sheet

/-- Change a sheet of the book; the result of the change is the value. -/
def mutateSheet
    (function : String)
    (target : Value)
    (change : Change Cause Sheet Value) : HostChange Value := do
  let book ← Change.look Host.book
  let key ← sheetKey book function target
  editHeld key change

/-- Change a sheet of the book without a value. -/
def editSheet
    (function : String)
    (target : Value)
    (change : Change Cause Sheet Unit) : HostChange Value :=
  mutateSheet function target do
    change
    return .null

/-- Change the book; the reference that the change gives is the value. -/
def changeForRef (change : BookChange SheetRef) : HostChange Value := do
  let ref ← editBook change
  return .sheet ref

/-- Put a sheet in the place of one of the book. -/
def replaceSheet (name : String) (sheet : Sheet) : HostChange Value := do
  editBook (Book.replace name sheet)
  let ref ← Change.ask fun host => onSheet (host.book.ref name)
  return .sheet ref

/-- Put a sheet made from a sheet of the book in its place, or add
it under a new name. -/
def reshapeSheet
    (function : String)
    (target : Value)
    (newName : Option Value)
    (build : Sheet → Attempt Sheet) : HostChange Value := do
  let name ← nameArgument function "name" newName
  let book ← Change.look Host.book
  let sheet ← resolveSheet book function target
  let made ← build sheet
  match name with
  | none => replaceSheet sheet.name made
  | some name => changeForRef (Book.add name made)

/-- Add a new sheet to the book, with a grid if one is given. -/
def newSheet (arguments : List Value) : HostChange Value := do
  checkCount "sheet_new" (.between 1 3) arguments
  let name ← textArgument "sheet_new" (argument arguments 0) "name"
  let grid ← optionalGrid "sheet_new" arguments[1]?
  let header := (argument arguments 2).isTruthy
  let sheet ← onSheet (Sheet.ofGrid grid name header 0)
  changeForRef (Book.add name sheet)

/-- A function that reads a sheet. -/
def readSheet
    (function : String)
    (arity : Arity)
    (arguments : List Value)
    (read : Book → Sheet → Attempt Value) : HostChange Value := do
  checkCount function arity arguments
  let book ← Change.look Host.book
  let sheet ← resolveSheet book function (argument arguments 0)
  read book sheet

/-- A sheet function applied to its arguments. -/
def callSheet
    (function : SheetFunction)
    (arguments : List Value) : HostChange Value := do
  let first := argument arguments 0
  let second := argument arguments 1
  let third := argument arguments 2
  let fourth := argument arguments 3
  match function with
  | .new => newSheet arguments
  | .rows =>
      readSheet "sheet_rows" (.exactly 1) arguments fun _ sheet =>
        .ok (.int sheet.rowCount)
  | .columns =>
      readSheet "sheet_cols" (.exactly 1) arguments fun _ sheet =>
        .ok (.int sheet.width)
  | .get =>
      readSheet "sheet_get" (.exactly 3) arguments fun _ sheet => do
        let row ← rowArgument sheet "sheet_get" second
        let column ← columnArgument sheet "sheet_get" third
        return (← onSheet (sheet.get row column)).toValue
  | .set =>
      checkCount "sheet_set" (.exactly 4) arguments
      editSheet "sheet_set" first do
        let row ← Change.ask fun sheet => rowArgument sheet "sheet_set" second
        let column ← Change.ask fun sheet => columnArgument sheet "sheet_set" third
        changeSheet (Sheet.set row column fourth)
  | .getAddress =>
      readSheet "sheet_get_a1" (.exactly 2) arguments fun _ sheet => do
        let address ← textArgument "sheet_get_a1" second "address"
        return (← onSheet (sheet.getAddress address)).toValue
  | .setAddress =>
      checkCount "sheet_set_a1" (.exactly 3) arguments
      let address ← textArgument "sheet_set_a1" second "address"
      editSheet "sheet_set_a1" first (changeSheet (Sheet.setAddress address third))
  | .getByName =>
      readSheet "sheet_get_by_name" (.exactly 3) arguments fun _ sheet => do
        let row ← rowArgument sheet "sheet_get_by_name" second
        let column ← textArgument "sheet_get_by_name" third "column name"
        return (← onSheet (sheet.getByName row column)).toValue
  | .setByName =>
      checkCount "sheet_set_by_name" (.exactly 4) arguments
      let column ← textArgument "sheet_set_by_name" third "column name"
      editSheet "sheet_set_by_name" first do
        let row ← Change.ask fun sheet =>
          rowArgument sheet "sheet_set_by_name" second
        changeSheet (Sheet.setByName row column fourth)
  | .getRange =>
      readSheet "sheet_get_range" (.exactly 2) arguments fun _ sheet => do
        let range ← textArgument "sheet_get_range" second "range"
        return arrayOfRows (← onSheet (sheet.getRange range))
  | .nameColumnsByRow =>
      checkCount "sheet_name_columns_by_row" (.exactly 2) arguments
      let row ← operation (intArgument "sheet_name_columns_by_row" second "row")
      editSheet "sheet_name_columns_by_row" first
        (changeSheet (Sheet.nameColumnsByRow row))
  | .nameRowsByColumn =>
      checkCount "sheet_name_rows_by_column" (.exactly 2) arguments
      let column ← operation
        (intArgument "sheet_name_rows_by_column" second "column")
      editSheet "sheet_name_rows_by_column" first
        (changeSheet (Sheet.nameRowsByColumn column))
  | .columnNames =>
      readSheet "sheet_column_names" (.exactly 1) arguments fun _ sheet =>
        .ok ((sheet.columnNames.map arrayOfTexts).getD .null)
  | .column =>
      readSheet "sheet_column" (.exactly 2) arguments fun _ sheet => do
        let column ← columnArgument sheet "sheet_column" second
        return arrayOfCells (← onSheet (sheet.column column))
  | .row =>
      readSheet "sheet_row" (.exactly 2) arguments fun _ sheet => do
        let row ← rowArgument sheet "sheet_row" second
        return arrayOfCells (← onSheet (sheet.row row))
  | .toArray =>
      readSheet "sheet_to_array" (.between 1 2) arguments fun _ sheet =>
        .ok (arrayOfRows (sheet.grid second.isTruthy))
  | .appendRow =>
      checkCount "sheet_append_row" (.exactly 2) arguments
      match second with
      | .array values =>
          editSheet "sheet_append_row" first (changeSheet (Sheet.appendRow values))
      | _ =>
          Change.stop (.operation (.arguments "sheet_append_row" .rowValues none))
  | .transpose =>
      checkCount "sheet_transpose" (.between 1 2) arguments
      reshapeSheet "sheet_transpose" first arguments[1]? fun sheet =>
        .ok sheet.transpose
  | .selectColumns =>
      checkCount "sheet_select_columns" (.between 2 3) arguments
      let names ← namesArgument "sheet_select_columns" second
      reshapeSheet "sheet_select_columns" first arguments[2]? fun sheet =>
        onSheet (sheet.selectColumns names)
  | .removeColumns =>
      checkCount "sheet_remove_columns" (.between 2 3) arguments
      let names ← namesArgument "sheet_remove_columns" second
      reshapeSheet "sheet_remove_columns" first arguments[2]? fun sheet =>
        onSheet (sheet.removeColumns names)
  | .removeEmptyRows =>
      checkCount "sheet_remove_empty_rows" (.exactly 1) arguments
      mutateSheet "sheet_remove_empty_rows" first do
        let removed ← changeSheet Sheet.removeEmptyRows
        return .int removed
  | .eval =>
      readSheet "sheet_eval" (.exactly 2) arguments fun book sheet => do
        let text ← textArgument "sheet_eval" second "formula"
        evaluateFormula text (some sheet) book

end GridScript.Script
