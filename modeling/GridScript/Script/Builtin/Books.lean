import GridScript.Script.Builtin.Sheets

namespace GridScript.Script

/-!
# Book functions

The sheets of the script's book as a whole, and the sheets of registered books.
-/

/-- Stack all sheets into a new one. -/
def consolidateBook (arguments : List Value) : HostChange Value := do
  checkCount "book_consolidate" (.between 0 1) arguments
  let given ← nameArgument "book_consolidate" "name" arguments[0]?
  let name := given.getD "Consolidated"
  let stacked ← Change.ask fun host => onSheet (host.book.consolidate name)
  changeForRef (Book.add name stacked)

/-- The registered book with a name. -/
def registeredBook (host : Host) (name : String) : Attempt Book :=
  match host.registry with
  | none => fail (.runtime .noRegistry)
  | some registry =>
      match registry.find? name with
      | none => fail (.unknownBook name)
      | some other => .ok other

/-- Add the sheets of a registered book; their number is the value. -/
def mergeBook (arguments : List Value) : HostChange Value := do
  checkCount "book_merge" (.exactly 1) arguments
  let name ← textArgument "book_merge" (argument arguments 0) "book name"
  let other ← Change.ask fun host => registeredBook host name
  editBook (Book.merge other)
  return .int other.sheets.length

/-- A book function applied to its arguments. -/
def callBook
    (function : BookFunction)
    (arguments : List Value) : HostChange Value := do
  let book ← Change.look Host.book
  let first := argument arguments 0
  match function with
  | .sheetNames =>
      checkCount "book_sheet_names" (.exactly 0) arguments
      return arrayOfTexts book.sheetNames
  | .sheetCount =>
      checkCount "book_sheet_count" (.exactly 0) arguments
      return .int book.sheets.length
  | .hasSheet =>
      checkCount "book_has_sheet" (.exactly 1) arguments
      let name ← textArgument "book_has_sheet" first "name"
      return .bool (book.has name)
  | .getSheet =>
      checkCount "book_get_sheet" (.exactly 1) arguments
      let name ← textArgument "book_get_sheet" first "name"
      let ref ← onSheet (book.ref name)
      return .sheet ref
  | .removeSheet =>
      checkCount "book_remove_sheet" (.exactly 1) arguments
      let name ← textArgument "book_remove_sheet" first "name"
      let _ ← editBook (Book.remove name)
      return .null
  | .renameSheet =>
      checkCount "book_rename_sheet" (.exactly 2) arguments
      let old ← textArgument "book_rename_sheet" first "old name"
      let new ← textArgument "book_rename_sheet" (argument arguments 1) "new name"
      changeForRef (Book.renameSheet old new)
  | .getSheetByIndex =>
      checkCount "book_get_sheet_by_index" (.exactly 1) arguments
      let index ← operation (intArgument "book_get_sheet_by_index" first "index")
      let sheet ← onSheet (book.getByIndex index)
      let ref ← onSheet (book.ref sheet.name)
      return .sheet ref
  | .activeSheet =>
      checkCount "book_active_sheet" (.exactly 0) arguments
      match book.activeSheet with
      | some sheet =>
          let ref ← onSheet (book.ref sheet.name)
          return .sheet ref
      | none => return .null
  | .setActiveSheet =>
      checkCount "book_set_active_sheet" (.exactly 1) arguments
      let name ← textArgument "book_set_active_sheet" first "name"
      editBook (Book.setActive name)
      return .null
  | .addEmptySheet =>
      checkCount "book_add_empty_sheet" (.exactly 1) arguments
      let name ← textArgument "book_add_empty_sheet" first "name"
      changeForRef (Book.addEmpty name)
  | .consolidate => consolidateBook arguments
  | .merge => mergeBook arguments

end GridScript.Script
