import GridScript.Files.Tables
import GridScript.Script.Builtin.Sheets

namespace GridScript.Script

/-!
# File functions

Imports read a whole file before they change the book, and either add all sheets
of the file or none. Every sheet that is imported or exported leaves an event.
-/

/-- The event that a sheet has come from or gone to a file. -/
def transferEvent
    (site : CallSite)
    (type : Log.EventType)
    (path : String)
    (sheet : Sheet) : Log.Event :=
  let (verb, preposition) :=
    match type with
    | .sheetExported => ("Exported", "to")
    | _ => ("Imported", "from")
  let message :=
    s!"{verb} sheet {Text.quoted sheet.name} ({sheet.rowCount} rows) " ++
      s!"{preposition} {path}"
  Log.event .info type (some site.run) message
    [("path", .string path), ("sheet", .string sheet.name),
      ("rows", .int sheet.rowCount), ("line", .int site.line)] none

/-- Add an imported sheet to the book. -/
def addImported
    (site : CallSite)
    (path : String)
    (sheet : Sheet) : HostChange Value := do
  let ref ← editBook (Book.add sheet.name sheet)
  leaveEvent (transferEvent site .sheetImported path sheet)
  return .sheet ref

/-- Add imported sheets to the book, all or none. -/
def addAllImported (site : CallSite) (path : String) (sheets : List Sheet) :
    HostChange Value := do
  let book ← Change.look Host.book
  sheets.forM fun sheet =>
    Change.require (book.has sheet.name = false) (.sheet (.sheetExists sheet.name))
  let refs ← sheets.mapM fun sheet => editBook (Book.add sheet.name sheet)
  sheets.forM fun sheet => leaveEvent (transferEvent site .sheetImported path sheet)
  return .array (refs.map .sheet)

/-- An argument other than null. -/
def presentArgument : Option Value → Option Value
  | some .null => none
  | given => given

/-- The files of the host. -/
def storeFiles (files : Files) : HostChange Unit :=
  modify fun host => { host with files := files }

/-- Write a sheet of the book to a file. -/
def exportSheet
    (site : CallSite)
    (function : String)
    (arguments : List Value)
    (write : Files → Sheet → String → Except SheetError Files) : HostChange Value :=
    do
  checkCount function (.exactly 2) arguments
  let path ← textArgument function (argument arguments 1) "path"
  let book ← Change.look Host.book
  let sheet ← resolveSheet book function (argument arguments 0)
  let files ← Change.ask fun host =>
    onSheet (liftError (write host.files sheet path))
  storeFiles files
  leaveEvent (transferEvent site .sheetExported path sheet)
  return .null

/-- Add the sheet of a comma-separated file. -/
def importCsv (site : CallSite) (arguments : List Value) : HostChange Value := do
  checkCount "import_csv" (.between 1 3) arguments
  let path ← textArgument "import_csv" (argument arguments 0) "path"
  let name ← nameArgument "import_csv" "name" (presentArgument arguments[1]?)
  let settings ← Change.look Host.settings
  let headers := (arguments[2]?.map Value.isTruthy).getD settings.csvHeaders
  let sheet ← Change.ask fun host =>
    onSheet (liftError (host.files.readCsv path name headers))
  addImported site path sheet

/-- Add the sheet of a stored frame. -/
def importFrame (site : CallSite) (arguments : List Value) : HostChange Value := do
  checkCount "import_parquet" (.between 1 2) arguments
  let path ← textArgument "import_parquet" (argument arguments 0) "path"
  let name ← nameArgument "import_parquet" "name" arguments[1]?
  let sheet ← Change.ask fun host => onSheet (host.files.readFrame path name)
  addImported site path sheet

/-- The tables of a document in a file. -/
def readDocument (files : Files) (path : String) : Attempt (List Sheet) :=
  match files.read? path with
  | none => fail (.sheet (.file path))
  | some bytes =>
      match Table.readMarkdownBytes bytes with
      | .error error => fail (.document error)
      | .ok sheets => .ok sheets

/-- Add the sheets of the tables of a document. -/
def importMarkdown
    (site : CallSite)
    (arguments : List Value) : HostChange Value := do
  checkCount "import_markdown" (.between 1 2) arguments
  let path ← textArgument "import_markdown" (argument arguments 0) "path"
  let leading ← nameArgument "import_markdown" "prefix" arguments[1]?
  let sheets ← Change.ask fun host => readDocument host.files path
  addAllImported site path
    (sheets.map fun sheet => sheet.rename (leading.getD "" ++ sheet.name))

/-- A file function applied to its arguments. -/
def callFile (function : FileFunction) (site : CallSite) (arguments : List Value) :
    HostChange Value :=
  match function with
  | .importCsv => importCsv site arguments
  | .exportCsv => exportSheet site "export_csv" arguments Files.writeCsv
  | .importParquet => importFrame site arguments
  | .exportParquet => exportSheet site "export_parquet" arguments Files.writeFrame
  | .importMarkdown => importMarkdown site arguments

end GridScript.Script
