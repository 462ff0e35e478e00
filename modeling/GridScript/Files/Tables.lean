import GridScript.Files.Basic
import GridScript.Table.Csv
import GridScript.Table.Frame

namespace GridScript.Files

/-!
# Tables in files

A sheet can be read from and written to a comma-separated text or a stored
frame. Without a name the sheet gets the name of its file.
-/

open GridScript.Table

/-- A result, or the error that a file cannot be read or written. -/
def orFileError (path : String) : Option α → Except SheetError α
  | some a => .ok a
  | none => .error (.file (plainPath path))

/-- The name of a sheet: the given one, or the name of its file. -/
def sheetName (path : String) (name : Option String) : String :=
  match name with
  | some name => if name.isEmpty then stem path else name
  | none => stem path

/-- The sheet of a comma-separated file. -/
def readCsv
    (files : Files)
    (path : String)
    (name : Option String)
    (headers : Bool) : Except SheetError Sheet :=
  orFileError path do
    Table.readCsv? (← files.readText? path) (sheetName path name) headers

/-- Write a sheet to a comma-separated file. -/
def writeCsv
    (files : Files)
    (sheet : Sheet)
    (path : String) : Except SheetError Files :=
  orFileError path (files.write? path (Table.writeCsv sheet).toUTF8)

/-- The sheet of a stored frame. -/
def readFrame (files : Files) (path : String) (name : Option String) :
    Outcome SheetError Sheet := do
  let frame ← liftError (orFileError path do loadFrame? (← files.readText? path))
  sheetOfFrame frame (sheetName path name)

/-- Store a sheet as a frame. -/
def writeFrame
    (files : Files)
    (sheet : Sheet)
    (path : String) : Except SheetError Files :=
  orFileError path (files.write? path (storeFrame (frameOf sheet)).toUTF8)

end GridScript.Files
