import GridScript.Book.Consolidate
import GridScript.Book.Registry
import GridScript.Files.Basic
import GridScript.Log.Event
import GridScript.Script.Builtin.Arguments
import GridScript.Script.Failure
import GridScript.Settings

namespace GridScript.Script

/-!
# What scripts share

Scripts work on one book, may take sheets from registered books, read and write
files, print, and leave events. A built-in function changes the host and gives a
value or fails; what it has changed before it fails stays changed.
-/

/-- What the scripts of a session share. -/
structure Host where
  book : Book
  /-- Books that other scripts have registered, if there is a registry. -/
  registry : Option (Registry Book)
  files : Files
  settings : Settings
  /-- What has been printed, the last text first. -/
  printed : List String
  /-- The events of all runs, the last first. -/
  events : List Log.Event

namespace Host

/-- A host with a book of its own and without registry and files. -/
def ofSettings (settings : Settings) : Host :=
  ⟨Book.empty 1 settings.bookName, none, Files.empty, settings, [], []⟩

/-- Print a text. -/
def print (host : Host) (text : String) : Host :=
  { host with printed := text :: host.printed }

/-- Leave an event. -/
def emit (host : Host) (event : Log.Event) : Host :=
  { host with events := event.prepared :: host.events }

/-- All that has been printed. -/
def output (host : Host) : String :=
  String.join host.printed.reverse

end Host

/-- The call of a built-in function: its line and the run that it belongs to. -/
structure CallSite where
  line : Nat
  run : String
  deriving Repr

/-- A result that may fail with a cause. -/
abbrev Attempt (α : Type) := Outcome Cause α

/-- The result of an operation on values. -/
def operation (result : Outcome OperationError α) : Attempt α :=
  Outcome.mapError .operation result

/-- The result of an operation on a sheet. -/
def onSheet (result : Outcome SheetError α) : Attempt α :=
  Outcome.mapError .sheet result

/-- A change of the host. -/
abbrev HostChange := Change Cause Host

/-- The name under which the book keeps the sheet that an argument names: by a
reference to it or by its name. -/
def sheetKey (book : Book) (function : String) (v : Value) : Attempt String :=
  match v with
  | .sheet ref => do
      let _ ← onSheet (book.resolve ref)
      return ref.name
  | .string name => do
      let _ ← onSheet (book.get name)
      return name
  | v => fail (.operation (typeFound function .sheetOrName v))

/-- The sheet that an argument names. -/
def resolveSheet (book : Book) (function : String) (v : Value) : Attempt Sheet := do
  let key ← sheetKey book function v
  onSheet (book.get key)

/-- A change of the book. -/
def editBook (change : BookChange α) : HostChange α := do
  let book ← Change.look Host.book
  Change.onPart book (fun after host => { host with book := after })
    (change.mapError .sheet)

/-- A change of the sheet that the book keeps under a name. -/
def editHeld (key : String) (change : Change Cause Sheet α) : HostChange α := do
  let sheet ← Change.ask fun host => onSheet (host.book.get key)
  Change.onPart sheet
    (fun after host => { host with book := host.book.store key after }) change

/-- Leave an event. -/
def leaveEvent (event : Log.Event) : HostChange Unit :=
  modify (·.emit event)

/-- The cells as an array of values. -/
def arrayOfCells (cells : List Cell) : Value :=
  .array (cells.map Cell.toValue)

/-- Rows of cells as an array of arrays of values. -/
def arrayOfRows (rows : List (List Cell)) : Value :=
  .array (rows.map arrayOfCells)

/-- Texts as an array. -/
def arrayOfTexts (texts : List String) : Value :=
  .array (texts.map .string)

end GridScript.Script
