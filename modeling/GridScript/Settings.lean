import GridScript.Files.Basic
import GridScript.Text.Utf8
import GridScript.Value.Failure
import GridScript.Value.Order
import GridScript.Yaml.Reading

namespace GridScript

/-!
# Settings

Settings are named values. Those that are not given have defaults, and names
that are not known are kept.
-/

/-- Named settings, in order. -/
abbrev SettingList := List (String × Json)

/-- The settings that hold where none are given. -/
def defaultSettings : SettingList := [
  ("max_loop_iterations", .int 10000000),
  ("max_call_depth", .int 100),
  ("log_dir", .null),
  ("default_book_name", .string "Book1"),
  ("csv_has_headers", .bool true),
  ("echo_events", .bool false)]

/-- Settings with further ones in their places. -/
def mergeSettings (settings further : SettingList) : SettingList :=
  further.foldl (fun merged (name, value) => Json.insertMember name value merged)
    settings

/-- The settings that a run looks at. -/
structure Settings where
  /-- The greatest number of iterations of a loop; none if there is no limit. -/
  loopLimit : Option Number
  /-- The greatest depth of calls of script functions. -/
  callLimit : Number
  bookName : String
  /-- The first line of a comma-separated text names the columns. -/
  csvHeaders : Bool
  /-- Events are mirrored on the error stream. -/
  echo : Bool
  /-- The folder of the log. -/
  logFolder : Option String
  deriving Repr

/-- The number that a document is; a truth value counts as one or zero. -/
def Json.number? : Json → Option Number
  | int i => some (.int i)
  | float x => some (.float x)
  | bool b => some (.int (if b then 1 else 0))
  | _ => none

/--
The settings of a list, with defaults for what it lacks.

Limits have to be numbers. For others a run may fail where it looks at the limit,
which is not described here: a limit of calls that is no number is the default
one, and a limit of iterations that is no number is none.
-/
def Settings.ofList (settings : SettingList) : Settings :=
  let value (name : String) : Json :=
    ((mergeSettings defaultSettings settings).lookup name).getD .null
  let callLimit := value "max_call_depth"
  { loopLimit := (value "max_loop_iterations").number?
    callLimit :=
    if callLimit.isTruthy then callLimit.number?.getD (.int 100) else .int 100
    bookName := (value "default_book_name").text?.getD ""
    csvHeaders := (value "csv_has_headers").isTruthy
    echo := (value "echo_events").isTruthy
    logFolder := (value "log_dir").text? }

/-!
## Settings from files

A folder may hold a file with settings. Its mapping is merged over the defaults;
a file without content changes nothing.
-/

open GridScript.Text

/-- The name of the file with settings. -/
def settingsFileName : String := "sheetscript.yaml"

/-- Why a file gives no settings. -/
inductive SettingsError where
  /-- The bytes of the file are no text. -/
  | notText (fault : Utf8Fault)
  /-- The text of the file is no document. -/
  | malformed (path : String)
  | noMapping (path : String)
  deriving Repr, DecidableEq

/-- The wording of an error of settings. -/
def SettingsError.message : SettingsError → String
  | notText fault => fault.message
  | malformed path => s!"{path} cannot be read"
  | noMapping path => s!"{path} must contain a mapping"

/-- The settings of a text that a file at a path holds. -/
def readSettings (path text : String) : Except SettingsError SettingList :=
  match Yaml.parse? text with
  | none => .error (.malformed path)
  | some (.object members) => .ok (mergeSettings defaultSettings members)
  | some document =>
      if document.isTruthy then .error (.noMapping path) else .ok defaultSettings

/-- The path of a name in a folder. -/
def pathIn (folder name : String) : String :=
  Files.plainPath (folder ++ "/" ++ name)

/-- The settings of a folder. -/
def loadSettings
    (files : Files)
    (folder : String) : Except SettingsError SettingList :=
  let path := pathIn folder settingsFileName
  match files.read? path with
  | none => .ok defaultSettings
  | some bytes =>
      match String.fromUTF8? bytes, utf8Fault? bytes with
      | some text, _ => readSettings path text
      | none, some fault => .error (.notText fault)
      | none, none => .error (.malformed path)

end GridScript
