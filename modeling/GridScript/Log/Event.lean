import GridScript.Format.Moment
import GridScript.Log.Redaction
import GridScript.Number.Exact
import GridScript.Number.Reading

namespace GridScript.Log

/-!
# Events

An event reports what a script did. Its context is redacted before it is
written, and an event whose context lacks what its type requires becomes a
warning that says so.
-/

/-- The levels of events. -/
inductive Level where
  | info
  | warning
  | error
  deriving Repr, DecidableEq

/-- The word for a level. -/
def Level.text : Level → String
  | info => "info"
  | warning => "warning"
  | error => "error"

/-- The level that a word names. -/
def Level.ofText? (text : String) : Option Level :=
  [info, warning, error].find? fun level => level.text == text

/-- The types of events. -/
inductive EventType where
  | scriptStarted
  | scriptCompleted
  | scriptFailed
  | parseFailed
  | sheetImported
  | sheetExported
  | unsupportedFeature
  deriving Repr, DecidableEq

namespace EventType

/-- The word for a type. -/
def text : EventType → String
  | scriptStarted => "script_started"
  | scriptCompleted => "script_completed"
  | scriptFailed => "script_failed"
  | parseFailed => "parse_failed"
  | sheetImported => "sheet_imported"
  | sheetExported => "sheet_exported"
  | unsupportedFeature => "unsupported_feature"

/-- Every type. -/
def all : List EventType :=
  [scriptStarted, scriptCompleted, scriptFailed, parseFailed, sheetImported,
    sheetExported, unsupportedFeature]

/-- The type that a word names. -/
def ofText? (text : String) : Option EventType :=
  all.find? fun type => type.text == text

/-- The keys that the context of an event of a type must have, sorted. -/
def requiredKeys : EventType → List String
  | scriptStarted => []
  | scriptCompleted => ["statements"]
  | scriptFailed => ["error_type"]
  | parseFailed => []
  | sheetImported => ["path", "sheet"]
  | sheetExported => ["path", "sheet"]
  | unsupportedFeature => ["feature"]

end EventType

/-- A report of what a script did. -/
structure Event where
  schemaVersion : Int
  level : Level
  type : EventType
  /-- The run that the event belongs to. -/
  run : Option String
  context : List (String × Json)
  message : String
  errorCode : Option String
  deriving Repr

namespace Event

/-- The keys that the context lacks. -/
def missingKeys (event : Event) : List String :=
  event.type.requiredKeys.filter fun key => !(event.context.lookup key).isSome

/-- The event with what its context lacks noted in it. -/
def attributed (event : Event) : Event :=
  match event.missingKeys with
  | [] => event
  | missing =>
      { event with
        level := .warning
        context :=
          Json.insertMember "_missing_attribution" (.array (missing.map .string))
            event.context }

/-- The event as it is written: redacted, and with what its context
lacks noted in it. -/
def prepared (event : Event) : Event :=
  { event with context := redactMembers event.context }.attributed

/-- A text, or null. -/
def optionalText : Option String → Json
  | some s => .string s
  | none => .null

/-- The record of an event, with its keys in order. -/
def record (event : Event) : Json :=
  .object [
    ("context", .object event.context),
    ("error_code", optionalText event.errorCode),
    ("event_type", .string event.type.text),
    ("level", .string event.level.text),
    ("message", .string event.message),
    ("run_id", optionalText event.run),
    ("schema_version", .int event.schemaVersion)]

/-- The line that mirrors an event on the error stream. -/
def echo (event : Event) : String :=
  s!"[sheetscript] {event.level.text} {event.type.text}: {event.message}\n"

end Event

/-- An event of the current schema. -/
def event
    (level : Level)
    (type : EventType)
    (run : Option String)
    (message : String)
    (context : List (String × Json))
    (errorCode : Option String) : Event :=
  ⟨1, level, type, run, context, message, errorCode⟩

/-- The integer that a field holds: a number without a fraction, a
truth value or a text. -/
def wholeField? : Json → Option Int
  | .int i => some i
  | .bool b => some (if b then 1 else 0)
  | .float x => Number.whole? x
  | .string s =>
      match Number.readInt s.toList with
      | .value i => some i
      | _ => none
  | _ => none

/-- The text that a field holds, which may be missing or null. -/
def textField? : Option Json → Option (Option String)
  | none => some none
  | some .null => some none
  | some (.string s) => some (some s)
  | some _ => none

/-- The event with some fields; level and type are required, and
others have defaults. -/
def Event.ofMembers? (members : List (String × Json)) : Option Event := do
  let level ← Level.ofText? (← (← members.lookup "level").text?)
  let type ← EventType.ofText? (← (← members.lookup "event_type").text?)
  let version ← wholeField? ((members.lookup "schema_version").getD (.int 1))
  let run ← textField? (members.lookup "run_id")
  let errorCode ← textField? (members.lookup "error_code")
  let message ← ((members.lookup "message").getD (.string "")).text?
  let _ ← ((members.lookup "ts").getD (.string "")).text?
  match (members.lookup "context").getD (.object []) with
  | .object context =>
      return ⟨version, level, type, run, context, message, errorCode⟩
  | _ => none

/-!
## Time stamps

Events are stamped with the time in microseconds since the start of the year 1970.
-/

section Stamps

open GridScript.Format

/-- Seconds from the 30th of December 1899 to the start of the year 1970. -/
def epochSeconds : Nat := 25569 * 86400

/-- The text of a time; times after the year 9999 have none. -/
def stampText (microseconds : Nat) : String :=
  match Moment.ofSeconds? (microseconds / 1000000 + epochSeconds) with
  | some moment => moment.text ++ "." ++
    String.ofList (padded 6 (microseconds % 1000000)) ++ "Z"
  | none => ""

end Stamps

end GridScript.Log
