import GridScript.Command.Basic
import GridScript.Command.Session
import GridScript.Files.Tables
import GridScript.Format.Code
import GridScript.Formula.SheetReference
import GridScript.Log.Journal
import GridScript.Settings

namespace GridScript.Command

/-!
# Execution of commands

A command reads files and the input, and leaves an exit code, what it
writes, and the files. Exit code one reports a failure, and two that the
arguments fit no command.
-/

open GridScript.Script
open GridScript.Text

/-- What breaks a command off without a report of its own. -/
inductive Crash where
  | halted (halt : Halt)
  /-- The bytes of a script are no text. -/
  | notText (fault : Utf8Fault)
  /-- An entry of a journal is no object, or its level no text. -/
  | malformedEntry
  deriving Repr

/-- What a command leaves. -/
structure Answer where
  exitCode : Nat
  written : Written
  files : Files
  crash : Option Crash
  /-- The path of a file whose lack has stopped a script. -/
  lacking : Option String

/-- What a command works on. -/
structure Request where
  files : Files
  /-- The folder of the settings where no other is given. -/
  folder : String
  input : String
  /-- The time that journals name. -/
  time : String
  /-- The time in milliseconds that reports of runs name. -/
  elapsed : Float
  /-- What tells the runs of this command from others. -/
  run : String

namespace Request

/-- A success with its output. -/
def success (request : Request) (output : String) : Answer :=
  ⟨0, ⟨output, ""⟩, request.files, none, none⟩

/-- A failure with its message. -/
def failure (request : Request) (message : String) : Answer :=
  ⟨1, ⟨"", s!"Error: {message}\n"⟩, request.files, none, none⟩

/-- The arguments fit no command. -/
def misuse (request : Request) : Answer :=
  ⟨2, .nothing, request.files, none, none⟩

/-- A command broken off. -/
def crashed (request : Request) (crash : Crash) : Answer :=
  ⟨1, .nothing, request.files, some crash, none⟩

/-- There is a file at a path. -/
def hasFile (request : Request) (path : String) : Bool :=
  (request.files.read? path).isSome

/-- There is a folder at a path. -/
def hasFolder (request : Request) (path : String) : Bool :=
  request.files.isFolder path

end Request

/-- The version of the program. -/
def versionText : String := "0.1.0"

/-- The text of the request for help. -/
def helpText : String :=
  "Usage: sheetscript [OPTIONS] COMMAND [ARGS]...\n\n" ++
    "Commands:\n  events\n  format\n  formula\n  run\n  run-log\n"

/-- Line breaks of every form as line feeds. -/
def unifyBreaks : List Char → List Char
  | [] => []
  | '\r' :: '\n' :: rest => '\n' :: unifyBreaks rest
  | '\r' :: rest => '\n' :: unifyBreaks rest
  | c :: rest => c :: unifyBreaks rest

/-- Lines with the line feeds that end them, where `line` holds the
current line in reverse. -/
def keepLines (line : List Char) : List Char → List String
  | [] => if line.isEmpty then [] else [String.ofList line.reverse]
  | c :: rest =>
      if c = '\n' then String.ofList (c :: line).reverse :: keepLines [] rest
      else keepLines (c :: line) rest

/-- The lines of an input. -/
def inputLines (input : String) : List String :=
  keepLines [] (unifyBreaks input.toList)

/-- The text of a file with its line breaks unified. -/
def scriptText (files : Files) (path : String) : Except Crash String :=
  let bytes := (files.read? path).getD ByteArray.empty
  match String.fromUTF8? bytes, utf8Fault? bytes with
  | some text, _ => .ok (String.ofList (unifyBreaks text.toList))
  | none, some fault => .error (.notText fault)
  | none, none => .ok ""

/-- The value that a text of the command line denotes. -/
def argumentValue (text : String) : Value :=
  (Cell.parse text).toValue

/-- Where the events of a run go. -/
def recordingOf
    (request : Request)
    (settings : Settings)
    (verbose : Bool) : Recording :=
  ⟨verbose || settings.echo, settings.logFolder, request.time, request.elapsed,
    request.run⟩

/-- The path of a file that could not be read or written. -/
def lackingPath? : Option Halt → Option String
  | some (.error ⟨.sheet (.file path), _⟩) => some path
  | _ => none

/-- Run the script of a file. -/
def runFile
    (request : Request)
    (recording : Recording)
    (host : Host)
    (path : String) : Answer :=
  match scriptText request.files path with
  | .error crash => request.crashed crash
  | .ok text =>
      let label : RunLabel := ⟨recording.run, recording.elapsed⟩
      let report := runText text label host (Environment.ofGlobals [])
      let echoed := echoOf recording report.host
      let (exitCode, errors) :=
        match report.halt with
        | none => (0, "")
        | some (.error error) => (1, "Error: " ++ errorText error ++ "\n")
        | some _ => (1, "")
      { exitCode := exitCode
        written := ⟨report.host.output, echoed ++ errors⟩
        files := (recordEvents recording report.host).files
        crash := (Session.breakOf? report.halt).map Crash.halted
        lacking := lackingPath? report.halt }

/-- The line that opens a session. -/
def banner (host : Host) : String :=
  s!"sheetscript {versionText} (book " ++ quoted host.book.name ++
    "); :quit to exit\n"

/-- Run a session over the lines of the input. -/
def runSession (request : Request) (recording : Recording) (host : Host) : Answer :=
  let (session, written, stop) :=
    (Session.start host).transcript recording ⟨banner host, ""⟩
      (inputLines request.input)
  { exitCode := if stop.isSome then 1 else 0
    written := written
    files := session.host.files
    crash := stop.map Crash.halted
    lacking := none }

/-- The recording and the host of runs with the settings of a folder. -/
def setUp
    (request : Request)
    (verbose : Bool)
    (configFolder : Option String) : Except SettingsError (Recording × Host) := do
  let settings :=
    Settings.ofList
      (← loadSettings request.files (configFolder.getD request.folder))
  return (recordingOf request settings verbose,
    { Host.ofSettings settings with files := request.files })

/-- Run a script or a session with the settings of a folder. -/
def executeRun
    (request : Request)
    (file : Option String)
    (verbose : Bool)
    (configFolder : Option String) : Answer :=
  if !(file.map request.hasFile).getD true ||
      !(configFolder.map request.hasFolder).getD true then
    request.misuse
  else
    match setUp request verbose configFolder with
    | .error error => request.failure error.message
    | .ok (recording, host) =>
        match file with
        | some path => runFile request recording host path
        | none => runSession request recording host

/-- The names that settings of a formula bind; the first setting without an
equals sign fails. -/
def contextOf
    (context : Formula.Context) : List String → Except String Formula.Context
  | [] => .ok context
  | setting :: rest =>
      match splitLong setting with
      | (_, none) => .error setting
      | (name, some text) =>
          contextOf ((name, argumentValue text) :: context.filter fun held =>
            held.1 != name) rest

/-- The sheet of a comma-separated file, if one is given. -/
def formulaSheet
    (request : Request)
    (csv : Option String)
    (headers : Bool) : Except SheetError (Option Sheet) :=
  match csv with
  | none => .ok none
  | some path => (request.files.readCsv path none headers).map some

/-- Evaluate a formula, against the sheet of a comma-separated
file if one is given. -/
def executeFormula
    (request : Request)
    (text : String)
    (csv : Option String)
    (headers : Bool)
    (settings : List String) : Answer :=
  if !(csv.map request.hasFile).getD true then request.misuse
  else
    match contextOf [] settings with
    | .error setting =>
        request.failure
          ("Invalid --set format: " ++ quoted setting ++ ". Use key=value.")
    | .ok context =>
        match formulaSheet request csv headers with
        | .error error => request.failure s!"{error.kindText}: {error.message}"
        | .ok sheet =>
            let resolver := sheet.map fun current => Formula.resolverOn current none
            match Formula.evaluate context resolver text with
            | .ok v => request.success (v.display ++ "\n")
            | .error (.error error) =>
                request.failure s!"{error.kindText}: {error.message}"
            | .error (.breach b) => request.crashed (.halted (.breach b))

/-- The lines that show entries, up to the first that cannot be shown. -/
def listEntries (request : Request) (shown : String) : List Json → Answer
  | [] => request.success shown
  | entry :: rest =>
      match Log.shownEntry? entry with
      | some line => listEntries request (shown ++ line) rest
      | none => ⟨1, ⟨shown, ""⟩, request.files, some .malformedEntry, none⟩

/-- Show the entries of a journal, or say that there are none. -/
def showEntries
    (request : Request)
    (entries : List Json)
    (emptyText : String) : Answer :=
  if entries.isEmpty then request.success (emptyText ++ "\n")
  else listEntries request "" entries

/-- Execute a command. -/
def Invocation.execute (request : Request) : Invocation → Answer
  | .version => request.success s!"sheetscript, version {versionText}\n"
  | .help => request.success helpText
  | .run file verbose configFolder => executeRun request file verbose configFolder
  | .format value code =>
      request.success (Format.formatValue (argumentValue value) code ++ "\n")
  | .formula text csv headers settings =>
      executeFormula request text csv headers settings
  | .events folder level type runId limit =>
      if request.hasFolder folder then
        let journal := Log.journalIn request.files folder [Log.Journal.allName]
        showEntries request (journal.readAll ⟨level, type, runId, some limit⟩)
          "No events found."
      else request.misuse
  | .runLog folder runId =>
      if request.hasFolder folder then
        let journal :=
          Log.journalIn request.files folder [Log.Journal.runName runId]
        showEntries request (journal.readRun runId)
          s!"No events found for run {runId}."
      else request.misuse

/-- The paths that a command reads itself. -/
def Invocation.sources (folder : String) : Invocation → List String
  | .run file _ configFolder =>
      let settings := configFolder.getD folder
      file.toList ++ [settings, pathIn settings settingsFileName]
  | .formula _ csv _ _ => csv.toList
  | .events journal _ _ _ _ => [journal, Log.inFolder journal Log.Journal.allName]
  | .runLog journal runId =>
      [journal, Log.inFolder journal (Log.Journal.runName runId)]
  | _ => []

/-- Execute what arguments ask for. -/
def execute (request : Request) (arguments : List String) : Answer :=
  match Invocation.ofArguments? arguments with
  | some command => command.execute request
  | none => request.misuse

end GridScript.Command
