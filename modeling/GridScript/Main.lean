import GridScript.Command.Execute
import GridScript.Log.Event
import Std.Time.DateTime.Timestamp

namespace GridScript.Command

/-!
# The command line

This layer loads the files that a command names, executes it, and stores what
has changed. A file that a script turns out to need is loaded as soon as its
lack has stopped the script, and the script then starts anew.
-/

open GridScript.Script

/-- The files with the file or the folder at a path loaded, if there is one. -/
def loadPath (files : Files) (path : String) : IO Files := do
  try
    return files.place path (← IO.FS.readBinFile path)
  catch _ =>
    try
      let _ ← IO.FS.Handle.mk (path ++ "/.") .read
      return files.withFolder path
    catch _ => return files

/-- The files with a path and its folder loaded. -/
def loadWithFolder (files : Files) (path : String) : IO Files := do
  loadPath (← loadPath files (Files.folder path)) path

/-- Store the files that have changed. -/
def storeChanges (before after : Files) : IO Unit := do
  for (path, content) in after.contents do
    if before.read? path != some content then
      IO.FS.createDirAll (Files.folder path)
      IO.FS.writeBinFile path content

/-- Write to the output and to the error stream. -/
def put (written : Written) : IO Unit := do
  let output ← IO.getStdout
  output.putStr written.output
  output.flush
  (← IO.getStderr).putStr written.errors

/-- The name of a crash on the error stream. -/
def Crash.text : Crash → String
  | .halted (.error error) => errorText error
  | .halted (.breach b) => (b.message?).getD "number out of range"
  | .halted .exhausted => "calls nest too deep"
  | .notText fault => fault.message
  | .malformedEntry => "malformed entry in the journal"

/-- Report a crash. -/
def reportCrash (crash : Option Crash) : IO Unit := do
  if let some crash := crash then (← IO.getStderr).putStrLn s!"Error: {crash.text}"

/-- Execute a command, and again as long as its script lacks a file
that can be loaded. -/
partial def executeLoading (request : Request) (command : Invocation)
  (tried : List String) :
    IO (Request × Answer) := do
  let answer := command.execute request
  match answer.lacking with
  | some path =>
      if tried.contains path then return (request, answer)
      else
        let files ← loadWithFolder request.files path
        executeLoading { request with files := files } command (path :: tried)
  | none => return (request, answer)

/-- Take a line of a session, and again as long as its script lacks a file
that can be loaded. -/
partial def enterLoading (recording : Recording) (session : Session) (line : String)
    (tried : List String) : IO (Session × Session.Reply) := do
  let reply := session.enter recording line
  match lackingPath? reply.halt with
  | some path =>
      if tried.contains path then return (session, reply)
      else
        let files ← loadWithFolder session.host.files path
        let loaded := { session with host := { session.host with files := files } }
        enterLoading recording loaded line (path :: tried)
  | none => return (session, reply)

/-- Read lines for a session until one ends it. -/
partial def converse (recording : Recording) (session : Session) : IO UInt32 := do
  put ⟨session.prompt, ""⟩
  let line ← (← IO.getStdin).getLine
  if line.isEmpty then
    put ⟨"\n", ""⟩
    return 0
  else if session.isQuit line then return 0
  else
    let (before, reply) ← enterLoading recording session line []
    put reply.written
    storeChanges before.host.files reply.session.host.files
    match Session.breakOf? reply.halt with
    | some halt =>
        reportCrash (some (.halted halt))
        return 1
    | none => converse recording reply.session

/-- Files with the journal of a recording loaded. -/
def loadJournal (recording : Recording) (files : Files) : IO Files :=
  match recording.folder with
  | some folder => loadWithFolder files (Log.inFolder folder Log.Journal.allName)
  | none => return files

/-- Hold a session with the settings of a folder. -/
def holdSession
    (request : Request)
    (recording : Recording)
    (host : Host) : IO UInt32 := do
  let files ← loadJournal recording request.files
  put ⟨banner host, ""⟩
  converse recording (Session.start { host with files := files })

/-- Execute a command that is no session. -/
def executeOnce (request : Request) (command : Invocation) : IO UInt32 := do
  let (loaded, answer) ← executeLoading request command []
  put answer.written
  reportCrash answer.crash
  storeChanges loaded.files answer.files
  return answer.exitCode.toUInt32

/-- A name for a run, from random bytes. -/
def freshRun : IO String := do
  let bytes ← IO.getRandomBytes 6
  return String.ofList (bytes.toList.flatMap fun byte =>
    [Json.hexDigit (byte.toNat / 16), Json.hexDigit (byte.toNat % 16)])

/-- The request of a command, with the files that it names loaded. -/
def makeRequest (command : Invocation) : IO Request := do
  let now ← Std.Time.Timestamp.now
  let time := Log.stampText (now.toNanosecondsSinceUnixEpoch.toInt.toNat / 1000)
  let files ← (command.sources ".").foldlM loadPath Files.empty
  return ⟨files, ".", "", time, 0, ← freshRun⟩

/-- Execute a command on the files of the disk. -/
def executeCommand (command : Invocation) : IO UInt32 := do
  let request ← makeRequest command
  match command with
  | .run file verbose configFolder =>
      match setUp request verbose configFolder with
      | .error _ => executeOnce request command
      | .ok (recording, host) =>
          if file.isNone && (configFolder.map request.hasFolder).getD true then
            holdSession request recording host
          else
            let files ← loadJournal recording request.files
            executeOnce { request with files := files } command
  | _ => executeOnce request command

end GridScript.Command

/-- The program. -/
def main (arguments : List String) : IO UInt32 :=
  match GridScript.Command.Invocation.ofArguments? arguments with
  | some command => GridScript.Command.executeCommand command
  | none => do
      (← IO.getStderr).putStr GridScript.Command.helpText
      return 2
