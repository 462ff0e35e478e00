import GridScript.Log.Journal
import GridScript.Script.Run

namespace GridScript.Command

/-!
# Interactive sessions

A session reads lines until they form a script, runs it and keeps the book, the
variables and the functions for what follows. An entry whose blocks are still
open goes on with the next line.
-/

open GridScript.Script
open GridScript.Text

/-- What a session writes: to the output and to the error stream. -/
structure Written where
  output : String
  errors : String
  deriving Repr, DecidableEq

/-- Nothing written. -/
def Written.nothing : Written := ⟨"", ""⟩

/-- Where and when events are written and whether they are mirrored. -/
structure Recording where
  echo : Bool
  folder : Option String
  /-- The time that the journal names. -/
  time : String
  /-- The time in milliseconds that reports of runs name. -/
  elapsed : Float
  /-- What tells the runs from those of others. -/
  run : String
  deriving Repr

/-- The lines that mirror the events of a host. -/
def echoOf (recording : Recording) (host : Host) : String :=
  if recording.echo then String.join (host.events.reverse.map Log.Event.echo)
  else ""

/-- The host after its events are written to the journal and forgotten. -/
def recordEvents (recording : Recording) (host : Host) : Host :=
  let files :=
    match recording.folder with
    | some folder =>
        host.events.reverse.foldl (Log.writeTo folder recording.time) host.files
    | none => host.files
  { host with files := files, events := [], printed := [] }

/-- The kind and the wording of an error. -/
def errorText (error : ScriptError) : String :=
  s!"{error.cause.kindText}: {error.text}"

/-- An interactive session. -/
structure Session where
  host : Host
  env : Environment
  /-- The definitions of earlier entries, by lower-case name. -/
  definitions : List (String × Statement)
  /-- The lines of an entry that is not complete. -/
  pending : String
  /-- The number of runs so far. -/
  runs : Nat

namespace Session

/-- A new session on a host. -/
def start (host : Host) : Session :=
  ⟨host, Environment.ofGlobals [], [], "", 0⟩

/-- What the session asks with. -/
def prompt (session : Session) : String :=
  if session.pending.isEmpty then ">>> " else "... "

/-- The definitions at the top level of a program, by lower-case name. -/
def definitionsOf (program : Program) : List (String × Statement) :=
  program.statements.filterMap fun statement =>
    statement.definition?.map fun definition => (lower definition.name, statement)

/-- Definitions with a further one in the place of an earlier one of its name. -/
def keep
    (definitions : List (String × Statement))
    (name : String)
    (statement : Statement) : List (String × Statement) :=
  if definitions.any fun held => held.1 == name then
    definitions.map fun held => if held.1 == name then (name, statement) else held
  else definitions ++ [(name, statement)]

/-- A program after the definitions that it does not replace. -/
def withDefinitions
    (definitions : List (String × Statement))
    (program : Program) : Program :=
  let own := definitionsOf program
  let others :=
    definitions.filter fun held => !own.any fun entry => entry.1 == held.1
  ⟨others.map Prod.snd ++ program.statements⟩

/-- An entry is not complete if its text ends too early. -/
def isIncomplete (error : ParseError) : Bool :=
  error.message.startsWith "Unexpected end of input"

/-- What an entry leaves: the session, what it writes, and why its run
stopped, if it did. -/
structure Reply where
  session : Session
  written : Written
  halt : Option Halt

/-- Run an entry. -/
def runEntry
    (recording : Recording)
    (session : Session)
    (program : Program) : Reply :=
  let label : RunLabel := ⟨s!"{recording.run}{session.runs + 1}", recording.elapsed⟩
  let whole := withDefinitions session.definitions program
  let definitions :=
    (definitionsOf program).foldl
      (fun held (name, statement) => keep held name statement) session.definitions
  let report := whole.run label session.host session.env
  let errors :=
    match report.halt with
    | some (.error error) => errorText error ++ "\n"
    | _ => ""
  { session :=
      ⟨recordEvents recording report.host, report.env, definitions, "",
        session.runs + 1⟩
    written := ⟨report.host.output, echoOf recording report.host ++ errors⟩
    halt := report.halt }

/-- The line ends the session. -/
def isQuit (session : Session) (line : String) : Bool :=
  session.pending.isEmpty && [":quit", ":q"].contains (strip line)

/-- Take a line that does not end the session. -/
def enter (recording : Recording) (session : Session) (line : String) : Reply :=
  let text := session.pending ++ line
  if (strip text).isEmpty then ⟨{ session with pending := "" }, .nothing, none⟩
  else
    match parse text with
    | .ok program => runEntry recording session program
    | .error (.breach b) => ⟨session, .nothing, some (.breach b)⟩
    | .error (.error fault) =>
        if isIncomplete fault then
          ⟨{ session with pending := text }, .nothing, none⟩
        else
          let error := ScriptError.ofParse fault
          ⟨{ session with pending := "" }, ⟨"", errorText error ++ "\n"⟩,
            some (.error error)⟩

/-- The halt that breaks a session off; errors of scripts do not. -/
def breakOf? : Option Halt → Option Halt
  | some (.error _) => none
  | halt => halt

/-- What a session has written after some lines, the session itself, and
what broke it off. -/
def transcript (recording : Recording) (session : Session) (written : Written) :
    List String → Session × Written × Option Halt
  | [] =>
      (session, { written with output := written.output ++ session.prompt ++ "\n" },
        none)
  | line :: rest =>
      let asked := written.output ++ session.prompt
      if session.isQuit line then (session, { written with output := asked }, none)
      else
        let reply := session.enter recording line
        let total : Written :=
          ⟨asked ++ reply.written.output, written.errors ++ reply.written.errors⟩
        match breakOf? reply.halt with
        | some halt => (reply.session, total, some halt)
        | none => transcript recording reply.session total rest

end Session

end GridScript.Command
