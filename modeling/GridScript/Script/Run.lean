import GridScript.Script.Evaluation
import GridScript.Script.Parser

namespace GridScript.Script

/-!
# Runs

A run of a script starts from an environment and a host and leaves both changed,
also when it fails. It reports its start and its end as events. A text that is
no script changes neither.
-/

open GridScript.Number
open GridScript.Log

/-- What a run leaves. -/
structure Report where
  env : Environment
  host : Host
  /-- Why the run stopped before its end, if it did. -/
  halt : Option Halt

/-- What tells a run from others, and the time in milliseconds
that its report names. -/
structure RunLabel where
  id : String
  elapsed : Float
  deriving Repr

/--
The depth of nesting that runs are given.

The limit of calls ends a run before it, unless calls nest in the defaults of
parameters, which are evaluated before their call counts.

It stands for the room that a host has to nest evaluation. A host may make this
room before a run, as the limit of calls asks for it, and then fail before the
first statement where the limit is too large for it or no integer. Neither that
nor an error of a call that finds no room is described: here a run has the same
room whatever its settings, and one that needs more ends as `exhausted`.
-/
def nestingBound : Nat := 1000000

/-- The members that describe an error in an event. -/
def ScriptError.members (error : ScriptError) : List (String × Json) :=
  let line :=
    match error.line with
    | some line => [("line", Json.int line)]
    | none => []
  [("error_type", Json.string error.cause.kindText),
    ("error", Json.string error.text)] ++ line

/-- The event that a run starts. -/
def startedEvent (run : String) (program : Program) (book : Book) : Event :=
  let count := program.statements.length
  event .info .scriptStarted (some run) s!"Script started ({count} statements)"
    [("statements", .int count), ("book", .string book.name)] none

/-- The event that a run has come to its end. -/
def completedEvent (label : RunLabel) (program : Program) : Event :=
  event .info .scriptCompleted (some label.id)
    s!"Script completed in {floatText label.elapsed} ms"
    [("statements", .int program.statements.length),
      ("elapsed_ms", .float label.elapsed)] none

/-- The event that an error has stopped a run. -/
def failedEvent (run : String) (error : ScriptError) : Event :=
  let wrapped :=
    match error.cause.wrappedKind? with
    | some kind => [("cause_type", Json.string kind)]
    | none => []
  event .error .scriptFailed (some run) s!"Script failed: {error.text}"
    (error.members ++ wrapped) (some error.cause.code)

/-- The event that a text is no script. -/
def parseFailedEvent (error : ScriptError) : Event :=
  event .error .parseFailed none s!"Parse failed: {error.text}" error.members
    (some error.cause.code)

/-- Run a program. -/
def Program.run
    (program : Program)
    (label : RunLabel)
    (host : Host)
    (env : Environment) : Report :=
  let started := host.emit (startedEvent label.id program host.book)
  match runProgram nestingBound program ⟨env, [], 0, started, label.id⟩ with
  | .ok _ machine =>
      ⟨machine.env, machine.host.emit (completedEvent label program), none⟩
  | .error (.error e) machine =>
      ⟨machine.env, machine.host.emit (failedEvent label.id e), some (.error e)⟩
  | .error halt machine => ⟨machine.env, machine.host, some halt⟩

/-- Run a text as a script. -/
def runText
    (text : String)
    (label : RunLabel)
    (host : Host)
    (env : Environment) : Report :=
  match parse text with
  | .ok program => program.run label host env
  | .error (.error fault) =>
      let error := ScriptError.ofParse fault
      ⟨env, host.emit (parseFailedEvent error), some (.error error)⟩
  | .error (.breach b) => ⟨env, host, some (.breach b)⟩

end GridScript.Script
