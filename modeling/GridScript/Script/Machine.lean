import GridScript.Script.Builtin.Call
import GridScript.Script.Environment

namespace GridScript.Script

/-!
# Running machines

A machine is what a run of a script works on: variables, script functions, the
depth of their calls, and the host. An action changes the machine and gives a
result or halts. Whatever an action has changed before it halts stays changed.
-/

/-- Why a run stops before its end. -/
inductive Halt where
  | error (error : ScriptError)
  | breach (breach : Breach)
  /--
  The bound on the depth of evaluation is used up.

  It stands for a host that has no room left to nest evaluation. A host may turn
  that into an error of the innermost call instead, which is not described here.
  -/
  | exhausted
  deriving Repr

namespace Halt

/-- The halt of a failure at a line. -/
def ofFailure (line : Option Nat) : Failure Cause → Halt
  | .error cause => .error ⟨cause, line⟩
  | .breach b => .breach b

/-- The halt with an error at a line, unless the error has one already. -/
def withLine (halt : Halt) (line : Nat) : Halt :=
  match halt with
  | .error e => .error (e.withLine line)
  | .breach b => .breach b
  | .exhausted => .exhausted

end Halt

/-- What a run of a script works on. -/
structure Machine where
  env : Environment
  /-- The script functions, by lower-case name. -/
  functions : List (String × Definition)
  /-- The number of script functions whose bodies are running. -/
  depth : Nat
  host : Host
  /-- What tells this run from others. -/
  run : String

/-- A change of the machine that gives a result or halts. -/
abbrev Action := EStateM Halt Machine

namespace Machine

/-- The script function with a name, in any letter case. -/
def function? (machine : Machine) (name : String) : Option Definition :=
  machine.functions.lookup (Text.lower name)

/-- Define a script function in place of an earlier one of its name. -/
def define (machine : Machine) (definition : Definition) : Machine :=
  let key := Text.lower definition.name
  { machine with
    functions :=
    (key, definition) :: machine.functions.filter fun held => held.1 != key }

/-- Change the environment. -/
def mapEnv (machine : Machine) (change : Environment → Environment) : Machine :=
  { machine with env := change machine.env }

/-- The greatest depth of calls. -/
def callLimit (machine : Machine) : Number :=
  machine.host.settings.callLimit

/-- Enter the body of a script function. -/
def enterCall (machine : Machine) (scope : Scope) : Machine :=
  { machine with env := machine.env.enterCall scope, depth := machine.depth + 1 }

/-- Leave the body of a script function. -/
def leaveCall (machine : Machine) : Machine :=
  { machine with env := machine.env.leaveCall, depth := machine.depth - 1 }

end Machine

namespace Action

/-- Stop with a cause at a line. -/
def stop (cause : Cause) (line : Option Nat) : Action α :=
  throw (.error ⟨cause, line⟩)

/-- A result of the host. -/
def ofAttempt (line : Option Nat) (result : Attempt α) : Action α :=
  match result with
  | .ok a => pure a
  | .error failure => throw (.ofFailure line failure)

/-- A result of an operation on values. -/
def ofOperation
    (line : Option Nat)
    (result : Outcome OperationError α) : Action α :=
  ofAttempt line (operation result)

/-- An action whose error gets a line, unless it has one already. -/
def atLine (line : Nat) (action : Action α) : Action α := fun machine =>
  match action machine with
  | .ok a after => .ok a after
  | .error halt after => .error (halt.withLine line) after

/-- An action between a change of the machine and another one that
follows however it ends. -/
def between
    (enter leave : Machine → Machine)
    (action : Action α) : Action α := fun machine =>
  match action (enter machine) with
  | .ok a after => .ok a (leave after)
  | .error halt after => .error halt (leave after)

/-- An action inside a scope of its own. -/
def inScope (action : Action α) : Action α :=
  between (·.mapEnv Environment.push) (·.mapEnv Environment.leaveScope) action

/-- Change the environment. -/
def changeEnv (change : Environment → Environment) : Action Unit :=
  modify (·.mapEnv change)

/-- The value of a variable. -/
def readVariable (name : String) (line : Nat) : Action Value := do
  match (← get).env.find? name with
  | some v => return v
  | none => stop (.unknownName .variableName name) (some line)

/-- A change of the host. -/
def onHost (line : Nat) (change : HostChange α) : Action α := fun machine =>
  match change machine.host with
  | .ok a host => .ok a { machine with host := host }
  | .error failure host =>
      .error (.ofFailure (some line) failure) { machine with host := host }

/-- The value of a built-in function. -/
def callHost
    (builtin : Builtin)
    (arguments : List Value)
    (line : Nat) : Action Value := do
  let machine ← get
  onHost line (callBuiltin builtin ⟨line, machine.run⟩ arguments)

end Action

end GridScript.Script
