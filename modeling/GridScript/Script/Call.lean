import GridScript.Script.Loop
import GridScript.Script.Place

namespace GridScript.Script

/-!
# Calls of script functions

The arguments are evaluated in the scopes of the caller, before the call is
entered, and so are the defaults of the parameters that got none. An argument
that is passed by reference is written back to its place after the call has
ended. The evaluation of expressions and of defaults and the execution of
statements are parameters here.
-/

/-- A place of the caller that gets the value of a parameter after the call. -/
structure WriteBack where
  parameter : String
  name : String
  path : List Value
  deriving Repr

/-- What a call binds: the variables of its scope, and the places to write back
to. -/
structure Binding where
  scope : Scope
  places : List WriteBack
  deriving Repr

namespace Binding

/-- No parameter is bound. -/
def empty : Binding := ⟨[], []⟩

/-- Bind a parameter to a value. -/
def bind (binding : Binding) (parameter : Parameter) (v : Value) : Binding :=
  { binding with scope := binding.scope.set parameter.name v }

/-- Bind a parameter to the value at a place. -/
def bindPlace
    (binding : Binding)
    (parameter : Parameter)
    (name : String)
    (path : List Value)
    (v : Value) : Binding :=
  ⟨binding.scope.set parameter.name v,
    binding.places ++ [⟨parameter.name, name, path⟩]⟩

end Binding

/-- An expression without the indexes at its end, and those indexes
from the inside out. -/
def Expression.spine : Expression → List Expression → Expression × List Expression
  | index target i _, outer => target.spine (i :: outer)
  | e, outer => (e, outer)

/-- The expression has the form of a place: a variable or an
index into something. -/
def Expression.isPlace : Expression → Bool
  | name .. => true
  | index .. => true
  | _ => false

/-- The parameters that take one argument each. -/
def Definition.fixed (definition : Definition) : List Parameter :=
  definition.parameters.filter fun parameter => parameter.mode ≠ .rest

/-- The number of arguments that a function needs. -/
def Definition.required (definition : Definition) : Nat :=
  (definition.fixed.filter fun parameter => parameter.mode ≠ .optional).length

/-- The function takes any number of further arguments. -/
def Definition.hasRest (definition : Definition) : Bool :=
  definition.parameters.any fun parameter => parameter.mode = .rest

/-- A function takes so many arguments. -/
def Definition.accepts (definition : Definition) (count : Nat) : Bool :=
  definition.required ≤ count &&
    (definition.hasRest || count ≤ definition.fixed.length)

/-- What a function expects of the number of its arguments. -/
def Definition.expectation (definition : Definition) : Expectation :=
  if definition.hasRest then .leading definition.required
  else if definition.required = definition.fixed.length then
    .arity (.exactly definition.required)
  else .arity (.between definition.required definition.fixed.length)

namespace Action

variable (evaluate evaluateDefault : Expression → Action Value)

/-- The variable and the path of an argument that has the form of a place. -/
def evaluatePlace (argument : Expression) : Action (String × List Value) := do
  match argument.spine [] with
  | (.name name _, indexes) => return (name, ← indexes.mapM evaluate)
  | _ => stop (.runtime .assignmentTarget) (some argument.line)

/-- Bind a parameter to an argument. -/
def bindArgument
    (parameter : Parameter)
    (argument : Expression)
    (binding : Binding) : Action Binding := do
  if parameter.mode = .byReference ∧ argument.isPlace then
    let (name, path) ← evaluatePlace evaluate argument
    let v ← readPlace name path argument.line
    return binding.bindPlace parameter name path v
  else return binding.bind parameter (← evaluate argument)

/-- The value of a parameter without an argument. -/
def defaultValue (parameter : Parameter) : Action Value :=
  match parameter.default with
  | some e => evaluateDefault e
  | none => pure .null

/-- Bind parameters to arguments in order. -/
def bindAll : List Parameter → List Expression → Binding → Action Binding
  | [], _, binding => pure binding
  | parameter :: parameters, arguments, binding =>
      if parameter.mode = .rest then do
        let items ← arguments.mapM evaluate
        return binding.bind parameter (.array items)
      else
        match arguments with
        | [] => do
            let v ← defaultValue evaluateDefault parameter
            bindAll parameters [] (binding.bind parameter v)
        | argument :: rest => do
            let bound ← bindArgument evaluate parameter argument binding
            bindAll parameters rest bound

/-- The value that the body of a function gives back. -/
def resultOfBody : Completion → Action Value
  | .normal => pure .null
  | .giveBack v => pure v
  | .exit kind line => stop (.runtime (.strayExit kind)) (some line)

/-- Run a body in the scope of a call. Its value comes with the final
variables of that scope. -/
def inCall (scope : Scope) (body : Action Completion) : Action (Value × Scope) :=
  between (·.enterCall scope) (·.leaveCall) do
    let completion ← body
    let v ← resultOfBody completion
    return (v, (← get).env.callScope)

/-- Write the final values of parameters back to their places, in order. -/
def writeBack (final : Scope) (line : Nat) : List WriteBack → Action Unit
  | [] => pure ()
  | place :: rest => do
      writePlace place.name place.path
        ((final.find? place.parameter).getD .null) line
      writeBack final line rest

/-- A call may begin: the limit of calls leaves room for it, and the function
takes so many arguments. -/
def admitCall
    (definition : Definition)
    (count : Nat)
    (line : Nat) : Action Unit := do
  let machine ← get
  if machine.callLimit.atMost (.int machine.depth) then
    stop (.runtime (.callDepth machine.callLimit definition.name)) (some line)
  else if !definition.accepts count then
    stop
      (.operation
        (.arguments definition.name definition.expectation (some (.count count))))
      (some line)
  else return

/-- Call a script function by the run of its body. -/
def callBy
    (runBody : List Statement → Action Completion)
    (definition : Definition)
    (arguments : List Expression)
    (line : Nat) : Action Value := do
  admitCall definition arguments.length line
  let binding ← bindAll evaluate evaluateDefault definition.parameters
    arguments .empty
  let (v, final) ← inCall binding.scope (runBody definition.body)
  writeBack final line binding.places
  return v

/-- Call a script function. -/
def callDefinition
    (execute : Statement → Action Completion)
    (definition : Definition)
    (arguments : List Expression)
    (line : Nat) : Action Value :=
  callBy evaluate evaluateDefault (runAll execute) definition arguments line

/-- Go on with the script function or else with the built-in
function that has a name. -/
def dispatch
    (name : String)
    (line : Nat)
    (ofDefinition : Definition → Action Value)
    (ofBuiltin : Builtin → Action Value) : Action Value := do
  match (← get).function? name with
  | some definition => ofDefinition definition
  | none =>
      match lookupBuiltin? name with
      | some builtin => ofBuiltin builtin
      | none => stop (.unknownName .functionName name) (some line)

/-- Call the script function or else the built-in function with a name. -/
def callNamed
    (execute : Statement → Action Completion)
    (name : String)
    (arguments : List Expression)
    (line : Nat) : Action Value :=
  dispatch name line
    (callDefinition evaluate evaluateDefault execute · arguments line)
    fun builtin => do callHost builtin (← arguments.mapM evaluate) line

end Action

end GridScript.Script
