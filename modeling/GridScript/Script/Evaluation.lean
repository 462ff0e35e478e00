import GridScript.Script.Call

namespace GridScript.Script

/-!
# Evaluation

Expressions give values and statements change the machine. Both are defined by
one step over their parts, and the steps are tied together by a bound on the
depth of nesting, from which loops get their bounds too: more of it never
changes a result, so a run that ends is independent of it.
-/

namespace Action

/-- The truth of an expression. -/
def truth (evaluate : Expression → Action Value) (e : Expression) : Action Bool :=
  Value.isTruthy <$> evaluate e

/-- The value of an expression from the values of its parts, with the defaults
of the functions that it calls. -/
def evaluateStep
    (evaluate evaluateDefault : Expression → Action Value)
    (execute : Statement → Action Completion) : Expression → Action Value
  | .literal literal _ => pure literal.value
  | .name name line => readVariable name line
  | .unary operator operand _ => do
      let v ← evaluate operand
      ofOperation none (applyUnary operator v)
  | .binary .conjunction left right _ => do
      if ← truth evaluate left then return .bool (← truth evaluate right)
      else return .bool false
  | .binary .disjunction left right _ => do
      if ← truth evaluate left then return .bool true
      else return .bool (← truth evaluate right)
  | .binary (.apply operator) left right _ => do
      let l ← evaluate left
      let r ← evaluate right
      ofOperation none (applyBinary operator l r)
  | .call name arguments line =>
      callNamed evaluate evaluateDefault execute name arguments line
  | .index target index line => do
      let container ← evaluate target
      let i ← evaluate index
      ofAttempt (some line) (elementOf (← get).host.book container i)
  | .array items _ => do
      let values ← items.mapM evaluate
      return .array values

/-- Run the statements of the first branch whose condition holds, in
a scope of its own. -/
def runBranches
    (evaluate : Expression → Action Value)
    (execute : Statement → Action Completion) :
    List (Expression × List Statement) → Option (List Statement) → Action Completion
  | [], none => pure .normal
  | [], some body => inScope (runAll execute body)
  | (condition, body) :: branches, otherwise => do
      if ← truth evaluate condition then inScope (runAll execute body)
      else runBranches evaluate execute branches otherwise

/-- The value of an optional expression, or another value where there is none. -/
def evaluateOr
    (otherwise : Value)
    (evaluate : Expression → Action Value) : Option Expression → Action Value
  | some e => evaluate e
  | none => pure otherwise

/-- An action that only the body of a function may take. -/
def insideFunction
    (fault : RuntimeFault)
    (line : Nat)
    (action : Action α) : Action α := do
  if (← get).depth = 0 then stop (.runtime fault) (some line) else action

/-- The iterations that a loop is given at a depth of nesting: far more
than any run can take. -/
def iterationBound (fuel : Nat) : Nat :=
  2 ^ 40 * fuel

/-- How a statement ends, from its parts. A loop in it is given
so many iterations. -/
def executeStep
    (evaluate : Expression → Action Value)
    (execute : Statement → Action Completion)
    (iterations : Nat) : Statement → Action Completion
  | .dim name value _ => do
      let v ← evaluateOr .null evaluate value
      changeEnv (·.declare name v)
      return .normal
  | .assign target value line => do
      let path ← target.indexes.mapM evaluate
      let v ← evaluate value
      writePlace target.name path v line
      return .normal
  | .conditional branches otherwise _ =>
      runBranches evaluate execute branches otherwise
  | .forRange name start finish step body line => do
      let first ← evaluate start
      let last ← evaluate finish
      let size ← evaluateOr (.int 1) evaluate step
      let p ← ofAttempt none (Progression.ofBounds first last size)
      inScope (runRange name line p (runAll execute body) iterations 0)
  | .forEach name collection body line => do
      let held ← evaluate collection
      let items ← ofAttempt none (elements (← get).host.book held)
      inScope (runEach name line (runAll execute body) 1 items)
  | .whileLoop condition body line =>
      inScope
        (runWhile line (evaluate condition) (runAll execute body) iterations 0)
  | .define name parameters body _ => do
      modify (·.define ⟨name, parameters, body⟩)
      return .normal
  | .giveBack value line =>
      insideFunction .returnOutside line do
        let v ← evaluateOr .null evaluate value
        return .giveBack v
  | .exit .function line =>
      insideFunction .exitFunctionOutside line do return .giveBack .null
  | .exit kind line => pure (.exit kind line)
  | .evaluate call _ => do
      let _ ← evaluate call
      return .normal

end Action

mutual

/-- The value of an expression, within a depth of nesting. -/
def evaluate (fuel : Nat) (e : Expression) : Action Value :=
  match fuel with
  | 0 => throw .exhausted
  | fuel + 1 =>
      Action.atLine e.line
        (Action.evaluateStep (evaluate fuel) (evaluate fuel) (execute fuel) e)

/-- How a statement ends, within a depth of nesting. -/
def execute (fuel : Nat) (statement : Statement) : Action Completion :=
  match fuel with
  | 0 => throw .exhausted
  | fuel + 1 =>
      Action.atLine statement.line
        (Action.executeStep (evaluate fuel) (execute fuel)
          (Action.iterationBound fuel) statement)

end

/-- Run the statements of a program by the execution of each. An exit that
leaves them is an error. -/
def runStatements
    (execute : Statement → Action Completion)
    (statements : List Statement) : Action Unit := do
  match ← runAll execute statements with
  | .exit kind line => Action.stop (.runtime (.strayExit kind)) (some line)
  | _ => return

/-- Run a program by the execution of its statements. Its functions are defined
before its first statement. -/
def Program.runBy
    (execute : Statement → Action Completion)
    (program : Program) : Action Unit := do
  program.functions.forM fun (_, definition) => modify (·.define definition)
  runStatements execute program.statements

/-- Run a program within a depth of nesting. -/
def runProgram (fuel : Nat) (program : Program) : Action Unit :=
  program.runBy (execute fuel)

end GridScript.Script
