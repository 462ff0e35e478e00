import GridScript.Script.Machine

namespace GridScript.Script

/-!
# Loops

A loop runs its body until its values are used up, its condition fails, or the
body leaves it. Every iteration counts against the limit of the settings.
-/

/-- How a statement ends when it does not halt. -/
inductive Completion where
  | normal
  /-- The function that is running gives a value back. -/
  | giveBack (v : Value)
  /-- An exit statement leaves the innermost loop of its kind. -/
  | exit (kind : ExitKind) (line : Nat)
  deriving Repr

/-- How a loop ends after a run of its body; none if it goes on. -/
def Completion.ofLoop?
    (completion : Completion)
    (kind : ExitKind) : Option Completion :=
  match completion with
  | .normal => none
  | .giveBack v => some (.giveBack v)
  | .exit left line => if left = kind then some .normal else some (.exit left line)

/-- Run statements in order until one does not end normally. -/
def runAll
    (run : Statement → Action Completion) : List Statement → Action Completion
  | [] => pure .normal
  | statement :: rest => do
      match ← run statement with
      | .normal => runAll run rest
      | completion => return completion

/-- The values of a counting loop: from `start` by `step` up or down to `finish`. -/
structure Progression where
  start : Number
  finish : Number
  step : Number
  deriving Repr

namespace Progression

/-- The distance from the start after so many steps. -/
def offset (p : Progression) (count : Nat) : Number :=
  match p.step with
  | .int step => .int (count * step)
  | .float step => .float (Float.ofNat count * step)

/-- The float of a sum of numbers, which is exact where both are integers. -/
def sumFloat (left right : Number) : Except Breach Float :=
  match left, right with
  | .int l, .int r => (Number.int (l + r)).toFloat
  | l, r => do
      let x ← l.toFloat
      let y ← r.toFloat
      return x + y

/-- The value after so many steps. Floats close to the end count as the end. -/
def value (p : Progression) (count : Nat) : Except Breach Number :=
  match p.start, p.finish, p.step with
  | .int start, .int _, .int step => .ok (.int (start + count * step))
  | start, finish, step => do
      let x ← sumFloat start (p.offset count)
      let last ← finish.toFloat
      let size ← step.toFloat
      return .float (if (x - last).abs <= size.abs * 1e-9 then last else x)

/-- The value lies beyond the end. -/
def isPast (p : Progression) (value : Number) : Bool :=
  ((Number.int 0).less p.step && p.finish.less value) ||
    (p.step.less (.int 0) && value.less p.finish)

/-- The progression between bounds, which must be numbers; the
step must not be zero. -/
def ofBounds (start finish step : Value) : Attempt Progression :=
  let bound (v : Value) : Attempt Number :=
    match v.number? with
    | some n => .ok n
    | none => fail (.operation (kindError .loopBound v))
  do
    let p : Progression := ⟨← bound start, ← bound finish, ← bound step⟩
    if p.step.isZero then fail (.runtime .zeroStep) else return p

end Progression

namespace Action

/-- Another iteration of a loop, the one with this number, is within the limit. -/
def countIteration (number : Nat) (line : Nat) : Action Unit := do
  match (← get).host.settings.loopLimit with
  | some limit =>
      if limit.less (.int number) then
        stop (.runtime (.loopLimit limit)) (some line)
  | none => return

/-- One iteration of a loop: how the loop ends with it, if it does. -/
def iterate
    (kind : ExitKind)
    (number line : Nat)
    (bindings : Scope)
    (body : Action Completion) : Action (Option Completion) := do
  countIteration number line
  bindings.forM fun (name, v) => changeEnv (·.declare name v)
  return (← body).ofLoop? kind

/-- Run a body for each of the values, counted from `number` on. -/
def runEach (name : String) (line : Nat) (body : Action Completion) :
    Nat → List Value → Action Completion
  | _, [] => pure .normal
  | number, v :: rest => do
      match ← iterate .forLoop number line [(name, v)] body with
      | none => runEach name line body (number + 1) rest
      | some completion => return completion

/-- Run a body for the values of a progression, after `count` of them. -/
def runRange
    (name : String)
    (line : Nat)
    (p : Progression)
    (body : Action Completion) :
    Nat → Nat → Action Completion
  | 0, _ => throw .exhausted
  | fuel + 1, count => do
      let v ← ofOperation none (liftBreach (p.value count))
      if p.isPast v then return .normal
      else
        match ← iterate .forLoop (count + 1) line [(name, v.value)] body with
        | none => runRange name line p body fuel (count + 1)
        | some completion => return completion

/-- Run a body as long as a condition holds, after `count` iterations. -/
def runWhile (line : Nat) (condition : Action Value) (body : Action Completion) :
    Nat → Nat → Action Completion
  | 0, _ => throw .exhausted
  | fuel + 1, count => do
      if (← condition).isTruthy then
        match ← iterate .whileLoop (count + 1) line [] body with
        | none => runWhile line condition body fuel (count + 1)
        | some completion => return completion
      else return .normal

end Action

end GridScript.Script
