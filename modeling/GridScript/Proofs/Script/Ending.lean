import GridScript.Proofs.Change
import GridScript.Proofs.Script.Builtin
import GridScript.Proofs.Script.Related

namespace GridScript.Script

/-!
# Runs that end

Evaluation is given a depth of nesting, and a second one for nested defaults of
parameters. A run that ends within some depth ends in the same way within every
greater one, and under the limits of the settings some depth is always enough.
-/

/-!
## More fuel

A run that ends within a depth of nesting ends in the same way within
every greater one.
-/

/-- Where the first action does not run out of fuel, the second
one does the same. -/
def Refines : ActionRelation := fun _ less more =>
  ∀ machine, (∃ after, less machine = .error .exhausted after) ∨
    more machine = less machine

namespace Refines

theorem refl (action : Action α) : Refines α action action :=
  fun _ => .inr rfl

/-- An action that always runs out of fuel says nothing. -/
theorem exhausted (action : Action α) : Refines α (throw .exhausted) action :=
  fun machine => .inl ⟨machine, rfl⟩

/-- A result other than running out of fuel is the result of the
second action too. -/
theorem result_eq
    {less more : Action α}
    (refines : Refines α less more)
    {machine : Machine}
    (ends : ∀ after, less machine ≠ .error .exhausted after) :
    more machine = less machine := by
  rcases refines machine with ⟨after, out⟩ | same
  · exact (ends after out).elim
  · exact same

theorem bind
    {first first' : Action α}
    {next next' : α → Action β}
    (firstRefines : Refines α first first')
    (nextRefines : ∀ a, Refines β (next a) (next' a)) :
    Refines β (first >>= next) (first' >>= next') := by
  intro machine
  rcases firstRefines machine with ⟨after, out⟩ | same
  · exact .inl ⟨after, Change.bind_of_error out⟩
  · cases ran : first machine with
    | ok a between =>
        rw [ran] at same
        rw [Change.bind_of_ok ran, Change.bind_of_ok same]
        exact nextRefines a between
    | error halt after =>
        rw [ran] at same
        rw [Change.bind_of_error ran, Change.bind_of_error same]
        exact .inr rfl

theorem atLine
    {less more : Action α}
    (refines : Refines α less more)
    (line : Nat) :
    Refines α (Action.atLine line less) (Action.atLine line more) := by
  intro machine
  unfold Action.atLine
  rcases refines machine with ⟨after, out⟩ | same
  · left
    exact ⟨after, by simp [out, Halt.withLine]⟩
  · right
    rw [same]

theorem between
    {less more : Action α}
    (refines : Refines α less more)
    (enter leave : Machine → Machine) :
    Refines α (Action.between enter leave less)
      (Action.between enter leave more) := by
  intro machine
  unfold Action.between
  rcases refines (enter machine) with ⟨after, out⟩ | same
  · left
    exact ⟨leave after, by simp [out]⟩
  · right
    rw [same]

theorem compositional : Compositional Refines where
  pure _ := refl _
  fail _ _ := refl _
  look _ _ refines := bind (refl _) refines
  bind := bind

theorem disciplined : Disciplined Refines Refines where
  expressions := compositional
  statements := compositional
  weaken refines := refines
  inScope refines := refines.between _ _
  declare _ _ := refl _
  assign _ _ := refl _

section Steps

variable
  {evaluate evaluate' evaluateDefault evaluateDefault' : Expression → Action Value}
  {execute execute' : Statement → Action Completion}
  (evaluates : ∀ e, Refines Value (evaluate e) (evaluate' e))
  (evaluatesDefaults : ∀ e, Refines Value (evaluateDefault e) (evaluateDefault' e))
  (executes :
    ∀ statement, Refines Completion (execute statement) (execute' statement))

include evaluates evaluatesDefaults executes in
theorem callNamed (name : String) (arguments : List Expression) (line : Nat) :
    Refines Value
      (Action.callNamed evaluate evaluateDefault execute name arguments line)
      (Action.callNamed evaluate' evaluateDefault' execute' name arguments
        line) := by
  refine compositional.dispatch (bind (refl _)) (fun definition => ?_)
    fun builtin => ?_
  · unfold Action.callDefinition Action.callBy
    refine bind (refl _) fun _ => ?_
    have bound :
        Refines Binding
          (Action.bindAll evaluate evaluateDefault definition.parameters
            arguments .empty)
          (Action.bindAll evaluate' evaluateDefault' definition.parameters arguments
            .empty) :=
      compositional.bindAll (fun _ _ e _ => evaluates e)
        (fun _ _ e _ => evaluatesDefaults e) .empty
    refine bind bound fun binding => ?_
    have ran :=
      compositional.runAll definition.body fun statement _ => executes statement
    have called : Refines (Value × Scope)
        (Action.inCall binding.scope (runAll execute definition.body))
        (Action.inCall binding.scope (runAll execute' definition.body)) :=
      between (bind ran fun completion => refl _) _ _
    exact bind called fun result => refl _
  · exact bind (compositional.mapM arguments fun e _ => evaluates e) fun values =>
      refl _

include evaluates evaluatesDefaults executes in
theorem evaluateStep (e : Expression) :
    Refines Value (Action.evaluateStep evaluate evaluateDefault execute e)
      (Action.evaluateStep evaluate' evaluateDefault' execute' e) :=
  compositional.evaluateStep (fun part _ => evaluates part)
    fun name arguments line _ =>
      callNamed evaluates evaluatesDefaults executes name arguments line

theorem runRange
    {body body' : Action Completion}
    (bodyRefines : Refines Completion body body')
    (name : String)
    (line : Nat)
    (p : Progression)
    {iterations more : Nat}
    (bounded : iterations ≤ more)
    (count : Nat) :
    Refines Completion (Action.runRange name line p body iterations count)
      (Action.runRange name line p body' more count) := by
  induction iterations generalizing more count with
  | zero =>
      exact exhausted _
  | succ iterations inductionHypothesis =>
      obtain ⟨rest, rfl⟩ :=
        Nat.exists_eq_add_of_le' (Nat.lt_of_lt_of_le (Nat.succ_pos _) bounded)
      refine bind (refl _) fun v => ?_
      split
      · exact refl _
      · refine bind (disciplined.iterate bodyRefines _ _ _ _) fun ended => ?_
        split
        · exact inductionHypothesis (by omega) _
        · exact refl _

theorem runWhile
    {condition condition' : Action Value}
    {body body' : Action Completion}
    (line : Nat)
    (conditionRefines : Refines Value condition condition')
    (bodyRefines : Refines Completion body body')
    {iterations more : Nat}
    (bounded : iterations ≤ more)
    (count : Nat) :
    Refines Completion (Action.runWhile line condition body iterations count)
      (Action.runWhile line condition' body' more count) := by
  induction iterations generalizing more count with
  | zero =>
      exact exhausted _
  | succ iterations inductionHypothesis =>
      obtain ⟨rest, rfl⟩ :=
        Nat.exists_eq_add_of_le' (Nat.lt_of_lt_of_le (Nat.succ_pos _) bounded)
      refine bind conditionRefines fun v => ?_
      split
      · refine bind (disciplined.iterate bodyRefines _ _ _ _) fun ended => ?_
        split
        · exact inductionHypothesis (by omega) _
        · exact refl _
      · exact refl _

include evaluates executes in
theorem executeStep
    (statement : Statement)
    {iterations more : Nat}
    (bounded : iterations ≤ more) :
    Refines Completion (Action.executeStep evaluate execute iterations statement)
      (Action.executeStep evaluate' execute' more statement) :=
  disciplined.executeStep (fun part _ => evaluates part)
    (fun part _ => executes part)
    (fun name line p body => runRange body name line p bounded 0)
    (fun line condition body => runWhile line condition body bounded 0)
    fun _ _ => refl _

end Steps

end Refines

/-!
## Nested defaults

The default of a parameter is evaluated before its call counts against the limit
of calls, so the limit does not bound how deep calls nest in defaults. Here
evaluation is given such a bound. A run that ends never needs more than some
bound, and then the bound makes no difference.
-/

/-- Stop where defaults are nested too deep. -/
def stopDefault (e : Expression) : Action Value :=
  Action.stop (.runtime (.callDepth (.int 0) "a default")) (some e.line)

mutual

/-- The value of an expression, when defaults may be nested only so deep. -/
def evaluateWithin (fuel nesting : Nat) (e : Expression) : Action Value :=
  match fuel with
  | 0 => throw .exhausted
  | fuel + 1 =>
      Action.atLine e.line
        (Action.evaluateStep (evaluateWithin fuel nesting)
          (match nesting with
            | 0 => stopDefault
            | nesting + 1 => evaluateWithin fuel nesting)
          (executeWithin fuel nesting) e)

/-- How a statement ends, when defaults may be nested only so deep. -/
def executeWithin
    (fuel nesting : Nat)
    (statement : Statement) : Action Completion :=
  match fuel with
  | 0 => throw .exhausted
  | fuel + 1 =>
      Action.atLine statement.line
        (Action.executeStep (evaluateWithin fuel nesting)
          (executeWithin fuel nesting) (Action.iterationBound fuel) statement)

end

/-- The value of a default, when defaults may be nested only so deep. -/
def evaluateDefaultWithin (fuel : Nat) : Nat → Expression → Action Value
  | 0 => stopDefault
  | nesting + 1 => evaluateWithin fuel nesting

/-- Run a program whose defaults may be nested only so deep. -/
def runProgramWithin (fuel nesting : Nat) (program : Program) : Action Unit :=
  program.runBy (executeWithin fuel nesting)

theorem evaluateWithin_succ (fuel nesting : Nat) (e : Expression) :
    evaluateWithin (fuel + 1) nesting e =
      Action.atLine e.line
        (Action.evaluateStep (evaluateWithin fuel nesting)
          (evaluateDefaultWithin fuel nesting) (executeWithin fuel nesting) e) := by
  cases nesting <;> rfl

theorem executeWithin_succ (fuel nesting : Nat) (statement : Statement) :
    executeWithin (fuel + 1) nesting statement =
      Action.atLine statement.line
        (Action.executeStep (evaluateWithin fuel nesting)
          (executeWithin fuel nesting) (Action.iterationBound fuel) statement) :=
  rfl

/-- Defaults cannot be nested deeper than evaluation, so that a bound above
its depth is none. -/
theorem within_eq
    {fuel nesting : Nat}
    (bounded : fuel ≤ nesting) :
    evaluateWithin fuel nesting = evaluate fuel ∧
      executeWithin fuel nesting = execute fuel := by
  induction fuel generalizing nesting with
  | zero =>
      exact ⟨rfl, rfl⟩
  | succ fuel inductionHypothesis =>
      obtain ⟨less, rfl⟩ := Nat.exists_eq_add_of_le' bounded
      obtain ⟨evaluates, executes⟩ :=
        inductionHypothesis (show fuel ≤ less + (fuel + 1) by omega)
      have defaults :
          evaluateDefaultWithin fuel (less + (fuel + 1)) = evaluate fuel :=
        (inductionHypothesis (show fuel ≤ less + fuel by omega)).1
      constructor
      · funext e
        rw [evaluateWithin_succ, evaluates, executes, defaults]
        rfl
      · funext statement
        rw [executeWithin_succ, evaluates, executes]
        rfl

/-- More fuel refines evaluation and execution with a bound on the
nesting of defaults. -/
theorem refines_within
    {fuel more : Nat}
    (bounded : fuel ≤ more)
    (nesting : Nat) :
    (∀ e,
      Refines Value (evaluateWithin fuel nesting e)
        (evaluateWithin more nesting e)) ∧
      ∀ statement,
        Refines Completion (executeWithin fuel nesting statement)
          (executeWithin more nesting statement) := by
  induction fuel generalizing more nesting with
  | zero =>
      exact ⟨fun e => .exhausted _, fun statement => .exhausted _⟩
  | succ fuel inductionHypothesis =>
      obtain ⟨rest, rfl⟩ := Nat.exists_eq_add_of_le' bounded
      have within : fuel ≤ rest + fuel := Nat.le_add_left fuel rest
      obtain ⟨evaluates, executes⟩ := inductionHypothesis within nesting
      have defaults (e : Expression) :
          Refines Value (evaluateDefaultWithin fuel nesting e)
            (evaluateDefaultWithin (rest + fuel) nesting e) := by
        cases nesting with
        | zero =>
            exact .refl _
        | succ nesting =>
            exact (inductionHypothesis within nesting).1 e
      constructor
      · intro e
        rw [evaluateWithin_succ, ← Nat.add_assoc, evaluateWithin_succ]
        exact (Refines.evaluateStep evaluates defaults executes e).atLine e.line
      · intro statement
        rw [executeWithin_succ, ← Nat.add_assoc, executeWithin_succ]
        have iterations :
            Action.iterationBound fuel ≤ Action.iterationBound (rest + fuel) :=
          Nat.mul_le_mul_left _ within
        exact (Refines.executeStep evaluates executes statement iterations).atLine
          statement.line

/-- More fuel refines evaluation and execution. -/
theorem refines_evaluate_execute
    {fuel more : Nat}
    (bounded : fuel ≤ more) :
    (∀ e, Refines Value (evaluate fuel e) (evaluate more e)) ∧
      ∀ statement,
        Refines Completion (execute fuel statement) (execute more statement) := by
  have refines := refines_within bounded more
  rw [(within_eq bounded).1, (within_eq bounded).2] at refines
  rwa [(within_eq (Nat.le_refl more)).1, (within_eq (Nat.le_refl more)).2]
    at refines

/-- A value is the same with more fuel. -/
theorem evaluate_of_le
    {fuel more : Nat}
    (bounded : fuel ≤ more)
    {e : Expression}
    {machine after : Machine}
    {v : Value}
    (ran : evaluate fuel e machine = .ok v after) :
    evaluate more e machine = .ok v after := by
  have refines := (refines_evaluate_execute bounded).1 e
  rw [refines.result_eq (by rw [ran]; exact fun _ same => nomatch same), ran]

/-- The end of a block is the same with more fuel. -/
theorem runAll_of_le
    {fuel more : Nat}
    (bounded : fuel ≤ more)
    {body : List Statement}
    {machine after : Machine}
    {completion : Completion}
    (ran : runAll (execute fuel) body machine = .ok completion after) :
    runAll (execute more) body machine = .ok completion after := by
  have refines :=
    Refines.compositional.runAll body fun s _ =>
      (refines_evaluate_execute bounded).2 s
  rw [refines.result_eq (by rw [ran]; exact fun _ same => nomatch same), ran]

/-- A program that is run with related ways to execute statements
gives related results. -/
theorem refines_runProgramWithin
    {fuel more : Nat}
    (bounded : fuel ≤ more)
    (nesting : Nat)
    (program : Program) :
    Refines Unit (runProgramWithin fuel nesting program)
      (runProgramWithin more nesting program) :=
  Refines.compositional.runBy (fun _ _ => .refl _)
    fun statement _ => (refines_within bounded nesting).2 statement

theorem runProgramWithin_eq
    {fuel nesting : Nat}
    (bounded : fuel ≤ nesting)
    (program : Program) :
    runProgramWithin fuel nesting program = runProgram fuel program := by
  unfold runProgramWithin runProgram
  rw [(within_eq bounded).2]

/-- More fuel refines the run of a program. -/
theorem refines_runProgram
    {fuel more : Nat}
    (bounded : fuel ≤ more)
    (program : Program) :
    Refines Unit (runProgram fuel program) (runProgram more program) := by
  have refines := refines_runProgramWithin bounded more program
  rwa [runProgramWithin_eq bounded, runProgramWithin_eq (Nat.le_refl more)]
    at refines

/-- A run that ends needs only so much nesting of defaults, whatever the fuel. -/
theorem runProgramWithin_eq_of_ends
    {fuel : Nat}
    {program : Program}
    {machine : Machine}
    (ends : ∀ after, runProgram fuel program machine ≠ .error .exhausted after)
    (any : Nat) :
    runProgramWithin any fuel program machine = runProgram any program machine := by
  rcases Nat.le_total any fuel with less | more
  · rw [runProgramWithin_eq less]
  · have endsWithin :
        ∀ after,
          runProgramWithin fuel fuel program machine ≠ .error .exhausted after := by
      rwa [runProgramWithin_eq (Nat.le_refl fuel)]
    rw [(refines_runProgramWithin more fuel program).result_eq endsWithin,
      (refines_runProgram more program).result_eq ends,
      runProgramWithin_eq (Nat.le_refl fuel)]

/-!
## Enough fuel

The limits of the settings bound the iterations of every loop and the
depth of calls in the bodies of functions. Together with a bound on the
nesting of defaults they bound the depth of evaluation, so that some
amount of fuel is always enough.
-/

/-- Bounds for a run. -/
structure Bounds where
  /-- No function, statement or expression is larger. -/
  size : Nat
  /-- From this iteration on a loop is over its limit. -/
  iterations : Nat
  /-- From this depth on calls are refused. -/
  calls : Nat

/-- A machine at a depth of calls obeys bounds. -/
structure Bounds.Hold
    (bounds : Bounds)
    (depth : Nat)
    (machine : Machine) : Prop where
  depth : machine.depth = depth
  functions : ∀ entry ∈ machine.functions, sizeOf entry.2 ≤ bounds.size
  loops :
    ∃ limit, machine.host.settings.loopLimit = some limit ∧
      ∀ number, bounds.iterations ≤ number → limit.less (.int number) = true
  calls : ∀ deep, bounds.calls ≤ deep → machine.callLimit.atMost (.int deep) = true

/-- An action does not run out of fuel, and the bounds still hold after it. -/
def EndsAt
    (bounds : Bounds)
    (depth : Nat)
    (result : EStateM.Result Halt Machine α) : Prop :=
  (∀ after, result ≠ .error .exhausted after) ∧ bounds.Hold depth result.state

/-- From every machine that obeys the bounds an action ends. -/
def Ends (bounds : Bounds) (depth : Nat) (action : Action α) : Prop :=
  ∀ machine, bounds.Hold depth machine → EndsAt bounds depth (action machine)

section Results

variable {bounds : Bounds} {depth : Nat} {machine : Machine}

theorem endsAt_ok
    (hold : bounds.Hold depth machine)
    (a : α) :
    EndsAt bounds depth (.ok a machine) := by
  refine ⟨?_, hold⟩
  intro after out
  cases out

theorem endsAt_error
    {halt : Halt}
    (hold : bounds.Hold depth machine)
    (notOut : halt ≠ .exhausted) :
    EndsAt bounds depth (.error halt machine : EStateM.Result Halt Machine α) := by
  refine ⟨?_, hold⟩
  intro after out
  cases out
  exact notOut rfl

/-- A halt of an action that ends is an error or a breach. -/
theorem EndsAt.halt_ne
    {halt : Halt}
    (ends :
      EndsAt bounds depth (.error halt machine : EStateM.Result Halt Machine α)) :
    halt ≠ .exhausted := by
  rintro rfl
  exact ends.1 machine rfl

theorem Halt.ofFailure_ne (line : Option Nat) (failure : Failure Cause) :
    Halt.ofFailure line failure ≠ .exhausted := by
  cases failure <;> simp [Halt.ofFailure]

/-- Bounds speak of no variables. -/
theorem Bounds.Hold.mapEnv
    (hold : bounds.Hold depth machine)
    (change : Environment → Environment) :
    bounds.Hold depth (machine.mapEnv change) :=
  ⟨hold.depth, hold.functions, hold.loops, hold.calls⟩

/-- Bounds speak of the settings of the host only. -/
theorem Bounds.Hold.withHost
    {host : Host}
    (hold : bounds.Hold depth machine)
    (settings : host.settings = machine.host.settings) :
    bounds.Hold depth { machine with host := host } := by
  refine ⟨hold.depth, hold.functions, ?_, ?_⟩
  · have loops := hold.loops
    rwa [← settings] at loops
  · have calls := hold.calls
    unfold Machine.callLimit at calls ⊢
    rwa [← settings] at calls

end Results

namespace Ends

variable {bounds : Bounds} {depth : Nat}

theorem pure (a : α) : Ends bounds depth (pure a) :=
  fun _ hold => endsAt_ok hold a

theorem fail (line : Option Nat) (failure : Failure Cause) :
    Ends bounds depth (throw (.ofFailure line failure) : Action α) :=
  fun _ hold => endsAt_error hold (Halt.ofFailure_ne line failure)

theorem get : Ends bounds depth get :=
  fun machine hold => endsAt_ok hold machine

/-- A sequence ends when its parts do; the second part may rely on the
result of the first. -/
theorem bind_of
    {action : Action α}
    {next : α → Action β}
    (first : Ends bounds depth action)
    (second :
      ∀ machine a between, bounds.Hold depth machine →
        action machine = .ok a between →
        bounds.Hold depth between → EndsAt bounds depth (next a between)) :
    Ends bounds depth (action >>= next) := by
  intro machine hold
  have firstEnds := first machine hold
  cases ran : action machine with
  | ok a between =>
      rw [ran] at firstEnds
      rw [Change.bind_of_ok ran]
      exact second machine a between hold ran firstEnds.2
  | error halt between =>
      rw [ran] at firstEnds
      rw [Change.bind_of_error ran]
      exact endsAt_error firstEnds.2 firstEnds.halt_ne

theorem bind
    {action : Action α}
    {next : α → Action β}
    (first : Ends bounds depth action)
    (second : ∀ a, Ends bounds depth (next a)) :
    Ends bounds depth (action >>= next) :=
  first.bind_of fun _ a between _ _ hold => second a between hold

theorem atLine
    {action : Action α}
    (ends : Ends bounds depth action)
    (line : Nat) :
    Ends bounds depth (Action.atLine line action) := by
  intro machine hold
  have inner := ends machine hold
  unfold Action.atLine
  cases ran : action machine with
  | ok a between =>
      rw [ran] at inner
      exact endsAt_ok inner.2 a
  | error halt between =>
      rw [ran] at inner
      refine endsAt_error inner.2 ?_
      have notOut := inner.halt_ne
      cases halt with
      | exhausted =>
          exact (notOut rfl).elim
      | _ =>
          simp [Halt.withLine]

/-- What is undone after an action that ends. -/
theorem between
    {inner : Nat}
    {enter leave : Machine → Machine}
    {action : Action α}
    (inside : Ends bounds inner action)
    (entered :
      ∀ machine, bounds.Hold depth machine → bounds.Hold inner (enter machine))
    (left :
      ∀ machine, bounds.Hold inner machine → bounds.Hold depth (leave machine)) :
    Ends bounds depth (Action.between enter leave action) := by
  intro machine hold
  have ends := inside (enter machine) (entered machine hold)
  unfold Action.between
  cases ran : action (enter machine) with
  | ok a after =>
      rw [ran] at ends
      exact endsAt_ok (left after ends.2) a
  | error halt after =>
      rw [ran] at ends
      exact endsAt_error (left after ends.2) ends.halt_ne

/-- What changes only the variables. -/
theorem changeEnv (change : Environment → Environment) :
    Ends bounds depth (Action.changeEnv change) :=
  fun _ hold => endsAt_ok (hold.mapEnv change) _

theorem inScope
    {action : Action α}
    (inside : Ends bounds depth action) :
    Ends bounds depth (Action.inScope action) :=
  inside.between (fun _ hold => hold.mapEnv _) (fun _ hold => hold.mapEnv _)

/-- Built-in functions end, and change no limits. -/
theorem callHost (builtin : Builtin) (arguments : List Value) (line : Nat) :
    Ends bounds depth (Action.callHost builtin arguments line) := by
  refine get.bind fun site machine hold => ?_
  obtain ⟨settings, _⟩ :=
    sameSurroundings_callBuiltin builtin ⟨line, site.run⟩ arguments machine.host
  unfold Action.onHost
  cases ran : callBuiltin builtin ⟨line, site.run⟩ arguments machine.host with
  | ok v after =>
      rw [ran] at settings
      exact endsAt_ok (hold.withHost settings) v
  | error failure after =>
      rw [ran] at settings
      exact endsAt_error (hold.withHost settings) (Halt.ofFailure_ne _ failure)

end Ends

/-- That an action ends, as a relation between actions that looks at one side
only. -/
def Ending (bounds : Bounds) (depth : Nat) : ActionRelation :=
  fun _ action _ => Ends bounds depth action

theorem compositional_ending (bounds : Bounds) (depth : Nat) :
    Compositional (Ending bounds depth) where
  pure := Ends.pure
  fail := Ends.fail
  look _ _ ends := Ends.bind Ends.get ends
  bind first second := Ends.bind first second

theorem disciplined_ending (bounds : Bounds) (depth : Nat) :
    Disciplined (Ending bounds depth) (Ending bounds depth) where
  expressions := compositional_ending bounds depth
  statements := compositional_ending bounds depth
  weaken ends := ends
  inScope ends := Ends.inScope ends
  declare _ _ := Ends.changeEnv _
  assign _ _ := Ends.changeEnv _

end GridScript.Script
