import GridScript.Proofs.Script.Guards
import GridScript.Proofs.Script.Signals

namespace GridScript.Script

/-!
# The control of runs

What a call makes of the end of a body, what a run makes of the end of its
program, and how deep calls nest on the way there.
-/

open Machine

/-- Where the settings give the limit of calls as an integer, zero stands
for the usual one. -/
theorem callLimit_ofList
    {settings : SettingList}
    {limit : Int}
    (given :
      (mergeSettings defaultSettings settings).lookup "max_call_depth" =
        some (.int limit)) :
    (Settings.ofList settings).callLimit =
      .int (if limit = 0 then 100 else limit) := by
  unfold Settings.ofList
  simp only [given, Option.getD_some, Json.number?]
  by_cases isZero : limit = 0
  · simp [isZero, Json.isTruthy]
  · simp [isZero, Json.isTruthy]

/-- A call comes to the body of a script function: it is admitted, and its
parameters get values. -/
structure Machine.EntersBody
    (machine : Machine)
    (fuel : Nat)
    (name : String)
    (arguments : List Expression)
    (definition : Definition)
    (binding : Binding)
    (bound : Machine) : Prop where
  found : machine.function? name = some definition
  room : machine.callLimit.atMost (.int machine.depth) = false
  accepts : definition.accepts arguments.length = true
  binds :
    Action.bindAll (evaluate fuel) (evaluate fuel) definition.parameters arguments
        .empty machine =
      .ok binding bound

/-- After its body a call writes back to the places of its arguments
and has its value. -/
def Action.answer
    (final : Scope)
    (places : List WriteBack)
    (line : Nat)
    (v : Value) : Action Value :=
  Action.atLine line do
    Action.writeBack final line places
    return v

/-- What a call at a line makes of the end of the body. The value that the body
gives back is that of the call, and an exit that leaves no loop is an error. -/
def Definition.EndsBy
    (definition : Definition)
    (places : List WriteBack)
    (line : Nat)
    (call : EStateM.Result Halt Machine Value) :
    EStateM.Result Halt Machine Completion → Prop
  | .ok .normal after =>
      call = Action.answer after.env.callScope places line .null after.leaveCall
  | .ok (.giveBack v) after =>
      call = Action.answer after.env.callScope places line v after.leaveCall
  | .ok (.exit kind exitLine) after =>
      Exits definition.body kind exitLine ∧
        call =
          .error (.error ⟨.runtime (.strayExit kind), some exitLine⟩)
            after.leaveCall
  | .error halt after => call = .error (halt.withLine line) after.leaveCall

/-- A line on an action looks at the result of the action only. -/
theorem atLine_eq
    {action other : Action α}
    {machine after : Machine}
    (same : action machine = other after)
    (line : Nat) :
    Action.atLine line action machine = Action.atLine line other after := by
  unfold Action.atLine
  rw [same]

/-- A body that ends with a value hands it on together with its variables. -/
theorem inCall_of_value
    {scope : Scope}
    {body : Action Completion}
    {machine after : Machine}
    {completion : Completion}
    {v : Value}
    (ran : body (machine.enterCall scope) = .ok completion after)
    (value : Action.resultOfBody completion = pure v) :
    Action.inCall scope body machine =
      .ok (v, after.env.callScope) after.leaveCall := by
  unfold Action.inCall Action.between
  rw [Change.bind_of_ok ran, value]
  rfl

/-- An expression that calls a script function by its name is a call of the
function. -/
theorem evaluate_call_of_function
    {machine : Machine}
    {name : String}
    {definition : Definition}
    (found : machine.function? name = some definition)
    (fuel : Nat)
    (arguments : List Expression)
    (line : Nat) :
    evaluate (fuel + 1) (.call name arguments line) machine =
      Action.atLine line
        (Action.callDefinition (evaluate fuel) (evaluate fuel) (execute fuel)
          definition arguments line) machine :=
  atLine_eq (callNamed_of_function? found _ _ _ arguments line) line

/-- What is left of a call once its parameters are bound. -/
theorem evaluate_call_entered
    {machine bound : Machine}
    {fuel : Nat}
    {name : String}
    {arguments : List Expression}
    {definition : Definition}
    {binding : Binding}
    (enters : machine.EntersBody fuel name arguments definition binding bound)
    (line : Nat) :
    evaluate (fuel + 1) (.call name arguments line) machine =
      Action.atLine line (do
        let (v, final) ← Action.inCall binding.scope
          (runAll (execute fuel) definition.body)
        Action.writeBack final line binding.places
        return v) bound := by
  have admitted :
      Action.admitCall definition arguments.length line machine = .ok () machine :=
    admitCall_ok enters.room enters.accepts line
  rw [evaluate_call_of_function enters.found]
  exact atLine_eq
    ((Change.bind_of_ok admitted).trans (Change.bind_of_ok enters.binds)) line

/-- A call has a value or halts, however the body of the function ends. -/
theorem evaluate_call_endsBy
    {machine bound : Machine}
    {fuel : Nat}
    {name : String}
    {arguments : List Expression}
    {definition : Definition}
    {binding : Binding}
    (enters : machine.EntersBody fuel name arguments definition binding bound)
    (line : Nat) :
    definition.EndsBy binding.places line
      (evaluate (fuel + 1) (.call name arguments line) machine)
      (runAll (execute fuel) definition.body (bound.enterCall binding.scope)) := by
  rw [evaluate_call_entered enters line]
  cases ran :
    runAll (execute fuel) definition.body (bound.enterCall binding.scope) with
  | ok completion after =>
      cases completion with
      | normal =>
          exact atLine_eq (Change.bind_of_ok (inCall_of_value ran rfl)) line
      | giveBack v =>
          exact atLine_eq (Change.bind_of_ok (inCall_of_value ran rfl)) line
      | exit kind exitLine =>
          have stopped :
              Action.inCall binding.scope
                  (runAll (execute fuel) definition.body) bound =
                .error (.error ⟨.runtime (.strayExit kind), some exitLine⟩)
                  after.leaveCall := by
            unfold Action.inCall Action.between
            rw [Change.bind_of_ok ran]
            rfl
          refine ⟨(signals_runAll fuel definition.body).ends ran, ?_⟩
          unfold Action.atLine
          rw [Change.bind_of_error stopped]
          rfl
  | error halt after =>
      have stopped :
          Action.inCall binding.scope
              (runAll (execute fuel) definition.body) bound =
            .error halt after.leaveCall := by
        unfold Action.inCall Action.between
        rw [Change.bind_of_error ran]
      show Action.atLine line _ bound = _
      unfold Action.atLine
      rw [Change.bind_of_error stopped]

/-- The functions of a program are defined in order. -/
def Machine.defineAll (machine : Machine) (program : Program) : Machine :=
  program.functions.foldl (fun held entry => held.define entry.2) machine

/-- What the run of a program makes of the end of its statements. -/
def Program.EndsBy
    (program : Program)
    (run : EStateM.Result Halt Machine Unit) :
    EStateM.Result Halt Machine Completion → Prop
  | .ok .normal after => run = .ok () after
  | .ok (.giveBack _) _ => False
  | .ok (.exit kind line) after =>
      Exits program.statements kind line ∧
        run = .error (.error ⟨.runtime (.strayExit kind), some line⟩) after
  | .error halt after => run = .error halt after

theorem defines_eq (program : Program) (machine : Machine) :
    (program.functions.forM fun entry => modify (·.define entry.2) : Action PUnit)
        machine =
      .ok PUnit.unit (machine.defineAll program) := by
  unfold Machine.defineAll
  induction program.functions generalizing machine with
  | nil =>
      rfl
  | cons entry rest inductionHypothesis =>
      exact inductionHypothesis (machine.define entry.2)

/-- A run outside of functions ends normally, with an exit that leaves no loop,
or as one of its statements halts; no statement gives a value back there. -/
theorem runProgram_endsBy
    {machine : Machine}
    (outside : machine.depth = 0)
    (fuel : Nat)
    (program : Program) :
    program.EndsBy (runProgram fuel program machine)
      (runAll (execute fuel) program.statements (machine.defineAll program)) := by
  have defined := defines_eq program machine
  have defines :
      Keeps SameGuards
        (program.functions.forM fun entry =>
          modify (·.define entry.2) : Action PUnit) :=
    Keeps.forM program.functions fun _ _ => .modify fun _ => ⟨rfl, rfl⟩
  have stillOutside : (machine.defineAll program).depth = 0 :=
    (defines.of_ok defined).depth.trans outside
  unfold runProgram Program.runBy
  rw [Change.bind_of_ok defined]
  unfold runStatements
  cases ran :
    runAll (execute fuel) program.statements (machine.defineAll program) with
  | ok completion after =>
      have permitted := (signals_runAll fuel program.statements).ends ran
      rw [Change.bind_of_ok ran]
      cases completion with
      | normal =>
          rfl
      | giveBack v =>
          exact permitted stillOutside
      | exit kind line =>
          exact ⟨permitted, rfl⟩
  | error halt after =>
      exact Change.bind_of_error ran

/-- Control is contained in what runs from a machine within a depth of nesting,
and the depth of calls is exact. -/
structure Controlled (fuel : Nat) (machine : Machine) : Prop where
  evaluated : ∀ e, (evaluate fuel e machine).state.depth = machine.depth
  executed :
    ∀ statement, (execute fuel statement machine).state.depth = machine.depth
  ran : ∀ program, (runProgram fuel program machine).state.depth = machine.depth
  /-- Values are given back inside functions only, and exits are
  those of the statement. -/
  completed :
    ∀ statement completion after,
      execute fuel statement machine = .ok completion after →
      completion.Permitted (statement.Exits · ·) machine.depth
  /-- A call has a value or halts: an exit from the body of a function is an
  error at its line. -/
  called :
    ∀ name arguments line definition binding bound,
      machine.EntersBody fuel name arguments definition binding bound →
        definition.EndsBy binding.places line
          (evaluate (fuel + 1) (.call name arguments line) machine)
          (runAll (execute fuel) definition.body (bound.enterCall binding.scope))
  /-- A program ends or halts: an exit from its statements is an
  error at its line. -/
  finished :
    machine.depth = 0 → ∀ program : Program,
      program.EndsBy (runProgram fuel program machine)
        (runAll (execute fuel) program.statements (machine.defineAll program))
  /-- The depth is at no point beyond the limit of calls. -/
  bounded :
    ∀ limit : Int, machine.callLimit.atMost (.int limit) = true →
      machine.depth ≤ max 0 limit → ∀ alarm,
        (∀ e, evaluateWatched (max 0 limit).toNat alarm fuel e machine =
          evaluate fuel e machine) ∧
        (∀ statement,
          executeWatched (max 0 limit).toNat alarm fuel statement machine =
          execute fuel statement machine) ∧
        ∀ program,
          runProgramWatched (max 0 limit).toNat alarm fuel program machine =
          runProgram fuel program machine
  /-- The limit of calls is the one of the settings, where zero stands
  for the usual one. -/
  limited :
    ∀ settings limit, machine.host.settings = Settings.ofList settings →
      (mergeSettings defaultSettings settings).lookup "max_call_depth" =
          some (.int limit) →
        machine.callLimit = .int (if limit = 0 then 100 else limit)

/--
Control signals are contained and the depth of calls is exact.

Whatever expression, statement or program is run from a machine, the depth of
calls is the same afterwards, however the run ends. Statements give values back
inside functions only, and an exit that is in no loop of its kind becomes an
error at its line where it meets the end of a function or of the program. On the
way the depth stays within the limit of calls.
-/
theorem controlled (fuel : Nat) (machine : Machine) : Controlled fuel machine where
  evaluated e := depth_evaluate fuel e machine
  executed statement := depth_execute fuel statement machine
  ran program := depth_runProgram fuel program machine
  completed statement completion after ends :=
  (signals_execute fuel statement).ends ends
  called _ _ line _ _ _ enters := evaluate_call_endsBy enters line
  finished outside program := runProgram_endsBy outside fuel program
  bounded limit atMost shallow alarm := by
    have room : machine.HasRoom (max 0 limit).toNat 0 :=
      ⟨by omega, Number.atMost_of_le atMost (by omega)⟩
    obtain ⟨evaluates, executes⟩ :=
      watched_sameWithRoom (max 0 limit).toNat alarm fuel
    exact ⟨fun e => (evaluates e).2 machine room,
      fun statement => (executes statement).2 machine room,
      fun program =>
        (runProgramWatched_sameWithRoom _ alarm fuel program).2 machine room⟩
  limited settings limit held given := by
    rw [Machine.callLimit, held]
    exact callLimit_ofList given

/-- A function that leaves a loop which is not its own, and a loop that calls it. -/
def Program.leavingCaller : Program :=
  ⟨[.define "leave" [] [.exit .forLoop 2] 1,
    .forRange "i" (.literal (.int 1) 4) (.literal (.int 3) 4) none
      [.evaluate (.call "leave" [] 5) 5] 4]⟩

/-- The loop does not end for the exit of the function that it calls, and a
watch for the usual limit of calls does not disturb the run. -/
theorem controlled_leavingCaller :
    (∃ after,
      Exits [.exit .forLoop 2] .forLoop 2 ∧
        evaluate 3 (.call "leave" [] 5)
            (.defineAll (.start (Settings.ofList [])) .leavingCaller) =
          .error (.error ⟨.runtime (.strayExit .forLoop), some 2⟩) after) ∧
    runProgramWatched 100 (.breach .overflow) 9 .leavingCaller
        (.start (Settings.ofList [])) =
      runProgram 9 .leavingCaller (.start (Settings.ofList [])) := by
  let start : Machine := .start (Settings.ofList [])
  let machine := start.defineAll .leavingCaller
  have enters :
      machine.EntersBody 2 "leave" [] ⟨"leave", [], [.exit .forLoop 2]⟩ .empty
        machine :=
    ⟨rfl, rfl, rfl, rfl⟩
  refine ⟨⟨_, (controlled 2 machine).called "leave" [] 5 _ _ _ enters⟩, ?_⟩
  have atLimit : start.callLimit.atMost (.int 100) = true :=
    Number.atMost_int.mpr (Int.le_refl 100)
  have watched :=
    (controlled 9 start).bounded 100 atLimit (by decide) (.breach .overflow)
  exact watched.2.2 .leavingCaller

example :
    ∃ after,
      runProgram 9 .leavingCaller (.start (Settings.ofList [])) =
        .error (.error ⟨.runtime (.strayExit .forLoop), some 2⟩) after :=
  ⟨_, rfl⟩

/-- A function that gives back one, and a call of it. -/
def Program.singleCall : Program :=
  ⟨[.define "f" [] [.giveBack (some (.literal (.int 1) 2)) 2] 1,
    .assign ⟨"x", [], 4⟩ (.call "f" [] 4) 4]⟩

/-- A limit of zero calls lets a call in, which sets off the alarm of a
watch for that limit. -/
theorem zero_limit_admits_call :
    (runProgram 5 .singleCall
      (.start (Settings.ofList [("max_call_depth", .int 0)]))).state.env.globals =
        [("x", .int 1)] ∧
    ∃ after,
      runProgramWatched (max 0 0 : Int).toNat (.breach .overflow) 5 .singleCall
          (.start (Settings.ofList [("max_call_depth", .int 0)])) =
        .error (.breach .overflow) after :=
  ⟨rfl, _, rfl⟩

end GridScript.Script
