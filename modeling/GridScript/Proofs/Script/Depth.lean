import GridScript.Proofs.Script.Builtin
import GridScript.Proofs.Script.Steps

namespace GridScript.Script

/-!
# The depth of calls

A call of a script function raises the depth by one and lowers it again however
its body ends, so every expression and every statement leaves the depth as it
was. In between, the limit of the settings bounds it. To say this of every point
of a run, runs are repeated here under a watch, which compares the depth with a
bound before every expression, every statement and every body of a function, and
halts with an alarm beyond it. A watch whose bound is no less than the limit
does not disturb a run, so its alarm never goes off.
-/

namespace Machine

/-- The depth of calls and the settings are the same. -/
structure SameGuards (before after : Machine) : Prop where
  depth : after.depth = before.depth
  settings : after.host.settings = before.host.settings

instance : IsPreorder Machine SameGuards where
  refl _ := ⟨rfl, rfl⟩
  trans _ _ _ first second :=
    ⟨second.depth.trans first.depth, second.settings.trans first.settings⟩

/-- A change of the environment before and one after say nothing about the
guards. -/
theorem SameGuards.of_mapEnv
    {machine after : Machine}
    {enter leave : Environment → Environment}
    (same : (machine.mapEnv enter).SameGuards after) :
    machine.SameGuards (after.mapEnv leave) :=
  ⟨same.depth, same.settings⟩

/-- A call undoes what it does to the depth, and nothing changes the settings. -/
theorem steady_sameGuards : Steady SameGuards where
  ofEnv _ _ := ⟨rfl, rfl⟩
  ofHost builtin site arguments machine :=
    ⟨rfl, (sameSurroundings_callBuiltin builtin site arguments machine.host).1⟩
  ofDefine _ _ := ⟨rfl, rfl⟩
  ofCall _ _ _ same := ⟨congrArg (· - 1) same.depth, same.settings⟩

/-- Blocks keep the depth and the settings if their statements do. -/
theorem disciplined_sameGuards :
    Disciplined (Action.Keeping SameGuards) (Action.Keeping SameGuards) where
  expressions := Action.compositional_keeping SameGuards
  statements := Action.compositional_keeping SameGuards
  weaken keeps := keeps
  inScope keeps := Action.between_keeps keeps fun _ _ same => same.of_mapEnv
  declare _ _ := Action.changeEnv_keeps fun _ => ⟨rfl, rfl⟩
  assign _ _ := Action.changeEnv_keeps fun _ => ⟨rfl, rfl⟩

/-- The depth is within a bound, also after some further calls, and at the bound
the limit of the settings admits no call. -/
structure HasRoom (deepest calls : Nat) (machine : Machine) : Prop where
  depth : machine.depth + calls ≤ deepest
  limit : machine.callLimit.atMost (.int deepest) = true

namespace HasRoom

variable {deepest calls : Nat} {machine : Machine}

theorem of_sameGuards
    {after : Machine}
    (room : machine.HasRoom deepest calls)
    (same : machine.SameGuards after) :
    after.HasRoom deepest calls := by
  refine ⟨same.depth ▸ room.depth, ?_⟩
  rw [callLimit, same.settings]
  exact room.limit

theorem fewer
    (room : machine.HasRoom deepest calls) :
    machine.HasRoom deepest 0 :=
  ⟨Nat.le_trans (Nat.le_add_right _ _) room.depth, room.limit⟩

/-- A call uses up the room for one. -/
theorem enterCall
    (room : machine.HasRoom deepest 1)
    (scope : Scope) :
    (machine.enterCall scope).HasRoom deepest 0 :=
  ⟨room.depth, room.limit⟩

/-- Where the limit admits a call there is room for it. -/
theorem of_admitted
    (room : machine.HasRoom deepest 0)
    (admitted : machine.callLimit.atMost (.int machine.depth) = false) :
    machine.HasRoom deepest 1 := by
  have notDeepest : machine.depth ≠ deepest := by
    intro isDeepest
    rw [isDeepest, room.limit] at admitted
    cases admitted
  exact ⟨Nat.lt_of_le_of_ne room.depth notDeepest, room.limit⟩

end HasRoom

end Machine

open Machine

namespace Action

/-- An action that halts with an alarm where the depth of calls
is beyond a bound. -/
def watch (deepest : Nat) (alarm : Halt) (action : Action α) : Action α := do
  if (← get).depth ≤ deepest then action else throw alarm

/-- Call a script function and watch the entry to its body. -/
def watchedCall
    (deepest : Nat)
    (alarm : Halt)
    (evaluate evaluateDefault : Expression → Action Value)
    (execute : Statement → Action Completion)
    (definition : Definition)
    (arguments : List Expression)
    (line : Nat) : Action Value :=
  callBy evaluate evaluateDefault
    (fun body => watch deepest alarm (runAll execute body))
    definition arguments line

/-- Call the script function, under a watch, or else the built-in
function with a name. -/
def watchedNamed
    (deepest : Nat)
    (alarm : Halt)
    (evaluate evaluateDefault : Expression → Action Value)
    (execute : Statement → Action Completion)
    (name : String)
    (arguments : List Expression)
    (line : Nat) : Action Value :=
  dispatch name line
    (watchedCall deepest alarm evaluate evaluateDefault execute · arguments line)
    fun builtin => do callHost builtin (← arguments.mapM evaluate) line

/-- The value of an expression from the values of its parts, where calls of
script functions are watched. -/
def watchedStep
    (deepest : Nat)
    (alarm : Halt)
    (evaluate evaluateDefault : Expression → Action Value)
    (execute : Statement → Action Completion) : Expression → Action Value
  | .call name arguments line =>
      watchedNamed deepest alarm evaluate evaluateDefault execute name
        arguments line
  | e => evaluateStep evaluate evaluateDefault execute e

end Action

mutual

/-- The value of an expression under a watch. -/
def evaluateWatched
    (deepest : Nat)
    (alarm : Halt)
    (fuel : Nat)
    (e : Expression) : Action Value :=
  match fuel with
  | 0 => throw .exhausted
  | fuel + 1 =>
      Action.watch deepest alarm <| Action.atLine e.line <|
        Action.watchedStep deepest alarm (evaluateWatched deepest alarm fuel)
          (evaluateWatched deepest alarm fuel) (executeWatched deepest alarm fuel) e

/-- How a statement ends under a watch. -/
def executeWatched
    (deepest : Nat)
    (alarm : Halt)
    (fuel : Nat)
    (statement : Statement) : Action Completion :=
  match fuel with
  | 0 => throw .exhausted
  | fuel + 1 =>
      Action.watch deepest alarm <| Action.atLine statement.line <|
        Action.executeStep (evaluateWatched deepest alarm fuel)
          (executeWatched deepest alarm fuel) (Action.iterationBound fuel) statement

end

/-- Run a program under a watch. -/
def runProgramWatched
    (deepest : Nat)
    (alarm : Halt)
    (fuel : Nat)
    (program : Program) : Action Unit :=
  program.runBy (executeWatched deepest alarm fuel)

/-- With room for some calls the first action does what the second one does, and
the second one keeps the depth and the settings. -/
def SameWithRoom (deepest calls : Nat) : ActionRelation := fun _ watched action =>
  Keeps SameGuards action ∧
    ∀ machine, machine.HasRoom deepest calls → watched machine = action machine

namespace SameWithRoom

variable {deepest calls : Nat} {alarm : Halt}

theorem refl
    {action : Action α}
    (keeps : Keeps SameGuards action) :
    SameWithRoom deepest calls α action action :=
  ⟨keeps, fun _ _ => rfl⟩

/-- What holds wherever there is some room holds with more. -/
theorem ofFewer
    {watched action : Action α}
    (same : SameWithRoom deepest 0 α watched action) :
    SameWithRoom deepest calls α watched action :=
  ⟨same.1, fun machine room => same.2 machine room.fewer⟩

/-- What follows an action may have more room if the action makes sure of it. -/
theorem bind_of
    {more : Nat}
    {first first' : Action α}
    {next next' : α → Action β}
    (firstSame : SameWithRoom deepest calls α first first')
    (makesRoom :
      ∀ machine a between, machine.HasRoom deepest calls →
        first' machine = .ok a between → between.HasRoom deepest more)
    (nextSame : ∀ a, SameWithRoom deepest more β (next a) (next' a)) :
    SameWithRoom deepest calls β (first >>= next) (first' >>= next') := by
  refine ⟨firstSame.1.bind fun a => (nextSame a).1, fun machine room => ?_⟩
  have same := firstSame.2 machine room
  cases ran : first' machine with
  | ok a between =>
      rw [Change.bind_of_ok ran, Change.bind_of_ok (same.trans ran)]
      exact (nextSame a).2 between (makesRoom machine a between room ran)
  | error halt after =>
      rw [Change.bind_of_error ran, Change.bind_of_error (same.trans ran)]

theorem bind
    {first first' : Action α}
    {next next' : α → Action β}
    (firstSame : SameWithRoom deepest calls α first first')
    (nextSame : ∀ a, SameWithRoom deepest calls β (next a) (next' a)) :
    SameWithRoom deepest calls β (first >>= next) (first' >>= next') := by
  refine bind_of firstSame (fun machine a between room ran => ?_) nextSame
  have kept := firstSame.1 machine
  rw [ran] at kept
  exact room.of_sameGuards kept

theorem compositional : Compositional (SameWithRoom deepest calls) where
  pure a := refl (.pure a)
  fail _ _ := refl (.throw _)
  look _ _ same := bind (refl .get) same
  bind := bind

/-- What is done before and undone after an action may use up room. -/
theorem between
    {inner : Nat}
    {enter leave : Machine → Machine}
    {watched action : Action α}
    (same : SameWithRoom deepest inner α watched action)
    (entered :
      ∀ machine, machine.HasRoom deepest calls →
        (enter machine).HasRoom deepest inner)
    (around :
      ∀ machine after, (enter machine).SameGuards after →
        machine.SameGuards (leave after)) :
    SameWithRoom deepest calls α (Action.between enter leave watched)
      (Action.between enter leave action) := by
  refine ⟨Action.between_keeps same.1 around, fun machine room => ?_⟩
  unfold Action.between
  rw [same.2 _ (entered machine room)]

theorem inScope
    {watched action : Action α}
    (same : SameWithRoom deepest calls α watched action) :
    SameWithRoom deepest calls α (Action.inScope watched) (Action.inScope action) :=
  same.between (fun _ room => ⟨room.depth, room.limit⟩) fun _ _ kept =>
    kept.of_mapEnv

theorem atLine
    {watched action : Action α}
    (same : SameWithRoom deepest calls α watched action)
    (line : Nat) :
    SameWithRoom deepest calls α (Action.atLine line watched)
      (Action.atLine line action) := by
  refine ⟨Action.atLine_keeps line same.1, fun machine room => ?_⟩
  unfold Action.atLine
  rw [same.2 machine room]

/-- The watch finds nothing where there is room. -/
theorem watch
    {watched action : Action α}
    (same : SameWithRoom deepest 0 α watched action) :
    SameWithRoom deepest 0 α (Action.watch deepest alarm watched) action := by
  refine ⟨same.1, fun machine room => ?_⟩
  unfold Action.watch
  rw [Change.get_bind, if_pos (show machine.depth ≤ deepest from room.depth)]
  exact same.2 machine room

theorem changeEnv (change : Environment → Environment) :
    SameWithRoom deepest calls Unit (Action.changeEnv change)
      (Action.changeEnv change) :=
  refl (Action.changeEnv_keeps fun _ => ⟨rfl, rfl⟩)

theorem disciplined :
    Disciplined (SameWithRoom deepest calls) (SameWithRoom deepest calls) where
  expressions := compositional
  statements := compositional
  weaken same := same
  inScope same := same.inScope
  declare _ _ := changeEnv _
  assign _ _ := changeEnv _

/-- An admitted call finds room for itself. -/
theorem hasRoom_of_admitCall
    {definition : Definition}
    {count line : Nat}
    {machine after : Machine}
    (room : machine.HasRoom deepest 0)
    (admitted : Action.admitCall definition count line machine = .ok () after) :
    after.HasRoom deepest 1 := by
  unfold Action.admitCall at admitted
  rw [Change.get_bind] at admitted
  cases limited : machine.callLimit.atMost (.int machine.depth) with
  | true =>
      simp only [limited] at admitted
      cases admitted
  | false =>
      simp only [limited, Bool.false_eq_true, if_false] at admitted
      split at admitted
      · cases admitted
      · cases admitted
        exact room.of_admitted limited

theorem writeBack (final : Scope) (line : Nat) (places : List WriteBack) :
    SameWithRoom deepest calls Unit (Action.writeBack final line places)
      (Action.writeBack final line places) := by
  induction places with
  | nil =>
      exact refl (.pure _)
  | cons place rest inductionHypothesis =>
      exact bind
        (compositional.writePlace place.name (fun _ => changeEnv _)
          place.path _ line)
        fun _ => inductionHypothesis

section Steps

variable
  {evaluate evaluate' evaluateDefault evaluateDefault' : Expression → Action Value}
  {execute execute' : Statement → Action Completion}
  (evaluates : ∀ e, SameWithRoom deepest 0 Value (evaluate e) (evaluate' e))
  (evaluatesDefaults :
    ∀ e, SameWithRoom deepest 0 Value (evaluateDefault e) (evaluateDefault' e))
  (executes :
    ∀ statement,
      SameWithRoom deepest 0 Completion (execute statement) (execute' statement))

include evaluates evaluatesDefaults executes in
/-- The body of a function runs one call deeper, for which there is room
once it is admitted. -/
theorem watchedCall
    (definition : Definition)
    (arguments : List Expression)
    (line : Nat) :
    SameWithRoom deepest 0 Value
      (Action.watchedCall deepest alarm evaluate evaluateDefault execute definition
        arguments line)
      (Action.callDefinition evaluate' evaluateDefault' execute' definition
        arguments line) := by
  unfold Action.watchedCall Action.callDefinition Action.callBy
  refine bind_of (compositional.admitCall _ _ _)
    (fun _ _ _ room admitted => hasRoom_of_admitCall room admitted) fun _ => ?_
  have bound :
      SameWithRoom deepest 1 Binding
        (Action.bindAll evaluate evaluateDefault definition.parameters
          arguments .empty)
        (Action.bindAll evaluate' evaluateDefault' definition.parameters arguments
          .empty) :=
    compositional.bindAll (fun _ _ e _ => (evaluates e).ofFewer)
      (fun _ _ e _ => (evaluatesDefaults e).ofFewer) .empty
  refine bind bound fun binding => ?_
  have ran :
      SameWithRoom deepest 0 Completion
        (Action.watch deepest alarm (runAll execute definition.body))
        (runAll execute' definition.body) :=
    (compositional.runAll definition.body fun statement _ =>
      executes statement).watch
  have called :
      SameWithRoom deepest 1 (Value × Scope)
        (Action.inCall binding.scope
          (Action.watch deepest alarm (runAll execute definition.body)))
        (Action.inCall binding.scope (runAll execute' definition.body)) := by
    refine between (bind ran fun completion => ?_) (fun _ room => room.enterCall _)
      (steady_sameGuards.ofCall binding.scope)
    exact bind (compositional.resultOfBody completion) fun v =>
      refl (Keeps.get.bind fun _ => .pure _)
  exact bind called fun result =>
    bind (writeBack result.2 line binding.places) fun _ => refl (.pure _)

theorem callHost (builtin : Builtin) (values : List Value) (line : Nat) :
    SameWithRoom deepest calls Value (Action.callHost builtin values line)
      (Action.callHost builtin values line) :=
  refl (Action.callHost_keeps builtin values line fun site machine =>
    steady_sameGuards.ofHost builtin site values machine)

include evaluates evaluatesDefaults executes in
theorem watchedNamed (name : String) (arguments : List Expression) (line : Nat) :
    SameWithRoom deepest 0 Value
      (Action.watchedNamed deepest alarm evaluate evaluateDefault execute name
        arguments line)
      (Action.callNamed evaluate' evaluateDefault' execute' name arguments
        line) := by
  refine compositional.dispatch (bind (refl .get)) (fun definition => ?_)
    fun builtin => ?_
  · exact watchedCall evaluates evaluatesDefaults executes definition arguments line
  · exact bind (compositional.mapM arguments fun e _ => evaluates e) fun values =>
      callHost builtin values line

include evaluates evaluatesDefaults executes in
theorem watchedStep (e : Expression) :
    SameWithRoom deepest 0 Value
      (Action.watchedStep deepest alarm evaluate evaluateDefault execute e)
      (Action.evaluateStep evaluate' evaluateDefault' execute' e) := by
  cases e with
  | call name arguments line =>
      exact watchedNamed evaluates evaluatesDefaults executes name arguments line
  | _ =>
      exact @Compositional.evaluateStep _ compositional evaluate evaluate'
        evaluateDefault
        evaluateDefault' execute execute' _ (fun part _ => evaluates part) nofun

include evaluates executes in
theorem executeStep (statement : Statement) (iterations : Nat) :
    SameWithRoom deepest 0 Completion
      (Action.executeStep evaluate execute iterations statement)
      (Action.executeStep evaluate' execute' iterations statement) :=
  disciplined.executeStep (fun part _ => evaluates part)
    (fun part _ => executes part)
    (fun name line p body =>
      disciplined.runRange (refl (.throw _)) body name line p iterations 0)
    (fun line condition body =>
      disciplined.runWhile (refl (.throw _)) body condition line iterations 0)
    fun _ _ => refl (.modify fun _ => ⟨rfl, rfl⟩)

end Steps

end SameWithRoom

/-- With room the watch disturbs no expression and no statement. -/
theorem watched_sameWithRoom (deepest : Nat) (alarm : Halt) (fuel : Nat) :
    (∀ e,
      SameWithRoom deepest 0 Value (evaluateWatched deepest alarm fuel e)
        (evaluate fuel e)) ∧
      ∀ statement,
        SameWithRoom deepest 0 Completion
          (executeWatched deepest alarm fuel statement)
          (execute fuel statement) := by
  induction fuel with
  | zero =>
      exact ⟨fun _ => .refl (.throw _), fun _ => .refl (.throw _)⟩
  | succ fuel inductionHypothesis =>
      obtain ⟨evaluates, executes⟩ := inductionHypothesis
      constructor
      · intro e
        exact ((SameWithRoom.watchedStep evaluates evaluates executes e).atLine
          e.line).watch
      · intro statement
        exact ((SameWithRoom.executeStep evaluates executes statement _).atLine
          statement.line).watch

/-- With room the watch does not disturb the run of a program. -/
theorem runProgramWatched_sameWithRoom
    (deepest : Nat)
    (alarm : Halt)
    (fuel : Nat)
    (program : Program) :
    SameWithRoom deepest 0 Unit (runProgramWatched deepest alarm fuel program)
      (runProgram fuel program) :=
  SameWithRoom.compositional.runBy (fun _ _ => .refl (.modify fun _ => ⟨rfl, rfl⟩))
    fun statement _ => (watched_sameWithRoom deepest alarm fuel).2 statement

/-- The depth of calls is the same after an expression, however it ends. -/
theorem depth_evaluate (fuel : Nat) (e : Expression) (machine : Machine) :
    (evaluate fuel e machine).state.depth = machine.depth :=
  ((runs_keep steady_sameGuards fuel).1 e machine).2.depth

/-- The depth of calls is the same after a statement, however it ends. -/
theorem depth_execute (fuel : Nat) (statement : Statement) (machine : Machine) :
    (execute fuel statement machine).state.depth = machine.depth :=
  ((runs_keep steady_sameGuards fuel).2 statement machine).2.depth

/-- The depth of calls is the same after a program, however it ends. -/
theorem depth_runProgram (fuel : Nat) (program : Program) (machine : Machine) :
    (runProgram fuel program machine).state.depth = machine.depth :=
  (grows_runProgram steady_sameGuards fuel program machine).2.depth

end GridScript.Script
