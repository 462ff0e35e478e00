import GridScript.Proofs.Change
import GridScript.Proofs.Script.Names
import GridScript.Proofs.Script.Related
import GridScript.Script.Run

namespace GridScript.Script.Action

/-!
# What the parts of actions do to the machine

Each lemma here lifts a relation between machines through a part that actions
are built from, so that a proof about evaluation only speaks about the
environment, the functions or the host.
-/

variable {R : Machine → Machine → Prop}

/-- A line on an error does not touch the machine. -/
theorem atLine_keeps
    (line : Nat)
    {action : Action α}
    (keeps : Keeps R action) :
    Keeps R (atLine line action) := by
  intro machine
  have step := keeps machine
  unfold atLine
  cases ran : action machine <;> simpa [ran] using step

/-- What is undone after an action however it ends. -/
theorem between_keeps
    {S : Machine → Machine → Prop}
    {enter leave : Machine → Machine}
    {action : Action α}
    (inside : Keeps S action)
    (around : ∀ machine after, S (enter machine) after → R machine (leave after)) :
    Keeps R (between enter leave action) := by
  intro machine
  have step := inside (enter machine)
  unfold between
  cases ran : action (enter machine) with
  | ok a after =>
      rw [ran] at step
      exact around machine after step
  | error halt after =>
      rw [ran] at step
      exact around machine after step

theorem changeEnv_keeps
    {change : Environment → Environment}
    (related : ∀ machine, R machine (machine.mapEnv change)) :
    Keeps R (changeEnv change) :=
  .modify related

/-- A change of the host leaves everything else as it is. -/
theorem onHost_keeps
    (line : Nat)
    {change : HostChange α}
    (related :
      ∀ machine : Machine,
        R machine { machine with host := (change machine.host).state }) :
    Keeps R (onHost line change) := by
  intro machine
  have step := related machine
  unfold onHost
  cases ran : change machine.host <;> simpa [ran] using step

variable [IsPreorder Machine R]

theorem callHost_keeps
    (builtin : Builtin)
    (arguments : List Value)
    (line : Nat)
    (related :
      ∀ (site : CallSite) (machine : Machine),
        R machine
          { machine with
            host := (callBuiltin builtin site arguments machine.host).state }) :
    Keeps R (callHost builtin arguments line) :=
  Keeps.get.bind fun machine =>
    onHost_keeps line fun held => related ⟨line, machine.run⟩ held

/-- What an action keeps, as a relation between actions that
looks at one side only. -/
def Keeping (R : Machine → Machine → Prop) : ActionRelation :=
  fun _ action _ => Keeps R action

/-- Sequences keep what their parts keep. -/
theorem compositional_keeping
    (R : Machine → Machine → Prop)
    [IsPreorder Machine R] :
    Compositional (Keeping R) where
  pure a := .pure a
  fail _ _ := .throw _
  look _ _ keeps := Keeps.bind .get keeps
  bind first second := Keeps.bind first second

omit [IsPreorder Machine R] in
/-- A body keeps one relation inside of its call, and the call another one. -/
theorem inCall_keeps
    {S : Machine → Machine → Prop}
    [IsPreorder Machine S]
    {scope : Scope}
    {body : Action Completion}
    (inside : Keeps S body)
    (around :
      ∀ machine after, S (machine.enterCall scope) after →
        R machine after.leaveCall) :
    Keeps R (inCall scope body) := by
  have compositional := compositional_keeping S
  refine between_keeps (S := S) ?_ around
  exact inside.bind fun completion =>
    Keeps.bind (compositional.resultOfBody completion) fun v =>
      Keeps.get.bind fun machine => .pure _

section Calls

variable
  {evaluate evaluateDefault : Expression → Action Value}
  {execute : Statement → Action Completion}
  {definition : Definition}
  (assigns : ∀ name v, Keeps R (changeEnv (·.assign name v)))

include assigns

/-- Writing back assigns to variables. -/
theorem writeBack_keeps
    (final : Scope)
    (line : Nat)
    (places : List WriteBack) :
    Keeps R (writeBack final line places) := by
  have compositional := compositional_keeping R
  induction places with
  | nil =>
      exact .pure ()
  | cons place rest inductionHypothesis =>
      have written :=
        compositional.writePlace place.name (assigns place.name) place.path
          ((final.find? place.parameter).getD .null) line
      exact Keeps.bind written fun _ => inductionHypothesis

/-- A call keeps what its arguments, its body and assignments keep. -/
theorem callDefinition_keeps
    (evaluates : ∀ e, Keeps R (evaluate e))
    (evaluatesDefaults : ∀ e, Keeps R (evaluateDefault e))
    (called : ∀ scope, Keeps R (inCall scope (runAll execute definition.body)))
    (arguments : List Expression)
    (line : Nat) :
    Keeps R
      (callDefinition evaluate evaluateDefault execute definition arguments
        line) := by
  have compositional := compositional_keeping R
  have admitted := compositional.admitCall definition arguments.length line
  have bound :
      Keeping R Binding
        (bindAll evaluate evaluateDefault definition.parameters arguments .empty)
        (bindAll evaluate evaluateDefault definition.parameters arguments .empty) :=
    compositional.bindAll (fun _ _ e _ => evaluates e)
      (fun _ _ e _ => evaluatesDefaults e) .empty
  exact Keeps.bind admitted fun _ => Keeps.bind bound fun binding =>
    (called binding.scope).bind fun result =>
      (writeBack_keeps assigns result.2 line binding.places).bind fun _ => .pure _

end Calls

end GridScript.Script.Action

namespace GridScript.Script

/-!
## What evaluation and execution keep

The evaluation of an expression declares no variable that stays. A statement
declares variables in the innermost scope only, and a statement with blocks
declares none that stay. Beside the names of variables, machines may be related
in any way that single steps keep (`Steady`). The proofs go by the steps of
evaluation and execution: each step keeps the relations if the evaluation and
execution of the parts do.
-/

namespace Machine

/-- The scopes of two machines declare the same names. -/
def SameNames (before after : Machine) : Prop :=
  before.env.SameNames after.env

/-- The scopes of two machines differ by names that the innermost one has got. -/
def GrowsInside (before after : Machine) : Prop :=
  before.env.GrowsInside after.env

instance : IsPreorder Machine SameNames where
  refl machine := refl_of Environment.SameNames machine.env
  trans _ _ _ first second := trans_of Environment.SameNames first second

instance : IsPreorder Machine GrowsInside where
  refl machine := refl_of Environment.GrowsInside machine.env
  trans _ _ _ first second := trans_of Environment.GrowsInside first second

/-- Scopes that declare the same names have grown by nothing. -/
theorem SameNames.growsInside
    {before after : Machine}
    (same : before.SameNames after) :
    before.GrowsInside after :=
  Environment.SameNames.growsInside same

/-- A relation that every step of evaluation and execution keeps, whatever
variables there are. -/
structure Steady (R : Machine → Machine → Prop) : Prop where
  ofEnv : ∀ change machine, R machine (machine.mapEnv change)
  ofHost :
    ∀ builtin site arguments machine,
      R machine
        { machine with
          host := (callBuiltin builtin site arguments machine.host).state }
  ofDefine : ∀ definition machine, R machine (machine.define definition)
  ofCall :
    ∀ scope machine after, R (machine.enterCall scope) after →
      R machine after.leaveCall

/-- Nothing is required. -/
def Unrelated (_ _ : Machine) : Prop :=
  True

instance : IsPreorder Machine Unrelated where
  refl _ := trivial
  trans _ _ _ _ _ := trivial

/-- The names can be kept by themselves. -/
theorem steady_unrelated : Steady Unrelated :=
  ⟨fun _ _ => trivial, fun _ _ _ _ => trivial, fun _ _ => trivial,
    fun _ _ _ _ => trivial⟩

/-- The scopes declare the same names, and a further relation holds. -/
def Stays (R : Machine → Machine → Prop) (before after : Machine) : Prop :=
  before.SameNames after ∧ R before after

/-- The innermost scope may have got names, and a further relation holds. -/
def Grows (R : Machine → Machine → Prop) (before after : Machine) : Prop :=
  before.GrowsInside after ∧ R before after

variable {R : Machine → Machine → Prop} [IsPreorder Machine R]

instance : IsPreorder Machine (Stays R) where
  refl machine := ⟨refl_of SameNames machine, refl_of R machine⟩
  trans _ _ _ first second :=
    ⟨trans_of SameNames first.1 second.1, trans_of R first.2 second.2⟩

instance : IsPreorder Machine (Grows R) where
  refl machine := ⟨refl_of GrowsInside machine, refl_of R machine⟩
  trans _ _ _ first second :=
    ⟨trans_of GrowsInside first.1 second.1, trans_of R first.2 second.2⟩

end Machine

/-- The places that a call writes back to are those of visible variables. -/
def Binding.Visible (binding : Binding) (machine : Machine) : Prop :=
  ∀ place ∈ binding.places, machine.env.contains place.name = true

/-- Visible places stay visible where no scope loses names. -/
theorem Binding.Visible.of_sameNames
    {binding : Binding}
    {before after : Machine}
    (visible : binding.Visible before)
    (same : before.SameNames after) :
    binding.Visible after :=
  fun place member => same.contains (visible place member)

namespace Action

open Machine

variable {R : Machine → Machine → Prop}

/-- Actions that keep the names of all scopes let the innermost
one grow by nothing. -/
theorem grows_of_stays
    {action : Action α}
    (keeps : Keeps (Stays R) action) :
    Keeps (Grows R) action :=
  keeps.mono fun _ _ stays => ⟨stays.1.growsInside, stays.2⟩

/-- A variable that has been read is visible. -/
theorem contains_of_readVariable
    {name : String}
    {line : Nat}
    {machine after : Machine}
    {v : Value}
    (ran : readVariable name line machine = .ok v after) :
    machine.env.contains name = true := by
  cases found : machine.env.find? name with
  | some held =>
      simp [Environment.contains, found]
  | none =>
      unfold readVariable at ran
      obtain ⟨held, between, looked, answered⟩ := Change.bind_eq_ok ran
      cases looked
      simp only [found] at answered
      cases answered

/-- A variable with a place that has been read is visible. -/
theorem contains_of_readPlace
    {name : String}
    {path : List Value}
    {line : Nat}
    {machine after : Machine}
    {v : Value}
    (ran : readPlace name path line machine = .ok v after) :
    machine.env.contains name = true := by
  unfold readPlace at ran
  obtain ⟨held, between, looked, _⟩ := Change.bind_eq_ok ran
  exact contains_of_readVariable looked

variable [IsPreorder Machine R] (steady : Steady R)

include steady

/-- A built-in function leaves the variables alone. -/
theorem stays_callHost
    (builtin : Builtin)
    (arguments : List Value)
    (line : Nat) :
    Keeps (Stays R) (callHost builtin arguments line) :=
  callHost_keeps builtin arguments line fun site machine =>
    ⟨refl_of SameNames machine, steady.ofHost builtin site arguments machine⟩

/-- A block that may declare variables inside keeps the names outside. -/
theorem stays_inScope
    {action : Action α}
    (inside : Keeps (Grows R) action) :
    Keeps (Stays R) (inScope action) :=
  between_keeps inside fun machine after grown =>
    ⟨Environment.sameNames_leaveScope grown.1,
      trans_of R (steady.ofEnv _ machine)
        (trans_of R grown.2 (steady.ofEnv _ after))⟩

/-- A write to a visible variable adds no name. -/
theorem stays_writePlace
    {name : String}
    {machine : Machine}
    (visible : machine.env.contains name = true)
    (path : List Value)
    (v : Value)
    (line : Nat) :
    Stays R machine (writePlace name path v line machine).state := by
  have reading : Reads (heldAfterWrite name path v line) :=
    (compositional_keeping Eq).heldAfterWrite name path v line
  have unchanged := reading machine
  unfold writePlace
  cases ran : heldAfterWrite name path v line machine with
  | ok written after =>
      rw [ran] at unchanged
      obtain rfl : machine = after := unchanged
      rw [Change.bind_of_ok ran]
      exact ⟨Environment.sameNames_assign visible written,
        steady.ofEnv (·.assign name written) machine⟩
  | error halt after =>
      rw [ran] at unchanged
      obtain rfl : machine = after := unchanged
      rw [Change.bind_of_error ran]
      exact refl_of (Stays R) machine

/-- What a call writes back to places of visible variables adds no name. -/
theorem stays_writeBack
    (final : Scope)
    (line : Nat)
    (places : List WriteBack)
    {machine : Machine}
    (visible : ∀ place ∈ places, machine.env.contains place.name = true) :
    Stays R machine (writeBack final line places machine).state := by
  induction places generalizing machine with
  | nil =>
      exact refl_of (Stays R) machine
  | cons place rest inductionHypothesis =>
      have first :=
        stays_writePlace steady (visible place (by simp)) place.path
          ((final.find? place.parameter).getD .null) line
      unfold writeBack
      refine Keeps.state_bind first fun _ between ran => inductionHypothesis ?_
      intro later member
      rw [ran] at first
      exact first.1.contains (visible later (by simp [member]))

section Steps

variable
  {evaluate evaluateDefault : Expression → Action Value}
  {execute : Statement → Action Completion}
  (evaluates : ∀ e, Keeps (Stays R) (evaluate e))
  (evaluatesDefaults : ∀ e, Keeps (Stays R) (evaluateDefault e))
  (executes : ∀ statement, Keeps (Grows R) (execute statement))

omit steady in
include evaluates in
/-- The place of an argument is that of a variable that is visible once the
argument is bound. -/
theorem visible_bindArgument
    {parameter : Parameter}
    {argument : Expression}
    {binding bound : Binding}
    {machine after : Machine}
    (visible : binding.Visible machine)
    (ran :
      bindArgument evaluate parameter argument binding machine = .ok bound after) :
    bound.Visible after := by
  have kept :
      Keeping (Stays R) Binding (bindArgument evaluate parameter argument binding)
        (bindArgument evaluate parameter argument binding) :=
    (compositional_keeping (Stays R)).bindArgument parameter
      (fun e _ => evaluates e) binding
  have step := kept machine
  rw [ran] at step
  have before : binding.Visible after := visible.of_sameNames step.1
  unfold bindArgument at ran
  split at ran
  · obtain ⟨⟨name, path⟩, between, evaluated, ran⟩ := Change.bind_eq_ok ran
    obtain ⟨v, last, read, ran⟩ := Change.bind_eq_ok ran
    cases ran
    have reading :=
      (compositional_keeping Eq).readPlace name path argument.line between
    rw [read] at reading
    cases reading
    intro place member
    rcases List.mem_append.mp member with old | new
    · exact before place old
    · cases List.mem_singleton.mp new
      exact contains_of_readPlace read
  · obtain ⟨v, between, evaluated, ran⟩ := Change.bind_eq_ok ran
    cases ran
    exact before

omit steady in
include evaluates evaluatesDefaults in
/-- The places of all arguments are those of variables that are visible
after the binding. -/
theorem visible_bindAll
    {parameters : List Parameter}
    {arguments : List Expression}
    {binding bound : Binding}
    {machine after : Machine}
    (visible : binding.Visible machine)
    (ran :
      bindAll evaluate evaluateDefault parameters arguments binding machine =
        .ok bound after) :
    bound.Visible after := by
  have compositional := compositional_keeping (Stays R)
  induction parameters generalizing arguments binding machine with
  | nil =>
      cases ran
      exact visible
  | cons parameter parameters inductionHypothesis =>
      unfold bindAll at ran
      split at ran
      · obtain ⟨items, between, evaluated, ran⟩ := Change.bind_eq_ok ran
        cases ran
        have kept : Keeps (Stays R) (arguments.mapM evaluate) :=
          Keeps.mapM arguments fun e _ => evaluates e
        have step := kept machine
        rw [evaluated] at step
        exact visible.of_sameNames step.1
      · split at ran
        · obtain ⟨v, between, evaluated, ran⟩ := Change.bind_eq_ok ran
          have kept :
              Keeping (Stays R) Value (defaultValue evaluateDefault parameter)
                (defaultValue evaluateDefault parameter) :=
            compositional.defaultValue fun e _ => evaluatesDefaults e
          have step := kept machine
          rw [evaluated] at step
          have before : (binding.bind parameter v).Visible between :=
            visible.of_sameNames step.1
          exact inductionHypothesis before ran
        · obtain ⟨held, between, evaluated, ran⟩ := Change.bind_eq_ok ran
          exact inductionHypothesis
            (visible_bindArgument evaluates visible evaluated) ran

/-- The body of a function declares variables in the scope of its call only. -/
theorem stays_inCall
    (scope : Scope)
    {body : Action Completion}
    (inside : Keeps (Grows R) body) :
    Keeps (Stays R) (inCall scope body) :=
  inCall_keeps inside fun machine after grown =>
    ⟨Environment.sameNames_leaveCall grown.1,
      steady.ofCall scope machine after grown.2⟩

include evaluates evaluatesDefaults executes in
/-- A call writes back after its scope is gone, to variables that
were visible before. -/
theorem stays_callDefinition
    (definition : Definition)
    (arguments : List Expression)
    (line : Nat) :
    Keeps (Stays R)
      (callDefinition evaluate evaluateDefault execute definition arguments
        line) := by
  have compositional := compositional_keeping (Stays R)
  have admitted : Keeps (Stays R) (admitCall definition arguments.length line) :=
    compositional.admitCall definition arguments.length line
  unfold callDefinition callBy
  refine admitted.bind fun _ => ?_
  intro machine
  have bindingKept :
      Keeping (Stays R) Binding
        (bindAll evaluate evaluateDefault definition.parameters arguments .empty)
        (bindAll evaluate evaluateDefault definition.parameters arguments .empty) :=
    compositional.bindAll (fun _ _ e _ => evaluates e)
      (fun _ _ e _ => evaluatesDefaults e) .empty
  refine Keeps.state_bind (bindingKept machine) fun binding between bound => ?_
  have visible : binding.Visible between :=
    visible_bindAll evaluates evaluatesDefaults
      (fun _ member => by cases member) bound
  have bodyKept :
      Keeping (Grows R) Completion (runAll execute definition.body)
        (runAll execute definition.body) :=
    (compositional_keeping (Grows R)).runAll definition.body fun statement _ =>
      executes statement
  have callKept := stays_inCall steady binding.scope bodyKept between
  refine Keeps.state_bind callKept fun result after called => ?_
  obtain ⟨v, final⟩ := result
  rw [called] at callKept
  have stillVisible : binding.Visible after := visible.of_sameNames callKept.1
  exact Keeps.state_bind
    (stays_writeBack steady final line binding.places stillVisible)
    fun _ last _ => refl_of (Stays R) last

include evaluates evaluatesDefaults executes in
theorem stays_callNamed
    (name : String)
    (arguments : List Expression)
    (line : Nat) :
    Keeping (Stays R) Value
      (callNamed evaluate evaluateDefault execute name arguments line)
      (callNamed evaluate evaluateDefault execute name arguments line) := by
  refine (compositional_keeping (Stays R)).dispatch Keeps.get.bind
    (fun definition => ?_) fun builtin => ?_
  · exact stays_callDefinition steady evaluates evaluatesDefaults executes
      definition arguments line
  · exact (Keeps.mapM arguments fun e _ => evaluates e).bind fun values =>
      stays_callHost steady builtin values line

include evaluates evaluatesDefaults executes in
/-- A step of evaluation keeps the names of all scopes. -/
theorem stays_evaluateStep (e : Expression) :
    Keeps (Stays R) (evaluateStep evaluate evaluateDefault execute e) := by
  have step :
      Keeping (Stays R) Value (evaluateStep evaluate evaluateDefault execute e)
        (evaluateStep evaluate evaluateDefault execute e) :=
    (compositional_keeping (Stays R)).evaluateStep (fun part _ => evaluates part)
      fun name arguments line _ =>
        stays_callNamed steady evaluates evaluatesDefaults executes name
          arguments line
  exact step

end Steps

/-- Blocks forget the names that statements add. -/
theorem disciplined_keeping :
    Disciplined (Keeping (Stays R)) (Keeping (Grows R)) where
  expressions := compositional_keeping (Stays R)
  statements := compositional_keeping (Grows R)
  weaken := grows_of_stays
  inScope := stays_inScope steady
  declare name v :=
    changeEnv_keeps fun machine =>
      ⟨Environment.growsInside_declare machine.env name v, steady.ofEnv _ machine⟩
  assign name v :=
    changeEnv_keeps fun machine =>
      ⟨Environment.growsInside_assign machine.env name v, steady.ofEnv _ machine⟩

section Statements

variable
  {evaluate : Expression → Action Value}
  {execute : Statement → Action Completion}
  (evaluates : ∀ e, Keeps (Stays R) (evaluate e))
  (executes : ∀ statement, Keeps (Grows R) (execute statement))

include evaluates executes in
/-- The blocks of a statement declare no variable that stays. -/
theorem stays_executeStep
    {statement : Statement}
    (blocks : statement.hasBlocks = true)
    (iterations : Nat) :
    Keeps (Stays R) (executeStep evaluate execute iterations statement) := by
  have step :
      Keeping (Stays R) Completion
        (executeStep evaluate execute iterations statement)
        (executeStep evaluate execute iterations statement) :=
    (disciplined_keeping steady).executeBlocks
      (fun part _ => evaluates part) (fun part _ => executes part)
      (fun name line p inside =>
        (disciplined_keeping steady).runRange (.throw _) inside name line p
          iterations 0)
      (fun line tests inside =>
        (disciplined_keeping steady).runWhile (.throw _) inside tests line
          iterations 0) blocks
  exact step

include evaluates executes in
/-- A step of execution adds names to the innermost scope only. -/
theorem grows_executeStep (statement : Statement) (iterations : Nat) :
    Keeps (Grows R) (executeStep evaluate execute iterations statement) := by
  have step :
      Keeping (Grows R) Completion
        (executeStep evaluate execute iterations statement)
        (executeStep evaluate execute iterations statement) :=
    (disciplined_keeping steady).executeStep
      (fun part _ => evaluates part) (fun part _ => executes part)
      (fun name line p inside =>
        (disciplined_keeping steady).runRange (.throw _) inside name line p
          iterations 0)
      (fun line tests inside =>
        (disciplined_keeping steady).runWhile (.throw _) inside tests line
          iterations 0)
      fun definition _ => .modify fun machine =>
        ⟨refl_of Environment.GrowsInside machine.env,
          steady.ofDefine definition machine⟩
  exact step

end Statements

end Action

open Machine

variable {R : Machine → Machine → Prop} [IsPreorder Machine R]

/-- Evaluation keeps the names of all scopes, and execution those of all but the
innermost, along with every relation that the steps keep. -/
theorem runs_keep
    (steady : Steady R)
    (fuel : Nat) :
    (∀ e, Keeps (Stays R) (evaluate fuel e)) ∧
      ∀ statement, Keeps (Grows R) (execute fuel statement) := by
  induction fuel with
  | zero =>
      exact ⟨fun e => .throw _, fun statement => .throw _⟩
  | succ fuel inductionHypothesis =>
      obtain ⟨evaluates, executes⟩ := inductionHypothesis
      constructor
      · intro e
        exact Action.atLine_keeps e.line
          (Action.stays_evaluateStep steady evaluates evaluates executes e)
      · intro statement
        exact Action.atLine_keeps statement.line
          (Action.grows_executeStep steady evaluates executes statement _)

/-- A statement with blocks keeps the names of all scopes. -/
theorem stays_execute
    (steady : Steady R)
    {statement : Statement}
    (blocks : statement.hasBlocks = true)
    (fuel : Nat) :
    Keeps (Stays R) (execute fuel statement) := by
  cases fuel with
  | zero =>
      exact .throw _
  | succ fuel =>
      obtain ⟨evaluates, executes⟩ := runs_keep steady fuel
      exact Action.atLine_keeps statement.line
        (Action.stays_executeStep steady evaluates executes blocks _)

/-- A program adds names to the innermost scope only. -/
theorem grows_runProgram
    (steady : Steady R)
    (fuel : Nat)
    (program : Program) :
    Action.Keeping (Grows R) Unit (runProgram fuel program)
      (runProgram fuel program) := by
  have defined (definition : Definition) :
      Keeps (Grows R) (modify (·.define definition) : Action PUnit) :=
    .modify fun machine =>
      ⟨refl_of Environment.GrowsInside machine.env,
        steady.ofDefine definition machine⟩
  exact (Action.compositional_keeping (Grows R)).runBy
    (fun entry _ => defined entry.2)
    fun statement _ => (runs_keep steady fuel).2 statement

end GridScript.Script

namespace GridScript.Script

/-!
## Scopes keep their names

However evaluation ends, no block, loop or call leaks a variable into an
enclosing scope or into the global one.
-/

/-- Environments with the same names have as many scopes. -/
theorem Environment.SameNames.depth
    {before after : Environment}
    (same : before.SameNames after) :
    after.depth = before.depth := by
  rw [← length_scopeNames, ← length_scopeNames, same.visible]

/-- Growth of the innermost scope changes neither the number of scopes nor
the names of others. -/
theorem Environment.GrowsInside.outside
    {before after : Environment}
    (grown : before.GrowsInside after) :
    after.depth = before.depth ∧
      after.scopeNames.tail = before.scopeNames.tail := by
  obtain ⟨inner, outer, added, beforeShape, afterShape⟩ := grown.visible
  rw [← length_scopeNames, ← length_scopeNames, beforeShape, afterShape]
  exact ⟨rfl, rfl⟩

/-- Growth keeps the names of the innermost scope. -/
theorem Environment.GrowsInside.inside
    {before after : Environment}
    (grown : before.GrowsInside after) :
    before.scopeNames.headD [] <+: after.scopeNames.headD [] := by
  obtain ⟨inner, outer, added, beforeShape, afterShape⟩ := grown.visible
  rw [beforeShape, afterShape]
  exact List.prefix_append inner added

/-- A run leaves the variables of its environment in place and adds to the
innermost scope only. -/
theorem Program.growsInside_run
    (program : Program)
    (label : RunLabel)
    (host : Host)
    (env : Environment) :
    env.GrowsInside (program.run label host env).env := by
  have kept :=
    grows_runProgram Machine.steady_unrelated nestingBound program
      ⟨env, [], 0, host.emit (startedEvent label.id program host.book), label.id⟩
  have grown := kept.1
  simp only [Program.run]
  cases ran :
      runProgram nestingBound program
        ⟨env, [], 0, host.emit (startedEvent label.id program host.book),
          label.id⟩ with
  | ok done after =>
      rw [ran] at grown
      exact grown
  | error halt after =>
      rw [ran] at grown
      cases halt <;> exact grown

/--
No evaluation, execution or run leaks a variable.

An expression leaves as many scopes as before, each with the names that it
declared, whatever calls and writes back it makes and however it ends. So does a
statement with blocks. Any other statement may add names to the innermost scope,
and does nothing else to the names.
-/
theorem scopes_keep_names
    (fuel : Nat)
    (machine : Machine) :
    (∀ e,
      let after := (evaluate fuel e machine).state.env
      after.depth = machine.env.depth ∧
        after.scopeNames = machine.env.scopeNames ∧
        after.hiddenNames = machine.env.hiddenNames) ∧
    (∀ statement,
      let after := (execute fuel statement machine).state.env
      after.depth = machine.env.depth ∧
        after.scopeNames.tail = machine.env.scopeNames.tail ∧
        after.hiddenNames = machine.env.hiddenNames ∧
        machine.env.scopeNames.headD [] <+: after.scopeNames.headD [] ∧
        (statement.hasBlocks = true → after.scopeNames = machine.env.scopeNames)) ∧
    ∀ program label host env,
      let after := (Program.run program label host env).env
      after.depth = env.depth ∧
        after.scopeNames.tail = env.scopeNames.tail ∧
        after.hiddenNames = env.hiddenNames ∧
        env.scopeNames.headD [] <+: after.scopeNames.headD [] := by
  obtain ⟨evaluates, executes⟩ := runs_keep Machine.steady_unrelated fuel
  refine ⟨fun e => ?_, fun statement => ?_, fun program label host env => ?_⟩
  · have same := (evaluates e machine).1
    exact ⟨same.depth, same.visible, same.hidden⟩
  · have grown := (executes statement machine).1
    refine ⟨grown.outside.1, grown.outside.2, grown.hidden, grown.inside,
      fun blocks => ?_⟩
    exact (stays_execute Machine.steady_unrelated blocks fuel machine).1.visible
  · have grown := program.growsInside_run label host env
    exact ⟨grown.outside.1, grown.outside.2, grown.hidden, grown.inside⟩

end GridScript.Script
