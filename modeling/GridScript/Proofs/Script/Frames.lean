import GridScript.Proofs.Script.Control
import GridScript.Proofs.Script.Places

namespace GridScript.Script

/-!
# The scopes of callers

A call hides the block scopes of its caller, and nothing that runs until its end
touches them: an assignment stores in a visible scope, and every call that
begins inside ends before. So the caller has its block scopes again when the
call ends, with the values that they held, and variables that were passed by
reference get the last values of their parameters there.
-/

/-- The scope of a call has the names that it began with, and perhaps more. -/
theorem Environment.names_callScope
    {env after : Environment}
    {bindings : Scope}
    (grown : GrowsInside (env.enterCall bindings) after) :
    ∃ added, after.callScope.names = bindings.names ++ added := by
  obtain ⟨inner, outer, added, entered, shape⟩ := grown.visible
  cases entered
  have split :
      after.blocks.map Scope.names ++ [after.globals.names] =
        [bindings.names ++ added] ++ [env.globals.names] :=
    shape
  obtain ⟨blocks, -⟩ := List.append_inj' split rfl
  obtain ⟨final, only, named⟩ := List.map_eq_singleton_iff.mp blocks
  exact ⟨added, by rw [callScope, only]; exact named⟩

namespace Machine

/-- The scopes that calls hide hold what they held. -/
def SameCallers (machine after : Machine) : Prop :=
  after.env.callers = machine.env.callers

instance : IsPreorder Machine SameCallers where
  refl _ := rfl
  trans _ _ _ first second := second.trans first

/-- The block scopes and those that calls hide hold what they held, and the
scopes declare the same names. -/
structure SameFrame (machine after : Machine) : Prop where
  names : machine.SameNames after
  blocks : after.env.blocks = machine.env.blocks
  callers : after.env.callers = machine.env.callers

/-- In a kept frame nothing but the values of global variables has changed. -/
theorem SameFrame.changesWithin
    {machine after : Machine}
    (same : machine.SameFrame after) :
    machine.env.ChangesWithin (fun level _ => level = machine.env.blocks.length)
      after.env where
  names := same.names
  callers := same.callers
  values level name notGlobal := by
    unfold Environment.valueIn? Environment.scopes
    rw [same.blocks]
    rcases Nat.lt_or_gt_of_ne notGlobal with inBlocks | beyond
    · rw [List.getElem?_append_left inBlocks, List.getElem?_append_left inBlocks]
    · have bothLengths (globals : Scope) :
          (machine.env.blocks ++ [globals])[level]? = none := by
        refine List.getElem?_eq_none ?_
        rw [List.length_append]
        exact beyond
      rw [bothLengths, bothLengths]

/-- What a call leaves has the scopes of its caller. -/
theorem SameCallers.leaveCall
    {scope : Scope}
    {machine after : Machine}
    (same : (machine.enterCall scope).SameCallers after) :
    after.leaveCall.env.blocks = machine.env.blocks ∧
      after.leaveCall.env.callers = machine.env.callers := by
  have hidden : after.env.callers = machine.env.blocks :: machine.env.callers :=
    same
  simp [Machine.leaveCall, Environment.leaveCall, hidden]

end Machine

namespace Action

open Machine

theorem sameCallers_assign
    (name : String)
    (v : Value) :
    Keeps SameCallers (changeEnv (·.assign name v)) :=
  changeEnv_keeps fun machine => Environment.callers_assign machine.env name v

/-- Blocks and variables are those of the current call. -/
theorem disciplined_sameCallers :
    Disciplined (Keeping SameCallers) (Keeping SameCallers) where
  expressions := compositional_keeping SameCallers
  statements := compositional_keeping SameCallers
  weaken keeps := keeps
  inScope keeps := between_keeps keeps fun _ _ same => same
  declare name v :=
    changeEnv_keeps fun machine => Environment.callers_declare machine.env name v
  assign := sameCallers_assign

section Steps

variable
  {evaluate evaluateDefault : Expression → Action Value}
  {execute : Statement → Action Completion}
  (evaluates : ∀ e, Keeping SameCallers Value (evaluate e) (evaluate e))
  (evaluatesDefaults :
    ∀ e, Keeping SameCallers Value (evaluateDefault e) (evaluateDefault e))
  (executes : ∀ s, Keeping SameCallers Completion (execute s) (execute s))

include evaluates evaluatesDefaults executes

/-- A call hides the scopes of its caller and shows them again. -/
theorem sameCallers_callDefinition
    (definition : Definition)
    (arguments : List Expression)
    (line : Nat) :
    Keeps SameCallers
      (callDefinition evaluate evaluateDefault execute definition arguments
        line) := by
  have body :
      Keeping SameCallers Completion (runAll execute definition.body)
        (runAll execute definition.body) :=
    (compositional_keeping SameCallers).runAll definition.body fun s _ => executes s
  exact callDefinition_keeps sameCallers_assign evaluates evaluatesDefaults
    (fun _ => inCall_keeps body fun _ _ same => same.leaveCall.2) arguments line

theorem sameCallers_callNamed
    (name : String)
    (arguments : List Expression)
    (line : Nat) :
    Keeping SameCallers Value
      (callNamed evaluate evaluateDefault execute name arguments line)
      (callNamed evaluate evaluateDefault execute name arguments line) := by
  refine (compositional_keeping SameCallers).dispatch Keeps.get.bind
    (fun definition => ?_) fun builtin => ?_
  · exact sameCallers_callDefinition evaluates evaluatesDefaults executes definition
      arguments line
  · exact (Keeps.mapM arguments fun e _ => evaluates e).bind fun values =>
      callHost_keeps builtin values line fun _ _ => rfl

end Steps

end Action

open Machine

/-- Whatever runs leaves the hidden scopes as they are. -/
theorem runs_sameCallers (fuel : Nat) :
    (∀ e, Action.Keeping SameCallers Value (evaluate fuel e) (evaluate fuel e)) ∧
      ∀ s,
        Action.Keeping SameCallers Completion (execute fuel s)
          (execute fuel s) := by
  have disciplined := Action.disciplined_sameCallers
  induction fuel with
  | zero =>
      exact ⟨fun _ => Keeps.throw _, fun _ => Keeps.throw _⟩
  | succ fuel inductionHypothesis =>
      obtain ⟨evaluates, executes⟩ := inductionHypothesis
      constructor
      · intro e
        refine Action.atLine_keeps e.line ?_
        have step :
            Action.Keeping SameCallers Value
              (Action.evaluateStep (evaluate fuel) (evaluate fuel) (execute fuel) e)
              (Action.evaluateStep (evaluate fuel) (evaluate fuel)
                (execute fuel) e) :=
          disciplined.expressions.evaluateStep (fun part _ => evaluates part)
            fun name arguments line _ =>
              Action.sameCallers_callNamed evaluates evaluates executes name
                arguments line
        exact step
      · intro s
        refine Action.atLine_keeps s.line ?_
        exact disciplined.executeStep (fun part _ => evaluates part)
          (fun part _ => executes part) (fun name line p inside =>
            disciplined.runRange (.throw _) inside name line p
              (Action.iterationBound fuel) 0)
          (fun line tests inside =>
            disciplined.runWhile (.throw _) inside tests line
              (Action.iterationBound fuel) 0)
          fun _ _ => .modify fun _ => rfl

section Bodies

variable (fuel : Nat) (body : List Statement)

theorem sameCallers_runAll :
    Action.Keeping SameCallers Completion (runAll (execute fuel) body)
      (runAll (execute fuel) body) :=
  (Action.compositional_keeping SameCallers).runAll body fun s _ =>
    (runs_sameCallers fuel).2 s

theorem growsInside_runAll :
    Action.Keeping (Grows Unrelated) Completion (runAll (execute fuel) body)
      (runAll (execute fuel) body) :=
  (Action.compositional_keeping (Grows Unrelated)).runAll body fun s _ =>
    (runs_keep steady_unrelated fuel).2 s

/-- When a body has run the caller has its scopes again, and only the values of
global variables may have changed. -/
theorem sameFrame_leaveCall
    (scope : Scope)
    (machine : Machine) :
    machine.SameFrame
      (runAll (execute fuel) body (machine.enterCall scope)).state.leaveCall := by
  have callers := sameCallers_runAll fuel body (machine.enterCall scope)
  have grown := growsInside_runAll fuel body (machine.enterCall scope)
  exact ⟨Environment.sameNames_leaveCall grown.1, callers.leaveCall.1,
    callers.leaveCall.2⟩

/-- At its end a body still has the variables that its call began with. -/
theorem declares_callScope
    {scope : Scope}
    {name : String}
    (declared : scope.declares name = true)
    (machine : Machine) :
    (runAll (execute fuel) body
        (machine.enterCall scope)).state.env.callScope.declares name =
      true := by
  have grown := growsInside_runAll fuel body (machine.enterCall scope)
  obtain ⟨added, names⟩ := Environment.names_callScope grown.1
  rw [Scope.declares_iff] at declared ⊢
  rw [names]
  exact List.mem_append_left added declared

end Bodies

/-!
## Arguments by reference

A parameter that is passed by reference begins with the value of its
argument. When the call has ended its last value is assigned to the argument
in the scopes of the caller. `assignAll` is what several such assignments
make of an environment.
-/

namespace Environment

/-- Assign values to variables in order. -/
def assignAll (env : Environment) : List (String × Value) → Environment
  | [] => env
  | (name, v) :: rest => (env.assign name v).assignAll rest

variable
  {env : Environment}
  {pairs : List (String × Value)}
  {name : String}
  {v : Value}

/-- Assignments to visible variables change the bindings in their holders only. -/
theorem changesWithin_assignAll
    (visible : ∀ pair ∈ pairs, env.contains pair.1 = true) :
    ChangesWithin
      (fun level other => level = env.holder other ∧ other ∈ pairs.map Prod.fst) env
      (env.assignAll pairs) := by
  induction pairs generalizing env with
  | nil =>
      exact .refl env
  | cons pair rest inductionHypothesis =>
      obtain ⟨name, v⟩ := pair
      have visibleHere : env.contains name = true :=
        visible (name, v) List.mem_cons_self
      have same : env.SameNames (env.assign name v) :=
        sameNames_assign visibleHere v
      have later := inductionHypothesis fun pair member =>
        same.contains (visible pair (List.mem_cons_of_mem _ member))
      refine .trans ((ChangesWithin.assign visibleHere v).mono ?_) (later.mono ?_)
      · rintro level other ⟨rfl, rfl⟩
        exact ⟨rfl, List.mem_cons_self⟩
      · rintro level other ⟨rfl, member⟩
        exact ⟨same.holder other, List.mem_cons_of_mem _ member⟩

/-- What is assigned to none of the variables has the value that it had. -/
theorem find?_assignAll_of_not_mem
    (visible : ∀ pair ∈ pairs, env.contains pair.1 = true)
    (notAssigned : name ∉ pairs.map Prod.fst) :
    (env.assignAll pairs).find? name = env.find? name := by
  have changes := changesWithin_assignAll visible
  rw [find?_eq_valueIn?, changes.names.holder, find?_eq_valueIn?]
  exact changes.values _ _ fun assigned => notAssigned assigned.2

/-- Distinct variables have the values that are assigned to them. -/
theorem find?_assignAll_of_mem
    (visible : ∀ pair ∈ pairs, env.contains pair.1 = true)
    (distinct : (pairs.map Prod.fst).Nodup)
    (member : (name, v) ∈ pairs) :
    (env.assignAll pairs).find? name = some v := by
  induction pairs generalizing env with
  | nil =>
      cases member
  | cons pair rest inductionHypothesis =>
      obtain ⟨first, w⟩ := pair
      have visibleHere : env.contains first = true :=
        visible (first, w) List.mem_cons_self
      have visibleLater :
          ∀ pair ∈ rest, (env.assign first w).contains pair.1 = true :=
        fun pair member =>
          (sameNames_assign visibleHere w).contains
            (visible pair (List.mem_cons_of_mem _ member))
      obtain ⟨notLater, distinctLater⟩ := List.nodup_cons.mp distinct
      rcases List.mem_cons.mp member with here | later
      · cases here
        exact (find?_assignAll_of_not_mem visibleLater notLater).trans
          (find?_assign_self visibleHere _)
      · exact inductionHypothesis visibleLater distinctLater later

end Environment

/-- A literal or a variable. -/
def Expression.isSimple : Expression → Bool
  | .literal .. => true
  | .name .. => true
  | _ => false

/-- The variable that a parameter takes by reference, beside the parameter. -/
def Parameter.reference? (parameter : Parameter) (argument : Expression) :
    Option (String × String) :=
  match parameter.mode, argument with
  | .byReference, .name x _ => some (parameter.name, x)
  | _, _ => none

/-- The parameters that take a variable by reference, with these variables. -/
def references : List Parameter → List Expression → List (String × String)
  | parameter :: parameters, argument :: arguments =>
      if parameter.mode = .rest then []
      else (parameter.reference? argument).toList ++ references parameters arguments
  | _, _ => []

/-- The place of a variable that a parameter is written back to. -/
def WriteBack.ofReference (reference : String × String) : WriteBack :=
  ⟨reference.1, reference.2, []⟩

/-- The last values of parameters, for the variables that they stand for. -/
def lastValues
    (final : Scope)
    (references : List (String × String)) : List (String × Value) :=
  references.map fun reference =>
    (reference.2, (final.find? reference.1).getD .null)

theorem map_fst_lastValues (final : Scope) (references : List (String × String)) :
    (lastValues final references).map Prod.fst = references.map Prod.snd := by
  simp [lastValues]

/-- What is written back comes from parameters that are bound. -/
def Binding.Declares (binding : Binding) : Prop :=
  ∀ place ∈ binding.places, binding.scope.declares place.parameter = true

theorem Scope.declares_set
    {scope : Scope}
    {name other : String}
    (declared : other = name ∨ scope.declares other = true)
    (v : Value) :
    (scope.set name v).declares other = true := by
  by_cases same : other = name
  · simp [declares, same]
  · rw [declares, find?_set_of_ne same]
    exact declared.resolve_left same

namespace Action

variable
  {evaluateDefault : Expression → Action Value}
  {fuel : Nat}
  {parameter : Parameter}
  {parameters : List Parameter}
  {argument : Expression}
  {arguments : List Expression}
  {binding bound : Binding}
  {machine after : Machine}

/-- A literal or a variable changes nothing. -/
theorem reads_evaluate
    {e : Expression}
    (simple : e.isSimple = true)
    (fuel : Nat) :
    Reads (evaluate fuel e) := by
  cases fuel with
  | zero =>
      exact .throw _
  | succ fuel =>
      refine atLine_keeps e.line ?_
      cases e with
      | literal literal line =>
          exact .pure _
      | name name line =>
          exact (compositional_keeping Eq).readVariable name line
      | _ =>
          cases simple

theorem declares_bindArgument
    {evaluate : Expression → Action Value}
    (declares : binding.Declares)
    (ran :
      bindArgument evaluate parameter argument binding machine = .ok bound after) :
    bound.Declares := by
  unfold bindArgument at ran
  split at ran
  · obtain ⟨⟨name, path⟩, between, -, ran⟩ := Change.bind_eq_ok ran
    obtain ⟨v, last, -, ran⟩ := Change.bind_eq_ok ran
    cases ran
    intro place member
    rcases List.mem_append.mp member with old | new
    · exact Scope.declares_set (.inr (declares place old)) v
    · cases List.mem_singleton.mp new
      exact Scope.declares_set (.inl rfl) v
  · obtain ⟨v, between, -, ran⟩ := Change.bind_eq_ok ran
    cases ran
    exact fun place member => Scope.declares_set (.inr (declares place member)) v

/-- Binding keeps to parameters that are bound. -/
theorem declares_bindAll
    {evaluate : Expression → Action Value}
    (declares : binding.Declares)
    (ran :
      bindAll evaluate evaluateDefault parameters arguments binding machine =
        .ok bound after) :
    bound.Declares := by
  have bind
      {binding : Binding}
      (declares : binding.Declares)
      (parameter : Parameter)
      (v : Value) :
      (binding.bind parameter v).Declares :=
    fun place member => Scope.declares_set (.inr (declares place member)) v
  induction parameters generalizing arguments binding machine with
  | nil =>
      cases ran
      exact declares
  | cons parameter parameters inductionHypothesis =>
      unfold bindAll at ran
      split at ran
      · obtain ⟨items, between, -, ran⟩ := Change.bind_eq_ok ran
        cases ran
        exact bind declares parameter _
      · split at ran
        · obtain ⟨v, between, -, ran⟩ := Change.bind_eq_ok ran
          exact inductionHypothesis (bind declares parameter v) ran
        · obtain ⟨held, between, evaluated, ran⟩ := Change.bind_eq_ok ran
          exact inductionHypothesis (declares_bindArgument declares evaluated) ran

/-- A simple argument changes nothing, and a variable is written back to if it
is passed by reference. -/
theorem bindArgument_simple
    (simple : argument.isSimple = true)
    (ran :
      bindArgument (evaluate fuel) parameter argument binding machine =
        .ok bound after) :
    after = machine ∧
      bound.places =
        binding.places ++ (parameter.reference? argument).toList.map
          WriteBack.ofReference := by
  unfold bindArgument at ran
  cases argument with
  | literal literal line =>
      rw [if_neg (by simp [Expression.isPlace])] at ran
      obtain ⟨v, between, evaluated, ran⟩ := Change.bind_eq_ok ran
      cases ran
      have same := (reads_evaluate simple fuel).of_ok evaluated
      exact ⟨same.symm,
        by cases parameter.mode <;> simp [Parameter.reference?, Binding.bind]⟩
  | name x line =>
      by_cases byReference : parameter.mode = .byReference
      · rw [if_pos ⟨byReference, rfl⟩] at ran
        have reads : Reads (readPlace x [] line) :=
          (compositional_keeping Eq).readPlace x [] line
        have bindsVariable :
            (readPlace x [] line >>= fun v =>
                pure (binding.bindPlace parameter x [] v)) machine =
              .ok bound after :=
          ran
        obtain ⟨v, last, read, bindsVariable⟩ := Change.bind_eq_ok bindsVariable
        cases bindsVariable
        exact ⟨(reads.of_ok read).symm, by
          simp [Parameter.reference?, byReference, Binding.bindPlace,
            WriteBack.ofReference]⟩
      · rw [if_neg fun both => byReference both.1] at ran
        obtain ⟨v, between, evaluated, ran⟩ := Change.bind_eq_ok ran
        cases ran
        have same := (reads_evaluate simple fuel).of_ok evaluated
        refine ⟨same.symm, ?_⟩
        cases mode : parameter.mode with
        | byReference =>
            exact (byReference mode).elim
        | _ =>
            simp [Parameter.reference?, mode, Binding.bind]
  | _ =>
      cases simple

/-- Simple arguments change nothing, and the variables among them that are
passed by reference are written back to. -/
theorem bindAll_simple
    (simple : ∀ argument ∈ arguments, argument.isSimple = true)
    (supplied :
      (parameters.filter fun parameter => parameter.mode ≠ .rest).length ≤
        arguments.length)
    (ran :
      bindAll (evaluate fuel) evaluateDefault parameters arguments binding machine =
        .ok bound after) :
    after = machine ∧
      bound.places =
        binding.places ++ (references parameters arguments).map
          WriteBack.ofReference := by
  induction parameters generalizing arguments binding machine with
  | nil =>
      cases ran
      simp [references]
  | cons parameter parameters inductionHypothesis =>
      unfold bindAll at ran
      by_cases isRest : parameter.mode = .rest
      · rw [if_pos isRest] at ran
        obtain ⟨items, between, evaluated, ran⟩ := Change.bind_eq_ok ran
        cases ran
        have reads : Reads (arguments.mapM (evaluate fuel)) :=
          Keeps.mapM arguments fun e member => reads_evaluate (simple e member) fuel
        have none : references (parameter :: parameters) arguments = [] := by
          cases arguments <;> simp [references, isRest]
        exact ⟨(reads.of_ok evaluated).symm, by simp [none, Binding.bind]⟩
      · rw [if_neg isRest] at ran
        cases arguments with
        | nil =>
            simp [isRest] at supplied
        | cons argument rest =>
            have bindsBoth :
                (bindArgument (evaluate fuel) parameter argument binding >>=
                  fun held =>
                    bindAll (evaluate fuel) evaluateDefault parameters rest
                      held) machine =
                  .ok bound after :=
              ran
            obtain ⟨held, between, evaluated, bindsRest⟩ :=
              Change.bind_eq_ok bindsBoth
            obtain ⟨rfl, places⟩ :=
              bindArgument_simple (simple argument (by simp)) evaluated
            have suppliedRest :
                (parameters.filter fun parameter => parameter.mode ≠ .rest).length ≤
                  rest.length := by
              simpa [isRest] using supplied
            obtain ⟨same, restPlaces⟩ :=
              inductionHypothesis (fun e member => simple e (by simp [member]))
                suppliedRest bindsRest
            refine ⟨same, ?_⟩
            rw [restPlaces, places, references, if_neg isRest, List.map_append,
              List.append_assoc]

/-- Writing back to variables assigns to them. -/
theorem writeBack_references
    (final : Scope)
    (line : Nat)
    (references : List (String × String))
    (machine : Machine) :
    writeBack final line (references.map WriteBack.ofReference) machine =
      .ok () (machine.mapEnv (·.assignAll (lastValues final references))) := by
  induction references generalizing machine with
  | nil =>
      rfl
  | cons reference rest inductionHypothesis =>
      exact inductionHypothesis (machine.mapEnv (·.assign reference.2 _))

/-- A call has its value once it has written back to variables. -/
theorem answer_references
    (final : Scope)
    (line : Nat)
    (references : List (String × String))
    (v : Value)
    (machine : Machine) :
    answer final (references.map WriteBack.ofReference) line v machine =
      .ok v (machine.mapEnv (·.assignAll (lastValues final references))) := by
  unfold answer atLine
  rw [Change.bind_of_ok (writeBack_references final line references machine)]
  rfl

end Action

/-- The value of a call by the end of its body; none if the body halts or leaves
a loop that is not there. -/
def bodyValue? : EStateM.Result Halt Machine Completion → Option Value
  | .ok .normal _ => some .null
  | .ok (.giveBack v) _ => some v
  | _ => none

namespace Definition.EndsBy

variable
  {definition : Definition}
  {places : List WriteBack}
  {line : Nat}
  {call : EStateM.Result Halt Machine Value}
  {body : EStateM.Result Halt Machine Completion}

/-- A call whose body has a value answers with it. -/
theorem answers
    (ends : definition.EndsBy places line call body)
    {v : Value}
    (hasValue : bodyValue? body = some v) :
    call =
      Action.answer body.state.env.callScope places line v
        body.state.leaveCall := by
  cases body with
  | ok completion after =>
      cases completion with
      | normal =>
          cases hasValue
          exact ends
      | giveBack w =>
          cases hasValue
          exact ends
      | exit kind exitLine =>
          cases hasValue
  | error halt after =>
      cases hasValue

/-- A call whose body has no value halts where the body has ended. -/
theorem halts
    (ends : definition.EndsBy places line call body)
    (noValue : bodyValue? body = none) :
    ∃ halt, call = .error halt body.state.leaveCall := by
  cases body with
  | ok completion after =>
      cases completion with
      | exit kind exitLine =>
          exact ⟨_, ends.2⟩
      | _ =>
          cases noValue
  | error halt after =>
      exact ⟨_, ends⟩

end Definition.EndsBy

/-- The last values of parameters have been copied to variables of the caller,
and beside them only the values of global variables may have changed. -/
structure Machine.CopiedBack
    (machine : Machine)
    (references : List (String × String))
    (final : Scope)
    (last : Machine) : Prop where
  values :
    ∀ parameter x, (parameter, x) ∈ references →
      ∃ v, final.find? parameter = some v ∧ last.env.find? x = some v
  others :
    machine.env.ChangesWithin
      (fun level x =>
        level = machine.env.blocks.length ∨
          level = machine.env.holder x ∧ x ∈ references.map Prod.snd)
      last.env

/-- Assignments in the frame of the caller copy values back. -/
theorem Machine.SameFrame.copiedBack
    {machine after : Machine}
    {references : List (String × String)}
    {final : Scope}
    (same : machine.SameFrame after)
    (visible : ∀ reference ∈ references, machine.env.contains reference.2 = true)
    (declared : ∀ reference ∈ references, final.declares reference.1 = true)
    (distinct : (references.map Prod.snd).Nodup) :
    machine.CopiedBack references final
      (after.mapEnv (·.assignAll (lastValues final references))) := by
  have assigned := map_fst_lastValues final references
  have stillVisible :
      ∀ pair ∈ lastValues final references, after.env.contains pair.1 = true := by
    intro pair member
    obtain ⟨reference, isReference, rfl⟩ := List.mem_map.mp member
    exact same.names.contains (visible reference isReference)
  constructor
  case values =>
    intro parameter x member
    obtain ⟨v, holds⟩ := Option.isSome_iff_exists.mp (declared _ member)
    refine ⟨v, holds,
      Environment.find?_assignAll_of_mem stillVisible (assigned ▸ distinct) ?_⟩
    exact List.mem_map.mpr ⟨(parameter, x), member, by rw [holds]; rfl⟩
  case others =>
    refine (same.changesWithin.mono fun _ _ => .inl).trans
      ((Environment.changesWithin_assignAll stillVisible).mono ?_)
    rintro level x ⟨rfl, member⟩
    exact .inr ⟨same.names.holder x, assigned ▸ member⟩

/-- What a call makes of the end of its body when it passes
variables by reference. -/
structure CopiesBack
    (machine : Machine)
    (references : List (String × String))
    (body : EStateM.Result Halt Machine Completion)
    (call : EStateM.Result Halt Machine Value) : Prop where
  completes :
    ∀ v, bodyValue? body = some v →
      ∃ last, call = .ok v last ∧
        machine.CopiedBack references body.state.env.callScope last
  fails :
    bodyValue? body = none →
      ∃ halt failed, call = .error halt failed ∧ machine.SameFrame failed

/--
What is passed by reference is copied back.

When the body of a called function has ended, every variable that was passed by
reference holds what its parameter held in the scope of the call at that time.
No other variable of a block of the caller has changed, and no scope has got or
lost a name. When the body fails, so does the call, and the blocks of the
caller are as they were.
-/
theorem call_copiesBack
    {machine bound : Machine}
    {fuel : Nat}
    {name : String}
    {arguments : List Expression}
    {definition : Definition}
    {binding : Binding}
    (enters : machine.EntersBody fuel name arguments definition binding bound)
    (simple : ∀ argument ∈ arguments, argument.isSimple = true)
    (supplied : definition.fixed.length ≤ arguments.length)
    (distinct : ((references definition.parameters arguments).map Prod.snd).Nodup)
    (line : Nat) :
    CopiesBack machine (references definition.parameters arguments)
      (runAll (execute fuel) definition.body (machine.enterCall binding.scope))
      (evaluate (fuel + 1) (.call name arguments line) machine) := by
  -- Binding has changed nothing, so the scopes that the call hides are
  -- those of the caller.
  obtain ⟨rfl, places⟩ := Action.bindAll_simple simple supplied enters.binds
  have places :
      binding.places =
        (references definition.parameters arguments).map .ofReference :=
    places
  have keeps := (runs_keep steady_unrelated fuel).1
  have visible : binding.Visible bound :=
    Action.visible_bindAll keeps keeps (fun _ member => by cases member)
      enters.binds
  have declares : binding.Declares :=
    Action.declares_bindAll (fun _ member => by cases member) enters.binds
  have same := sameFrame_leaveCall fuel definition.body binding.scope bound
  have ends := evaluate_call_endsBy enters line
  constructor
  case completes =>
    intro v hasValue
    refine ⟨_, (ends.answers hasValue).trans ?_, same.copiedBack ?_ ?_ distinct⟩
    · rw [places]
      exact Action.answer_references _ line _ v _
    · exact fun reference member =>
        visible (.ofReference reference) (places ▸ List.mem_map_of_mem member)
    · exact fun reference member =>
        declares_callScope fuel definition.body
          (declares (.ofReference reference) (places ▸ List.mem_map_of_mem member))
          bound
  case fails =>
    intro noValue
    obtain ⟨halt, halted⟩ := ends.halts noValue
    exact ⟨halt, _, halted, same⟩

/-- A function that swaps two variables of its caller. -/
def Definition.swapping : Definition :=
  ⟨"swap", [⟨"a", .byReference, none, 1⟩, ⟨"b", .byReference, none, 1⟩],
    [.dim "held" (some (.name "a" 2)) 2,
      .assign ⟨"a", [], 3⟩ (.name "b" 3) 3,
      .assign ⟨"b", [], 4⟩ (.name "held" 4) 4]⟩

/-- A machine with that function, a global variable and a variable of a block. -/
def Machine.beforeSwap : Machine :=
  ((Machine.start (Settings.ofList [])).define .swapping).mapEnv fun _ =>
    ⟨[("x", .int 1)], [[("y", .int 2)]], []⟩

/-- After the call of the function each of the variables holds the
value of the other one. -/
theorem call_copiesBack_swap :
    ∃ last,
      evaluate 4 (.call "swap" [.name "x" 1, .name "y" 1] 1) .beforeSwap =
          .ok .null last ∧
        last.env.find? "x" = some (.int 2) ∧
          last.env.find? "y" = some (.int 1) := by
  let binding : Binding :=
    ⟨[("a", .int 1), ("b", .int 2)], [⟨"a", "x", []⟩, ⟨"b", "y", []⟩]⟩
  have enters :
      Machine.beforeSwap.EntersBody 3 "swap" [.name "x" 1, .name "y" 1]
        .swapping binding .beforeSwap :=
    ⟨rfl, rfl, rfl, rfl⟩
  have copies := call_copiesBack enters (by decide) (by decide) (by decide) 1
  obtain ⟨last, called, copied⟩ := copies.completes .null rfl
  obtain ⟨v, final, first⟩ := copied.values "a" "x" (by decide)
  obtain ⟨w, final', second⟩ := copied.values "b" "y" (by decide)
  cases final
  cases final'
  exact ⟨last, called, first, second⟩

end GridScript.Script
