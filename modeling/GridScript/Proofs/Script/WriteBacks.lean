import GridScript.Proofs.Script.Frames

namespace GridScript.Script

/-!
# Writing back

A call that has ended writes the last values of its parameters back to the
places of its arguments, one after another. Nothing is written while the
call may still fail in its arguments or in its body. A place inside an
array may be gone by then; the writes before it have been made, and those
after it are left out.
-/

namespace Action

variable
  {final : Scope}
  {line : Nat}
  {places : List WriteBack}
  {machine failed after : Machine}

/-- A write that succeeds assigns to its variable. -/
theorem writePlace_assigns
    {name : String}
    {path : List Value}
    {v : Value}
    (ran : writePlace name path v line machine = .ok () after) :
    ∃ w, after = machine.mapEnv (·.assign name w) := by
  cases path with
  | nil =>
      cases ran
      exact ⟨v, rfl⟩
  | cons index path =>
      obtain ⟨_, w, _, _, shape⟩ := writePlace_eq_ok ran
      exact ⟨w, shape⟩

/-- A write fails only inside a variable, where nothing can be read either. -/
theorem unreadable_of_writePlace
    {name : String}
    {path : List Value}
    {v : Value}
    {halt : Halt}
    (ran : writePlace name path v line machine = .error halt failed) :
    path ≠ [] ∧ ∀ old, machine.reading name path line ≠ .ok old := by
  constructor
  · rintro rfl
    cases ran
  · intro old read
    obtain ⟨held, found, inner⟩ := Machine.reading_eq_ok read
    obtain ⟨w, written⟩ := writeAt_of_readAt inner v
    rw [writePlace_of_find? found written line] at ran
    cases ran

/-- Writes to visible variables change the bindings of these variables only. -/
theorem changesWithin_writeBack
    (visible : ∀ place ∈ places, machine.env.contains place.name = true)
    (ran : writeBack final line places machine = .ok () after) :
    machine.env.ChangesWithin
      (fun level name =>
        level = machine.env.holder name ∧ name ∈ places.map WriteBack.name)
      after.env := by
  induction places generalizing machine with
  | nil =>
      cases ran
      exact .refl _
  | cons place rest inductionHypothesis =>
      obtain ⟨_, between, written, ranRest⟩ := Change.bind_eq_ok ran
      obtain ⟨w, rfl⟩ := writePlace_assigns written
      have visibleHere := visible place List.mem_cons_self
      have same : machine.env.SameNames (machine.env.assign place.name w) :=
        Environment.sameNames_assign visibleHere w
      have later := inductionHypothesis
        (fun other member =>
          same.contains (visible other (List.mem_cons_of_mem _ member))) ranRest
      refine .trans ((Environment.ChangesWithin.assign visibleHere w).mono ?_)
        (later.mono ?_)
      · rintro level name ⟨rfl, rfl⟩
        exact ⟨rfl, List.mem_cons_self⟩
      · rintro level name ⟨rfl, member⟩
        exact ⟨same.holder name, List.mem_cons_of_mem _ member⟩

/-- The writes that are made when one of them fails: all before it, and no other. -/
theorem writeBack_eq_error
    {halt : Halt}
    (ran : writeBack final line places machine = .error halt failed) :
    ∃ done place rest,
      places = done ++ place :: rest ∧
        writeBack final line done machine = .ok () failed ∧
        place.path ≠ [] ∧
        ∀ old, failed.reading place.name place.path line ≠ .ok old := by
  induction places generalizing machine with
  | nil =>
      cases ran
  | cons place rest inductionHypothesis =>
      let v := (final.find? place.parameter).getD .null
      cases written : writePlace place.name place.path v line machine with
      | error cause stopped =>
          have halts :
              writeBack final line (place :: rest) machine = .error cause stopped :=
            Change.bind_of_error written
          obtain ⟨indexed, unreadable⟩ := unreadable_of_writePlace written
          cases writePlace_eq_error written
          rw [halts] at ran
          cases ran
          exact ⟨[], place, rest, rfl, rfl, indexed, unreadable⟩
      | ok _ between =>
          have goesOn :
              writeBack final line (place :: rest) machine =
                writeBack final line rest between :=
            Change.bind_of_ok written
          rw [goesOn] at ran
          obtain ⟨done, next, later, shape, wrote, failure⟩ :=
            inductionHypothesis ran
          refine ⟨place :: done, next, later, by rw [shape]; rfl, ?_, failure⟩
          exact (Change.bind_of_ok written).trans wrote

end Action

/-- What the body of a function makes of the machine on which its
parameters are bound. -/
def Definition.bodyResult
    (definition : Definition)
    (fuel : Nat)
    (binding : Binding)
    (bound : Machine) : EStateM.Result Halt Machine Completion :=
  runAll (execute fuel) definition.body (bound.enterCall binding.scope)

/-- How far a call of a script function has come: it is refused, an
argument or the body halts, or the body has a value, which is that of the
call if all places can be written back to. If one cannot, the places before
it have been written back to. -/
inductive WritesBack
    (machine : Machine)
    (fuel : Nat)
    (name : String)
    (arguments : List Expression)
    (definition : Definition)
    (line : Nat) : EStateM.Result Halt Machine Value → Prop where
  | refused
      {halt : Halt}
      (refuses :
        machine.callLimit.atMost (.int machine.depth) = true ∨
          definition.accepts arguments.length = false) :
      WritesBack machine fuel name arguments definition line (.error halt machine)
  | unbound
      {cause halt : Halt}
      {failed : Machine}
      (binds :
        Action.bindAll (evaluate fuel) (evaluate fuel) definition.parameters
          arguments .empty
            machine =
          .error cause failed) :
      WritesBack machine fuel name arguments definition line (.error halt failed)
  | unanswered
      {binding : Binding}
      {bound ended : Machine}
      {halt : Halt}
      (enters : machine.EntersBody fuel name arguments definition binding bound)
      (noValue : bodyValue? (definition.bodyResult fuel binding bound) = none)
      (isEnd : ended = (definition.bodyResult fuel binding bound).state.leaveCall)
      (same : bound.SameFrame ended) :
      WritesBack machine fuel name arguments definition line (.error halt ended)
  | unwritten
      {binding : Binding}
      {bound ended failed : Machine}
      {v : Value}
      {halt : Halt}
      {final : Scope}
      {done rest : List WriteBack}
      {place : WriteBack}
      (enters : machine.EntersBody fuel name arguments definition binding bound)
      (hasValue : bodyValue? (definition.bodyResult fuel binding bound) = some v)
      (isFinal :
        final = (definition.bodyResult fuel binding bound).state.env.callScope)
      (isEnd : ended = (definition.bodyResult fuel binding bound).state.leaveCall)
      (same : bound.SameFrame ended)
      (order : binding.places = done ++ place :: rest)
      (written : Action.writeBack final line done ended = .ok () failed)
      (changes :
        ended.env.ChangesWithin
          (fun level x => level = ended.env.holder x ∧ x ∈ done.map WriteBack.name)
          failed.env)
      (indexed : place.path ≠ [])
      (unreadable : ∀ old, failed.reading place.name place.path line ≠ .ok old) :
      WritesBack machine fuel name arguments definition line (.error halt failed)
  | answered
      {binding : Binding}
      {bound ended last : Machine}
      {v : Value}
      {final : Scope}
      (enters : machine.EntersBody fuel name arguments definition binding bound)
      (hasValue : bodyValue? (definition.bodyResult fuel binding bound) = some v)
      (isFinal :
        final = (definition.bodyResult fuel binding bound).state.env.callScope)
      (isEnd : ended = (definition.bodyResult fuel binding bound).state.leaveCall)
      (same : bound.SameFrame ended)
      (written : Action.writeBack final line binding.places ended = .ok () last) :
      WritesBack machine fuel name arguments definition line (.ok v last)

open Machine

section Calls

variable
  {machine bound : Machine}
  {fuel : Nat}
  {name : String}
  {arguments : List Expression}
  {definition : Definition}
  {binding : Binding}

/-- A call that is not admitted changes nothing. -/
theorem admitCall_error
    (refuses :
      machine.callLimit.atMost (.int machine.depth) = true ∨
        definition.accepts arguments.length = false)
    (line : Nat) :
    ∃ halt, Action.admitCall definition arguments.length line machine =
      .error halt machine := by
  unfold Action.admitCall
  rw [Change.get_bind]
  by_cases deep : machine.callLimit.atMost (.int machine.depth) = true
  · rw [if_pos deep]
    exact ⟨_, rfl⟩
  · have wrong : definition.accepts arguments.length = false :=
      refuses.resolve_left deep
    rw [if_neg deep, if_pos (by simp [wrong])]
    exact ⟨_, rfl⟩

/-- What is left of a call once its body has a value. -/
theorem writesBack_answer
    (enters : machine.EntersBody fuel name arguments definition binding bound)
    {v : Value}
    (hasValue : bodyValue? (definition.bodyResult fuel binding bound) = some v)
    (line : Nat) :
    WritesBack machine fuel name arguments definition line
      (Action.answer (definition.bodyResult fuel binding bound).state.env.callScope
        binding.places
        line v (definition.bodyResult fuel binding bound).state.leaveCall) := by
  have same := sameFrame_leaveCall fuel definition.body binding.scope bound
  have keeps := (runs_keep steady_unrelated fuel).1
  have visible : binding.Visible bound :=
    Action.visible_bindAll keeps keeps (fun _ member => by cases member)
      enters.binds
  have stillVisible := visible.of_sameNames same.names
  unfold Action.answer Action.atLine
  cases written :
      Action.writeBack
        (definition.bodyResult fuel binding bound).state.env.callScope line
        binding.places
          (definition.bodyResult fuel binding bound).state.leaveCall with
  | ok _ last =>
      rw [Change.bind_of_ok written]
      exact .answered enters hasValue rfl rfl same written
  | error halt failed =>
      rw [Change.bind_of_error written]
      obtain ⟨done, place, rest, order, wrote, indexed, unreadable⟩ :=
        Action.writeBack_eq_error written
      have changes := Action.changesWithin_writeBack
        (fun other member =>
          stillVisible other (order ▸ List.mem_append_left _ member)) wrote
      exact .unwritten enters hasValue rfl rfl same order wrote changes indexed
        unreadable

end Calls

/--
A call of a script function writes nothing back before its body has ended with a
value, and then all that it can, in the order of its parameters.

If it is refused, or if an argument or the body halts, the variables of the
caller hold what they held at that time. Only a place inside an array can be
gone when the body has ended. Then the places before it have been written back
to, and no other binding has changed since.
-/
theorem call_writesBack
    {machine : Machine}
    {name : String}
    {definition : Definition}
    (found : machine.function? name = some definition)
    (fuel : Nat)
    (arguments : List Expression)
    (line : Nat) :
    WritesBack machine fuel name arguments definition line
      (evaluate (fuel + 1) (.call name arguments line) machine) := by
  by_cases refuses :
      machine.callLimit.atMost (.int machine.depth) = true ∨
        definition.accepts arguments.length = false
  · obtain ⟨halt, refused⟩ := admitCall_error refuses line
    rw [evaluate_call_of_function found]
    unfold Action.atLine
    rw [Action.callDefinition, Action.callBy, Change.bind_of_error refused]
    exact .refused refuses
  rw [not_or, Bool.not_eq_true, Bool.not_eq_false] at refuses
  obtain ⟨room, accepts⟩ := refuses
  cases binds :
      Action.bindAll (evaluate fuel) (evaluate fuel) definition.parameters
        arguments .empty machine with
  | error halt failed =>
      have admitted := admitCall_ok room accepts line
      rw [evaluate_call_of_function found]
      unfold Action.atLine
      rw [Action.callDefinition, Action.callBy, Change.bind_of_ok admitted,
        Change.bind_of_error binds]
      exact .unbound binds
  | ok binding bound =>
      have enters :
          machine.EntersBody fuel name arguments definition binding bound :=
        ⟨found, room, accepts, binds⟩
      have ends := evaluate_call_endsBy enters line
      cases hasValue : bodyValue? (definition.bodyResult fuel binding bound) with
      | none =>
          obtain ⟨halt, halted⟩ := ends.halts hasValue
          rw [halted]
          exact .unanswered enters hasValue rfl
            (sameFrame_leaveCall fuel definition.body binding.scope bound)
      | some v =>
          rw [ends.answers hasValue]
          exact writesBack_answer enters hasValue line

/-- A function that sets its first parameter and takes the elements away that
its second one stands for. -/
def Definition.clearing : Definition :=
  ⟨"clear", [⟨"p", .byReference, none, 1⟩, ⟨"q", .byReference, none, 1⟩],
    [.assign ⟨"p", [], 2⟩ (.literal (.int 2) 2) 2,
      .assign ⟨"a", [], 3⟩ (.array [] 3) 3]⟩

/-- A machine with that function, a number and an array of one element. -/
def Machine.beforeClearing : Machine :=
  ((Machine.start (Settings.ofList [])).define .clearing).mapEnv fun _ =>
    ⟨[("x", .int 1), ("a", .array [.int 1])], [], []⟩

/-- A variable and the element of an array. -/
def variableAndElement : List Expression :=
  [.name "x" 7, .index (.name "a" 7) (.literal (.int 0) 7) 7]

/-- The law of calls for the call that clears the array. -/
theorem call_writesBack_clearing :
    Machine.beforeClearing.function? "clear" = some .clearing ∧
      WritesBack .beforeClearing 4 "clear" variableAndElement .clearing 7
        (evaluate 5 (.call "clear" variableAndElement 7) .beforeClearing) :=
  ⟨rfl, call_writesBack rfl 4 variableAndElement 7⟩

/-- The number is written back, and then the call fails since the element is
gone. -/
theorem failed_call_has_written_back :
    ∃ binding bound halt failed,
      Machine.beforeClearing.EntersBody 4 "clear" variableAndElement .clearing
          binding bound ∧
        evaluate 5 (.call "clear" variableAndElement 7) .beforeClearing =
          .error halt failed ∧
        (Definition.clearing.bodyResult 4 binding bound).state.leaveCall.env.find?
            "x" =
          some (.int 1) ∧
        failed.env.find? "x" = some (.int 2) :=
  ⟨⟨[("p", .int 1), ("q", .int 1)], [⟨"p", "x", []⟩, ⟨"q", "a", [.int 0]⟩]⟩,
    .beforeClearing, _, _, ⟨rfl, rfl, rfl, rfl⟩, rfl, rfl, rfl⟩

end GridScript.Script
