import GridScript.Proofs.Entries
import GridScript.Proofs.Script.Ending

namespace GridScript.Script

/-!
# The limits end every run of bounded nesting

Every nested evaluation works on a smaller part of the program, or is one call
deeper in the body of a function, or is one default deeper. The fuel that is
needed is the number of such levels times the size of the program, and room for
the iterations of a loop.
-/

namespace Ends

variable {bounds : Bounds} {depth : Nat}

/-- A loop that goes on has not reached its limit. -/
theorem lt_of_iterate
    {kind : ExitKind}
    {number line : Nat}
    {bindings : Scope}
    {body : Action Completion}
    {machine after : Machine}
    {ended : Option Completion}
    (hold : bounds.Hold depth machine)
    (ran :
      Action.iterate kind number line bindings body machine = .ok ended after) :
    number < bounds.iterations := by
  obtain ⟨counted, between, counts, _⟩ := Change.bind_eq_ok ran
  obtain ⟨limit, limited, beyond⟩ := hold.loops
  rcases Nat.lt_or_ge number bounds.iterations with below | reached
  · exact below
  have isBeyond := beyond number reached
  unfold Action.countIteration at counts
  obtain ⟨held, same, looked, counts⟩ := Change.bind_eq_ok counts
  cases looked
  simp only [limited, isBeyond, if_true] at counts
  cases counts

theorem runRange
    {body : Action Completion}
    (inside : Ends bounds depth body)
    (name : String)
    (line : Nat)
    (p : Progression)
    {fuel count : Nat}
    (enough : bounds.iterations ≤ count + fuel)
    (some : 0 < fuel) :
    Ends bounds depth (Action.runRange name line p body fuel count) := by
  have compositional := compositional_ending bounds depth
  induction fuel generalizing count with
  | zero =>
      omega
  | succ fuel inductionHypothesis =>
      have next :
          Ends bounds depth
            (Action.ofOperation none (liftBreach (p.value count))) :=
        compositional.ofAttempt _ _
      refine next.bind fun v => ?_
      split
      · exact .pure _
      · have iterates :
            Ending bounds depth (Option Completion)
              (Action.iterate .forLoop (count + 1) line [(name, v.value)] body)
              (Action.iterate .forLoop (count + 1) line [(name, v.value)] body) :=
          (disciplined_ending bounds depth).iterate inside _ _ _ _
        refine bind_of iterates fun machine ended between hold ran holds => ?_
        have below := lt_of_iterate hold ran
        cases ended with
        | none =>
            exact inductionHypothesis (by omega) (by omega) between holds
        | some completion =>
            exact endsAt_ok holds completion

theorem runWhile
    {condition : Action Value}
    {body : Action Completion}
    (line : Nat)
    (tests : Ends bounds depth condition)
    (inside : Ends bounds depth body)
    {fuel count : Nat}
    (enough : bounds.iterations ≤ count + fuel)
    (some : 0 < fuel) :
    Ends bounds depth (Action.runWhile line condition body fuel count) := by
  induction fuel generalizing count with
  | zero =>
      omega
  | succ fuel inductionHypothesis =>
      refine tests.bind fun v => ?_
      split
      · have iterates :
            Ending bounds depth (Option Completion)
              (Action.iterate .whileLoop (count + 1) line [] body)
              (Action.iterate .whileLoop (count + 1) line [] body) :=
          (disciplined_ending bounds depth).iterate inside _ _ _ _
        refine bind_of iterates fun machine ended between hold ran holds => ?_
        have below := lt_of_iterate hold ran
        cases ended with
        | none =>
            exact inductionHypothesis (by omega) (by omega) between holds
        | some completion =>
            exact endsAt_ok holds completion
      · exact .pure _

/-- Functions that are not too large can be defined. -/
theorem define
    {definition : Definition}
    (small : sizeOf definition ≤ bounds.size) :
    Ends bounds depth (modify (·.define definition) : Action PUnit) := by
  intro machine hold
  have functions :
      ∀ entry ∈ (machine.define definition).functions,
        sizeOf entry.2 ≤ bounds.size := by
    intro entry member
    rcases List.mem_cons.mp member with rfl | held
    · exact small
    · exact hold.functions entry (List.mem_filter.mp held).1
  have defined : bounds.Hold depth (machine.define definition) :=
    ⟨hold.depth, functions, hold.loops, hold.calls⟩
  exact endsAt_ok defined PUnit.unit

/-- A body runs one call deeper. -/
theorem inCall
    {body : Action Completion}
    (inside : Ends bounds (depth + 1) body)
    (scope : Scope) :
    Ends bounds depth (Action.inCall scope body) := by
  have compositional := compositional_ending bounds (depth + 1)
  unfold Action.inCall
  refine between (?_ : Ends bounds (depth + 1) _) ?_ ?_
  · exact inside.bind fun completion =>
      bind (compositional.resultOfBody completion) fun v =>
        get.bind fun machine => .pure _
  · intro machine hold
    exact ⟨congrArg (· + 1) hold.depth, hold.functions, hold.loops, hold.calls⟩
  · intro machine hold
    exact ⟨by simp [Machine.leaveCall, hold.depth], hold.functions, hold.loops,
      hold.calls⟩

theorem writeBack (final : Scope) (line : Nat) (places : List WriteBack) :
    Ends bounds depth (Action.writeBack final line places) := by
  have compositional := compositional_ending bounds depth
  induction places with
  | nil =>
      exact .pure ()
  | cons place rest inductionHypothesis =>
      have written (v : Value) :
          Ending bounds depth Unit (Action.writePlace place.name place.path v line)
            (Action.writePlace place.name place.path v line) :=
        compositional.writePlace place.name (fun _ => changeEnv _) place.path v line
      exact bind (written _) fun _ => inductionHypothesis

/-- A call that is admitted has room below the limit of calls. -/
theorem lt_of_admitCall
    {definition : Definition}
    {count line : Nat}
    {machine after : Machine}
    (hold : bounds.Hold depth machine)
    (ran : Action.admitCall definition count line machine = .ok () after) :
    depth < bounds.calls := by
  rcases Nat.lt_or_ge depth bounds.calls with below | reached
  · exact below
  have refused := hold.calls depth reached
  unfold Action.admitCall at ran
  obtain ⟨held, same, looked, ran⟩ := Change.bind_eq_ok ran
  cases looked
  simp only [hold.depth, refused, if_true] at ran
  cases ran

section Steps

variable
  {evaluate evaluateDefault : Expression → Action Value}
  {execute : Statement → Action Completion}

/-- A call of a function ends when its arguments, its defaults and its body do. -/
theorem callDefinition
    {definition : Definition}
    {arguments : List Expression}
    (evaluates :
      ∀ argument ∈ arguments, ∀ part, sizeOf part ≤ sizeOf argument →
        Ends bounds depth (evaluate part))
    (evaluatesDefaults :
      ∀ e, sizeOf e < sizeOf definition → Ends bounds depth (evaluateDefault e))
    (executes :
      depth < bounds.calls → ∀ statement, sizeOf statement < sizeOf definition →
        Ends bounds (depth + 1) (execute statement))
    (line : Nat) :
    Ends bounds depth
      (Action.callDefinition evaluate evaluateDefault execute definition arguments
        line) := by
  have compositional := compositional_ending bounds depth
  have admits :
      Ends bounds depth (Action.admitCall definition arguments.length line) :=
    compositional.admitCall definition arguments.length line
  refine bind_of admits fun machine _ between hold ran holds => ?_
  have room := lt_of_admitCall hold ran
  have parts : sizeOf definition.parameters < sizeOf definition ∧
      sizeOf definition.body < sizeOf definition := by
    cases definition
    simp only [Definition.mk.sizeOf_spec]
    omega
  have defaults :
      ∀ parameter ∈ definition.parameters, ∀ e, parameter.default = some e →
        Ending bounds depth Value (evaluateDefault e) (evaluateDefault e) := by
    intro parameter member e held
    have inParameters := List.sizeOf_lt_of_mem member
    have inParameter : sizeOf e < sizeOf parameter := by
      cases parameter
      simp at held
      simp [held]
      omega
    exact evaluatesDefaults e (by omega)
  have bound :
      Ending bounds depth Binding
        (Action.bindAll evaluate evaluateDefault definition.parameters
          arguments .empty)
        (Action.bindAll evaluate evaluateDefault definition.parameters arguments
          .empty) :=
    compositional.bindAll evaluates defaults .empty
  have body :
      Ending bounds (depth + 1) Completion (runAll execute definition.body)
        (runAll execute definition.body) :=
    (compositional_ending bounds (depth + 1)).runAll definition.body
      fun statement member => by
        have inBody := List.sizeOf_lt_of_mem member
        exact executes room statement (by omega)
  refine bind bound (fun binding => ?_) between holds
  exact (inCall body binding.scope).bind fun result =>
    (writeBack _ line _).bind fun _ => .pure _

/-- A call ends when the evaluation of its arguments and the call of
every function do. -/
theorem callNamed
    {arguments : List Expression}
    (evaluates :
      ∀ argument ∈ arguments, Ends bounds depth (evaluate argument))
    (calls :
      ∀ definition, sizeOf definition ≤ bounds.size → ∀ line,
        Ends bounds depth
          (Action.callDefinition evaluate evaluateDefault execute definition
            arguments line))
    (name : String)
    (line : Nat) :
    Ends bounds depth
      (Action.callNamed evaluate evaluateDefault execute name arguments line) := by
  have compositional := compositional_ending bounds depth
  refine get.bind_of fun machine held between hold looked holds => ?_
  cases looked
  cases found : machine.function? name with
  | some definition =>
      have small :=
        hold.functions (Text.lower name, definition) (mem_of_lookup found)
      exact calls definition small line machine holds
  | none =>
      have values :
          Ending bounds depth (List Value) (arguments.mapM evaluate)
            (arguments.mapM evaluate) :=
        compositional.mapM arguments evaluates
      cases lookupBuiltin? name with
      | some builtin =>
          exact bind values (fun items => callHost builtin items line) machine holds
      | none =>
          exact compositional.stop _ _ machine holds

end Steps

end Ends

/-- The fuel that is needed for an expression or a statement of a size. -/
def Bounds.cost (bounds : Bounds) (nesting depth size : Nat) : Nat :=
  (nesting + (bounds.calls - depth)) * (bounds.size + 1) + size +
    bounds.iterations + 1

namespace Bounds

variable (bounds : Bounds) (nesting depth : Nat)

/-- A part needs less. -/
theorem cost_part
    {part size : Nat}
    (smaller : part < size) :
    bounds.cost nesting depth part < bounds.cost nesting depth size := by
  unfold cost
  omega

/-- A default needs less than the call that it is for. -/
theorem cost_default
    {part : Nat}
    (small : part ≤ bounds.size)
    (size : Nat) :
    bounds.cost nesting depth part < bounds.cost (nesting + 1) depth size := by
  have level :
      (nesting + 1 + (bounds.calls - depth)) * (bounds.size + 1) =
        (nesting + (bounds.calls - depth)) * (bounds.size + 1) +
          (bounds.size + 1) := by
    rw [Nat.add_right_comm, Nat.succ_mul]
  unfold cost
  omega

/-- The body of a function needs less than its call. -/
theorem cost_body
    {part : Nat}
    (small : part ≤ bounds.size)
    (room : depth < bounds.calls)
    (size : Nat) :
    bounds.cost nesting (depth + 1) part < bounds.cost nesting depth size := by
  have levels :
      nesting + (bounds.calls - depth) =
        nesting + (bounds.calls - (depth + 1)) + 1 := by
    omega
  have level :
      (nesting + (bounds.calls - depth)) * (bounds.size + 1) =
        (nesting + (bounds.calls - (depth + 1))) * (bounds.size + 1) +
          (bounds.size + 1) := by
    rw [levels, Nat.succ_mul]
  unfold cost
  omega

/-- Loops are given more iterations than their limit. -/
theorem iterations_lt
    {size fuel : Nat}
    (enough : bounds.cost nesting depth size ≤ fuel) :
    bounds.iterations < Action.iterationBound fuel := by
  have given : fuel ≤ Action.iterationBound fuel :=
    Nat.le_mul_of_pos_left fuel (Nat.two_pow_pos 40)
  unfold cost at enough
  omega

end Bounds

/-- A definition is not larger than the statement that makes it. -/
theorem Statement.sizeOf_definition
    {statement : Statement}
    {definition : Definition}
    (isDefined : statement.definition? = some definition) :
    sizeOf definition ≤ sizeOf statement := by
  cases statement with
  | define name parameters body line =>
      cases isDefined
      simp
  | _ =>
      cases isDefined

/-- With so much fuel evaluation and execution end, when defaults may be
nested only so deep. -/
def EndWithin (bounds : Bounds) (fuel nesting depth : Nat) : Prop :=
  (∀ e, sizeOf e ≤ bounds.size → bounds.cost nesting depth (sizeOf e) ≤ fuel →
    Ends bounds depth (evaluateWithin fuel nesting e)) ∧
  ∀ statement, sizeOf statement ≤ bounds.size →
    bounds.cost nesting depth (sizeOf statement) ≤ fuel →
      Ends bounds depth (executeWithin fuel nesting statement)

section Levels

variable
  {bounds : Bounds}
  {fuel nesting depth : Nat}
  (levels : ∀ nesting depth, EndWithin bounds fuel nesting depth)

include levels

/-- The parts of an expression or a statement end. -/
theorem ends_part
    {size : Nat}
    (small : size ≤ bounds.size)
    (enough : bounds.cost nesting depth size ≤ fuel + 1)
    (part : Expression)
    (smaller : sizeOf part < size) :
    Ends bounds depth (evaluateWithin fuel nesting part) := by
  have less := bounds.cost_part nesting depth smaller
  exact (levels nesting depth).1 part (by omega) (by omega)

/-- The defaults of a function that is called end. -/
theorem ends_default
    {size : Nat}
    (enough : bounds.cost nesting depth size ≤ fuel + 1)
    (e : Expression)
    (small : sizeOf e ≤ bounds.size) :
    Ends bounds depth (evaluateDefaultWithin fuel nesting e) := by
  cases nesting with
  | zero =>
      exact (compositional_ending bounds depth).stop _ _
  | succ nesting =>
      have less := bounds.cost_default nesting depth small size
      exact (levels nesting depth).1 e small (by omega)

/-- The statements of the body of a function that is called end, one call deeper. -/
theorem ends_body
    {size : Nat}
    (enough : bounds.cost nesting depth size ≤ fuel + 1)
    (room : depth < bounds.calls)
    (statement : Statement)
    (small : sizeOf statement ≤ bounds.size) :
    Ends bounds (depth + 1) (executeWithin fuel nesting statement) := by
  have less := bounds.cost_body nesting depth small room size
  exact (levels nesting (depth + 1)).2 statement small (by omega)

theorem ends_evaluateStep
    {e : Expression}
    (small : sizeOf e ≤ bounds.size)
    (enough : bounds.cost nesting depth (sizeOf e) ≤ fuel + 1) :
    Ends bounds depth
      (Action.evaluateStep (evaluateWithin fuel nesting)
        (evaluateDefaultWithin fuel nesting) (executeWithin fuel nesting) e) := by
  have evaluates := ends_part levels small enough
  have calls :
      ∀ name arguments line, e = .call name arguments line →
        Ends bounds depth
          (Action.callNamed (evaluateWithin fuel nesting)
            (evaluateDefaultWithin fuel nesting)
            (executeWithin fuel nesting) name arguments line) := by
    rintro name arguments line rfl
    have isPart {argument part : Expression} (member : argument ∈ arguments)
        (inside : sizeOf part ≤ sizeOf argument) :
        sizeOf part < sizeOf (Expression.call name arguments line) := by
      have inArguments := List.sizeOf_lt_of_mem member
      simp
      omega
    refine Ends.callNamed (fun argument member => ?_)
      (fun definition fits line => ?_) name line
    · exact evaluates argument (isPart member (Nat.le_refl _))
    · refine Ends.callDefinition (fun argument member part inside => ?_)
        (fun default inside => ?_) (fun room statement inside => ?_) line
      · exact evaluates part (isPart member inside)
      · exact ends_default levels enough default (by omega)
      · exact ends_body levels enough room statement (by omega)
  have step :
      Ending bounds depth Value
        (Action.evaluateStep (evaluateWithin fuel nesting)
          (evaluateDefaultWithin fuel nesting) (executeWithin fuel nesting) e)
        (Action.evaluateStep (evaluateWithin fuel nesting)
          (evaluateDefaultWithin fuel nesting) (executeWithin fuel nesting) e) :=
    (compositional_ending bounds depth).evaluateStep evaluates calls
  exact step

theorem ends_executeStep
    {statement : Statement}
    (small : sizeOf statement ≤ bounds.size)
    (enough : bounds.cost nesting depth (sizeOf statement) ≤ fuel + 1) :
    Ends bounds depth
      (Action.executeStep (evaluateWithin fuel nesting) (executeWithin fuel nesting)
        (Action.iterationBound fuel) statement) := by
  have evaluates := ends_part levels small enough
  have executes :
      ∀ part, sizeOf part < sizeOf statement →
        Ends bounds depth (executeWithin fuel nesting part) := by
    intro part smaller
    have less := bounds.cost_part nesting depth smaller
    exact (levels nesting depth).2 part (by omega) (by omega)
  have something : 0 < sizeOf statement := by
    cases statement <;> simp +arith
  have nothing := bounds.cost_part nesting depth something
  have iterations :=
    bounds.iterations_lt nesting depth
      (show bounds.cost nesting depth 0 ≤ fuel by omega)
  have defines :
      ∀ definition, statement.definition? = some definition →
        Ends bounds depth (modify (·.define definition) : Action PUnit) := by
    intro definition isDefined
    have inside := Statement.sizeOf_definition isDefined
    exact Ends.define (by omega)
  have step :
      Ending bounds depth Completion
        (Action.executeStep (evaluateWithin fuel nesting)
          (executeWithin fuel nesting) (Action.iterationBound fuel) statement)
        (Action.executeStep (evaluateWithin fuel nesting)
          (executeWithin fuel nesting) (Action.iterationBound fuel) statement) :=
    (disciplined_ending bounds depth).executeStep evaluates executes
      (fun name line p inside =>
        Ends.runRange inside name line p (by omega) (by omega))
      (fun line tests inside =>
        Ends.runWhile line tests inside (by omega) (by omega))
      defines
  exact step

end Levels

/-- With enough fuel evaluation and execution end, when defaults may be
nested only so deep. -/
theorem ends_within
    (bounds : Bounds)
    (fuel nesting depth : Nat) :
    EndWithin bounds fuel nesting depth := by
  induction fuel generalizing nesting depth with
  | zero =>
      constructor
      · intro e small enough
        simp [Bounds.cost] at enough
      · intro statement small enough
        simp [Bounds.cost] at enough
  | succ fuel inductionHypothesis =>
      constructor
      · intro e small enough
        rw [evaluateWithin_succ]
        exact (ends_evaluateStep inductionHypothesis small enough).atLine e.line
      · intro statement small enough
        rw [executeWithin_succ]
        exact (ends_executeStep inductionHypothesis small enough).atLine
          statement.line

end GridScript.Script
