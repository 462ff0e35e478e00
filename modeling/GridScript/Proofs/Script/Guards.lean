import GridScript.Proofs.Script.Termination
import GridScript.Proofs.Value.Order

namespace GridScript

/-!
# The guards of a run

A run has two guards: a limit of the iterations of every loop and a limit of
the depth of calls. They end every run whose defaults are nested only so
deep. They do not bound the nesting of defaults, since a default is evaluated
before its call counts.
-/

/-- The limits of the settings are numbers that counting passes. -/
structure Settings.Limited (settings : Settings) : Prop where
  loops : ∃ limit, settings.loopLimit = some limit ∧ limit.IsFinite
  calls : settings.callLimit.Passable

namespace Script

/-- Limits of the settings give bounds for the run of a program. -/
theorem exists_bounds
    (program : Program)
    {machine : Machine}
    (limited : machine.host.settings.Limited) :
    ∃ bounds : Bounds,
      bounds.Hold machine.depth machine ∧
        sizeOf program.statements ≤ bounds.size := by
  obtain ⟨limit, given, finite⟩ := limited.loops
  obtain ⟨iterations, beyond⟩ := finite.exists_less
  obtain ⟨calls, refused⟩ := limited.calls.exists_atMost
  let size := sizeOf machine.functions + sizeOf program.statements
  refine ⟨⟨size, iterations, calls⟩, ⟨rfl, ?_, ⟨limit, given, beyond⟩, refused⟩, ?_⟩
  · intro entry member
    have inFunctions := List.sizeOf_lt_of_mem member
    have inEntry : sizeOf entry.2 < sizeOf entry := by
      obtain ⟨name, definition⟩ := entry
      simp only [Prod.mk.sizeOf_spec]
      omega
    show sizeOf entry.2 ≤ size
    omega
  · exact Nat.le_add_left _ _

/-- With enough fuel the run of a program ends, when defaults may be
nested only so deep. -/
theorem ends_runProgramWithin
    {bounds : Bounds}
    {program : Program}
    (small : sizeOf program.statements ≤ bounds.size)
    {fuel nesting depth : Nat}
    (enough : bounds.cost nesting depth bounds.size ≤ fuel) :
    Ends bounds depth (runProgramWithin fuel nesting program) := by
  have defines :
      ∀ entry ∈ program.functions,
        Ends bounds depth (modify (·.define entry.2) : Action PUnit) := by
    intro entry member
    obtain ⟨statement, inProgram, named⟩ := List.mem_filterMap.mp member
    obtain ⟨definition, isDefined, rfl⟩ := Option.map_eq_some_iff.mp named
    have inside := Statement.sizeOf_definition isDefined
    have smaller := List.sizeOf_lt_of_mem inProgram
    exact Ends.define (by simp; omega)
  have executes :
      ∀ statement ∈ program.statements,
        Ends bounds depth (executeWithin fuel nesting statement) := by
    intro statement member
    have smaller := List.sizeOf_lt_of_mem member
    have less := bounds.cost_part nesting depth smaller
    have whole : bounds.cost nesting depth (sizeOf program.statements) ≤
        bounds.cost nesting depth bounds.size :=
      Nat.add_le_add_right (Nat.add_le_add_right (Nat.add_le_add_left small _) _) _
    exact (ends_within bounds fuel nesting depth).2 statement (by omega) (by omega)
  have ran :
      Ending bounds depth Unit (runProgramWithin fuel nesting program)
        (runProgramWithin fuel nesting program) :=
    (compositional_ending bounds depth).runBy defines executes
  exact ran

/-- When defaults may be nested only so deep, the limits end every run. -/
theorem exists_fuel_within
    (program : Program)
    {machine : Machine}
    (limited : machine.host.settings.Limited)
    (nesting : Nat) :
    ∃ bound, ∀ fuel, bound ≤ fuel →
      ∀ after, runProgramWithin fuel nesting program machine ≠
        .error .exhausted after := by
  obtain ⟨bounds, hold, small⟩ := exists_bounds program limited
  refine ⟨bounds.cost nesting machine.depth bounds.size, fun fuel enough => ?_⟩
  exact (ends_runProgramWithin small enough machine hold).1

/--
A run ends exactly if its defaults are nested only so deep.

The limits end every run in which the nesting of defaults is bounded, whatever
the bound. So the run of a program ends if and only if some bound on the nesting
of defaults makes no difference to it.
-/
theorem ends_iff_defaults_bounded
    (program : Program)
    (machine : Machine)
    (limited : machine.host.settings.Limited) :
    (∀ nesting, ∃ bound, ∀ fuel, bound ≤ fuel →
      ∀ after,
        runProgramWithin fuel nesting program machine ≠ .error .exhausted after) ∧
    ((∃ fuel, ∀ after, runProgram fuel program machine ≠ .error .exhausted after) ↔
      ∃ nesting, ∀ fuel,
        runProgramWithin fuel nesting program machine =
          runProgram fuel program machine) := by
  refine ⟨exists_fuel_within program limited, ?_, ?_⟩
  · rintro ⟨fuel, ends⟩
    exact ⟨fuel, runProgramWithin_eq_of_ends ends⟩
  · rintro ⟨nesting, same⟩
    obtain ⟨bound, ends⟩ := exists_fuel_within program limited nesting
    refine ⟨bound, ?_⟩
    rw [← same bound]
    exact ends bound (Nat.le_refl bound)

/-- A machine before a run with some settings. -/
def Machine.start (settings : Settings) : Machine :=
  ⟨.ofGlobals [], [], 0, .ofSettings settings, "run"⟩

/-- A function that gives back its parameter, which has a call as its default. -/
def Statement.defaultCall (name callee : String) (line : Nat) : Statement :=
  .define name [⟨"x", .optional, some (.call callee [] line), line⟩]
    [.giveBack (some (.name "x" (line + 1))) (line + 1)] line

/-- A function with a default that calls the next function, and so on. -/
def Program.chainedDefaults : Program :=
  ⟨[.define "d" [] [.giveBack (some (.literal (.int 4) 2)) 2] 1,
    .defaultCall "c" "d" 4,
    .defaultCall "b" "c" 7,
    .defaultCall "a" "b" 10,
    .assign ⟨"y", [], 13⟩ (.call "a" [] 13) 13]⟩

/-- A function with a default that calls the function itself. -/
def Program.selfDefault : Program :=
  ⟨[.defaultCall "f" "f" 1, .assign ⟨"y", [], 4⟩ (.call "f" [] 4) 4]⟩

theorem Settings.limited_default : (Settings.ofList []).Limited :=
  ⟨⟨.int 10000000, rfl, false, 10000000, 0, rfl⟩,
    Number.IsFinite.passable ⟨false, 100, 0, rfl⟩⟩

/-- Three calls that are nested in defaults end under the usual limits. -/
theorem ends_iff_defaults_bounded_chained :
    (Settings.ofList []).Limited ∧
      ∃ nesting, ∀ fuel,
        runProgramWithin fuel nesting .chainedDefaults
            (.start (Settings.ofList [])) =
          runProgram fuel .chainedDefaults (.start (Settings.ofList [])) := by
  have limited := Settings.limited_default
  have equivalence :=
    ends_iff_defaults_bounded .chainedDefaults (.start (Settings.ofList [])) limited
  refine ⟨limited, equivalence.2.mp ⟨12, ?_⟩⟩
  intro after out
  cases out

/-- A call is admitted where the limit leaves room and the function takes
so many arguments. -/
theorem admitCall_ok
    {machine : Machine}
    {definition : Definition}
    {count : Nat}
    (room : machine.callLimit.atMost (.int machine.depth) = false)
    (accepts : definition.accepts count = true)
    (line : Nat) :
    Action.admitCall definition count line machine = .ok () machine := by
  unfold Action.admitCall
  rw [Change.get_bind]
  simp only [room, accepts]
  rfl

/-- A call by the name of a script function is a call of the function. -/
theorem callNamed_of_function?
    {machine : Machine}
    {name : String}
    {definition : Definition}
    (found : machine.function? name = some definition)
    (evaluate evaluateDefault : Expression → Action Value)
    (execute : Statement → Action Completion)
    (arguments : List Expression)
    (line : Nat) :
    Action.callNamed evaluate evaluateDefault execute name arguments line machine =
      Action.callDefinition evaluate evaluateDefault execute definition arguments
        line machine := by
  unfold Action.callNamed Action.dispatch
  rw [Change.get_bind]
  simp only [found]

/-- The call of a function in its own default is never refused. -/
theorem evaluate_selfDefault
    {machine : Machine}
    {body : List Statement}
    {line : Nat}
    (room : machine.callLimit.atMost (.int machine.depth) = false)
    (defined :
      machine.function? "f" =
        some ⟨"f", [⟨"x", .optional, some (.call "f" [] line), line⟩], body⟩)
    (fuel caller : Nat) :
    evaluate fuel (.call "f" [] caller) machine = .error .exhausted machine := by
  induction fuel generalizing caller with
  | zero =>
      rfl
  | succ fuel inductionHypothesis =>
      let definition : Definition :=
        ⟨"f", [⟨"x", .optional, some (.call "f" [] line), line⟩], body⟩
      have admitted :
          Action.admitCall definition 0 caller machine = .ok () machine :=
        admitCall_ok room rfl caller
      have bound :
          Action.bindAll (evaluate fuel) (evaluate fuel) definition.parameters []
              .empty machine =
            .error .exhausted machine :=
        Change.bind_of_error (inductionHypothesis line)
      have called :
          Action.callNamed (evaluate fuel) (evaluate fuel) (execute fuel) "f" []
              caller machine =
            .error .exhausted machine := by
        rw [callNamed_of_function? defined]
        exact (Change.bind_of_ok admitted).trans (Change.bind_of_error bound)
      show Action.atLine caller _ machine = _
      unfold Action.atLine
      rw [show Action.evaluateStep (evaluate fuel) (evaluate fuel) (execute fuel)
        (.call "f" [] caller) machine = _ from called]
      rfl

/-- A function that calls itself in a default never ends. -/
theorem selfDefault_never_ends (fuel : Nat) :
    ∃ after,
      runProgram fuel .selfDefault (.start (Settings.ofList [])) =
        .error .exhausted after := by
  let definition : Definition :=
    ⟨"f", [⟨"x", .optional, some (.call "f" [] 1), 1⟩],
      [.giveBack (some (.name "x" 2)) 2]⟩
  let defined := (Machine.start (Settings.ofList [])).define definition
  cases fuel with
  | zero =>
      exact ⟨defined, rfl⟩
  | succ fuel =>
      let again := defined.define definition
      have found : again.function? "f" = some definition := by
        simp [again, Machine.function?, Machine.define, definition]
      have called :
          evaluate fuel (.call "f" [] 4) again = .error .exhausted again :=
        evaluate_selfDefault rfl found fuel 4
      have assigned :
          execute (fuel + 1) (.assign ⟨"y", [], 4⟩ (.call "f" [] 4) 4) again =
            .error .exhausted again := by
        have stepped :
            Action.executeStep (evaluate fuel) (execute fuel)
              (Action.iterationBound fuel)
              (.assign ⟨"y", [], 4⟩ (.call "f" [] 4) 4) again =
                .error .exhausted again :=
          (Change.bind_of_ok rfl).trans (Change.bind_of_error called)
        show Action.atLine 4 _ again = _
        unfold Action.atLine
        rw [stepped]
        rfl
      have ran :
          runAll (execute (fuel + 1)) Program.selfDefault.statements defined =
            .error .exhausted again :=
        (Change.bind_of_ok rfl).trans (Change.bind_of_error assigned)
      exact ⟨again, (Change.bind_of_ok rfl).trans (Change.bind_of_error ran)⟩

/--
The limit of calls does not bound the nesting of defaults.

Under a limit of two calls a chain of four calls that are nested in defaults
runs to its end. A function that calls itself in a default does not end
under the usual limits.
-/
theorem defaults_escape_call_limit :
    (runProgram 12 .chainedDefaults
      (.start (Settings.ofList [("max_call_depth", .int 2)]))).state.env.globals =
        [("y", .int 4)] ∧
    (Settings.ofList []).Limited ∧
    ∀ fuel, ∃ after,
      runProgram fuel .selfDefault (.start (Settings.ofList [])) =
        .error .exhausted after :=
  ⟨rfl, Settings.limited_default, selfDefault_never_ends⟩

end Script

end GridScript
