import GridScript.Proofs.Script.Functions
import Mathlib.Data.List.Induction

namespace GridScript.Script

/-!
# Definitions at top level

A program defines the functions at its top level before it runs, and once more
as it comes to them. If function statements stand there only, the names that a
run leaves are those before it and those of the program.
-/

open GridScript.Text

/-! ## Definitions in a row -/

/-- The functions defined at top level. -/
def Program.definitions (program : Program) : List Definition :=
  program.statements.filterMap Statement.definition?

/-- Each definition replaces an earlier one of its name. -/
def Resolution.defineEach
    (resolution : Resolution)
    (definitions : List Definition) : Resolution :=
  definitions.foldl Resolution.define resolution

/-- Define some functions, one after another. -/
def Machine.defineEach
    (machine : Machine)
    (definitions : List Definition) : Machine :=
  definitions.foldl Machine.define machine

namespace Resolution

variable
  {resolution other : Resolution}
  {definitions : List Definition}
  {key : String}

theorem defineEach_append (more : List Definition) :
    resolution.defineEach (definitions ++ more) =
      (resolution.defineEach definitions).defineEach more :=
  List.foldl_append

/-- Definitions of other names do not change what a name resolves to. -/
theorem defineEach_of_not_mem
    (other : key ∉ definitions.map fun definition => lower definition.name) :
    resolution.defineEach definitions key = resolution key := by
  induction definitions generalizing resolution with
  | nil =>
      rfl
  | cons definition rest inductionHypothesis =>
      obtain ⟨notFirst, notLater⟩ := List.ne_and_not_mem_of_not_mem_cons other
      refine (inductionHypothesis notLater).trans ?_
      exact Function.update_of_ne notFirst _ _

/-- What a name is defined as does not depend on what it resolved to before. -/
theorem defineEach_of_mem
    (member : key ∈ definitions.map fun definition => lower definition.name) :
    resolution.defineEach definitions key = other.defineEach definitions key := by
  induction definitions generalizing resolution other with
  | nil =>
      cases member
  | cons definition rest inductionHypothesis =>
      show (resolution.define definition).defineEach rest key =
        (other.define definition).defineEach rest key
      by_cases later : key ∈ rest.map fun definition => lower definition.name
      · exact inductionHypothesis later
      · have isFirst : key = lower definition.name := by
          rcases List.mem_cons.mp member with isFirst | inRest
          · exact isFirst
          · exact absurd inRest later
        rw [defineEach_of_not_mem later, defineEach_of_not_mem later, isFirst,
          define, define, Function.update_self, Function.update_self]

/-- Of functions with names of their own, each is found under its name. -/
theorem defineEach_of_nodup
    {definition : Definition}
    (distinct : (definitions.map fun definition => lower definition.name).Nodup)
    (member : definition ∈ definitions) :
    resolution.defineEach definitions (lower definition.name) =
      some definition := by
  obtain ⟨earlier, later, rfl⟩ := List.append_of_mem member
  rw [List.map_append, List.map_cons] at distinct
  have notLater := (List.nodup_cons.mp distinct.of_append_right).1
  rw [defineEach_append]
  exact (defineEach_of_not_mem notLater).trans (Function.update_self ..)

/-- The last definition of a name counts. -/
theorem defineEach_eq_lookup (definitions : List Definition) (key : String) :
    defineEach (fun _ => none) definitions key =
      (definitions.map fun definition =>
        (lower definition.name, definition)).reverse.lookup key := by
  induction definitions using List.reverseRecOn with
  | nil =>
      rfl
  | append_singleton earlier last inductionHypothesis =>
      rw [defineEach_append, List.map_append, List.reverse_append]
      show (defineEach _ earlier).define last key = List.lookup key (_ :: _)
      rw [Resolution.define, Function.update_apply, List.lookup_cons,
        inductionHypothesis]
      by_cases isLast : key = lower last.name
      · rw [if_pos isLast, isLast, beq_self_eq_true]
      · rw [if_neg isLast, beq_false_of_ne isLast]
        rfl

end Resolution

namespace Machine

variable {machine : Machine}

theorem resolution_defineEach (definitions : List Definition) :
    (machine.defineEach definitions).resolution =
      machine.resolution.defineEach definitions := by
  induction definitions generalizing machine with
  | nil =>
      rfl
  | cons definition rest inductionHypothesis =>
      refine inductionHypothesis.trans ?_
      rw [resolution_define]
      rfl

/-- Definitions change nothing but the functions. -/
theorem defineEach_rest (machine : Machine) (definitions : List Definition) :
    ∃ functions,
      machine.defineEach definitions = { machine with functions := functions } := by
  induction definitions generalizing machine with
  | nil =>
      exact ⟨_, rfl⟩
  | cons definition rest inductionHypothesis =>
      obtain ⟨functions, same⟩ := inductionHypothesis (machine.define definition)
      exact ⟨functions, same⟩

theorem Plain.define
    {definition : Definition}
    (plain : machine.Plain)
    (definitionPlain : definition.Plain) :
    (machine.define definition).Plain := by
  intro entry member
  rcases List.mem_cons.mp member with rfl | inKept
  · exact definitionPlain
  · exact plain entry (List.mem_filter.mp inKept).1

theorem Plain.defineEach
    {definitions : List Definition}
    (plain : machine.Plain)
    (definitionsPlain : ∀ definition ∈ definitions, definition.Plain) :
    (machine.defineEach definitions).Plain := by
  induction definitions generalizing machine with
  | nil =>
      exact plain
  | cons definition rest inductionHypothesis =>
      obtain ⟨first, later⟩ := List.forall_mem_cons.mp definitionsPlain
      exact inductionHypothesis (plain.define first) later

end Machine

/-! ## Programs that define at top level -/

/-- Function statements stand at top level only, and no two of them
define the same name. -/
structure Program.DefinesAtTop (program : Program) : Prop where
  plain :
    ∀ s ∈ program.statements,
      (s.definition? = none → s.Plain) ∧
        ∀ definition ∈ s.definition?, definition.Plain
  distinct : (program.definitions.map fun definition => lower definition.name).Nodup

instance (s : Statement) : Decidable s.Plain :=
  inferInstanceAs (Decidable (∀ n ∈ s.nodes, n.definition? = none))

instance (definition : Definition) : Decidable definition.Plain :=
  inferInstanceAs (Decidable (∀ s ∈ definition.body, s.Plain))

theorem Program.definesAtTop_iff (program : Program) :
    program.DefinesAtTop ↔
      (∀ s ∈ program.statements,
        (s.definition? = none → s.Plain) ∧
          ∀ definition ∈ s.definition?, definition.Plain) ∧
      (program.definitions.map fun definition => lower definition.name).Nodup :=
  ⟨fun atTop => ⟨atTop.plain, atTop.distinct⟩, fun both => ⟨both.left, both.right⟩⟩

instance (program : Program) : Decidable program.DefinesAtTop :=
  decidable_of_iff _ program.definesAtTop_iff.symm

/-- Machines whose functions are plain keep what names resolve to. -/
def Machine.KeepsResolution
    (resolution : Resolution)
    (machine after : Machine) : Prop :=
  machine.Plain → machine.resolution = resolution →
    after.Plain ∧ after.resolution = resolution

instance (resolution : Resolution) :
    IsPreorder Machine (Machine.KeepsResolution resolution) where
  refl _ plain same := ⟨plain, same⟩
  trans _ _ _ first second plain same :=
    have kept := first plain same
    second kept.1 kept.2

/-- A statement at top level keeps what names resolve to if what it
defines is there already. -/
theorem keepsResolution_execute
    {resolution : Resolution}
    {s : Statement}
    (plain : s.definition? = none → s.Plain)
    (defined :
      ∀ definition ∈ s.definition?,
        definition.Plain ∧ resolution (lower definition.name) = some definition)
    (fuel : Nat) :
    Action.Keeping (Machine.KeepsResolution resolution) Completion (execute fuel s)
      (execute fuel s) := by
  cases isDefinition : s.definition? with
  | none =>
      intro machine machinePlain same
      have kept :=
        (run_keepsFunctions fuel).2 s (plain isDefinition) machine machinePlain
      refine ⟨?_, (funext fun key => congrArg (List.lookup key) kept).trans same⟩
      rw [Machine.Plain, kept]
      exact machinePlain
  | some definition =>
      obtain ⟨definitionPlain, isDefined⟩ := defined definition isDefinition
      cases fuel with
      | zero =>
          exact Keeps.throw _
      | succ fuel =>
          cases s with
          | define name parameters body line =>
              cases isDefinition
              intro machine machinePlain same
              refine ⟨machinePlain.define definitionPlain, ?_⟩
              refine (Machine.resolution_define ..).trans ?_
              rw [same, Resolution.define, ← isDefined, Function.update_eq_self]
          | _ =>
              cases isDefinition

theorem forM_define
    (functions : List (String × Definition))
    (machine : Machine) :
    (functions.forM fun (_, definition) =>
        modify (·.define definition) : Action PUnit) machine =
      .ok PUnit.unit (machine.defineEach (functions.map Prod.snd)) := by
  induction functions generalizing machine with
  | nil =>
      rfl
  | cons entry rest inductionHypothesis =>
      exact inductionHypothesis _

theorem Program.map_functions (program : Program) :
    program.functions.map Prod.snd = program.definitions := by
  unfold functions definitions
  rw [List.map_filterMap]
  congr 1
  funext s
  cases s.definition? <;> rfl

/-- A program runs its statements with its functions defined. -/
theorem runProgram_eq
    (fuel : Nat)
    (program : Program)
    (machine : Machine) :
    runProgram fuel program machine =
      runStatements (execute fuel) program.statements
        (machine.defineEach program.definitions) := by
  rw [← Program.map_functions]
  exact Change.bind_of_ok (forM_define program.functions machine)

/-- Function statements in front are definitions. -/
theorem runStatements_append
    {front : List Statement}
    (defines : ∀ s ∈ front, s.definition? ≠ none)
    (fuel : Nat)
    (rest : List Statement)
    (machine : Machine) :
    runStatements (execute (fuel + 1)) (front ++ rest) machine =
      runStatements (execute (fuel + 1)) rest
        (machine.defineEach (front.filterMap Statement.definition?)) := by
  induction front generalizing machine with
  | nil =>
      rfl
  | cons s front inductionHypothesis =>
      obtain ⟨isDefinition, later⟩ := List.forall_mem_cons.mp defines
      cases s with
      | define name parameters body line =>
          exact inductionHypothesis later (machine.define ⟨name, parameters, body⟩)
      | _ =>
          exact absurd rfl isDefinition

theorem runStatements_alike (fuel : Nat) (statements : List Statement) :
    RunsAlike Unit (runStatements (execute fuel) statements)
      (runStatements (execute fuel) statements) :=
  RunsAlike.compositional.runStatements fun s _ => (run_alike fuel).2 s

/-- A program that defines at top level leaves its own definitions
and the ones before. -/
theorem Program.DefinesAtTop.resolution_runProgram
    {program : Program}
    (atTop : program.DefinesAtTop)
    {machine : Machine}
    (plain : machine.Plain)
    (fuel : Nat) :
    let after := (runProgram fuel program machine).state
    after.Plain ∧
      after.resolution = machine.resolution.defineEach program.definitions := by
  have compositional := Action.compositional_keeping
    (Machine.KeepsResolution (machine.resolution.defineEach program.definitions))
  have ofDefinitions : ∀ definition ∈ program.definitions, definition.Plain := by
    intro definition member
    obtain ⟨s, inProgram, isDefinition⟩ := List.mem_filterMap.mp member
    exact (atTop.plain s inProgram).2 definition isDefinition
  have kept :=
    compositional.runStatements fun s (member : s ∈ program.statements) =>
      keepsResolution_execute (atTop.plain s member).1
        (fun definition isDefinition =>
          ⟨(atTop.plain s member).2 definition isDefinition,
            Resolution.defineEach_of_nodup atTop.distinct
              (List.mem_filterMap.mpr ⟨s, member, isDefinition⟩)⟩) fuel
  dsimp only
  rw [runProgram_eq]
  exact kept _ (plain.defineEach ofDefinitions) (Machine.resolution_defineEach _)

end GridScript.Script
