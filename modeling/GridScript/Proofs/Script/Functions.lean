import GridScript.Proofs.Entries
import GridScript.Proofs.Script.Nodes
import GridScript.Proofs.Script.Steps
import Mathlib.Logic.Function.Basic

namespace GridScript.Script

/-!
# Functions of machines

Evaluation looks at the functions of a machine only to find the one of a name:
machines that find the same functions run alike. Code without function
statements leaves the functions of a machine as they are, unless a call runs a
function that defines others.
-/

/-! ## What names resolve to -/

/-- What a lower-case name resolves to. -/
abbrev Resolution :=
  String → Option Definition

/-- A definition replaces an earlier one of its name. -/
def Resolution.define
    (resolution : Resolution)
    (definition : Definition) : Resolution :=
  Function.update resolution (Text.lower definition.name) (some definition)

namespace Machine

/-- What names resolve to on a machine. -/
def resolution (machine : Machine) : Resolution :=
  fun key => machine.functions.lookup key

@[simp] theorem resolution_define (machine : Machine) (definition : Definition) :
    (machine.define definition).resolution =
      machine.resolution.define definition := by
  funext key
  show List.lookup key (_ :: _) = _
  rw [Resolution.define, Function.update_apply, List.lookup_cons]
  by_cases isKey : key = Text.lower definition.name
  · rw [isKey, beq_self_eq_true, if_pos rfl]
  · rw [beq_false_of_ne isKey, if_neg isKey]
    refine (lookup_filter machine.functions (· != Text.lower definition.name)
      key).trans ?_
    rw [if_pos (bne_iff_ne.mpr isKey)]
    rfl

/-- Two machines have nothing but their functions apart, and resolve every
name to the same one. -/
structure Alike (machine other : Machine) : Prop where
  rest : ∃ functions, other = { machine with functions := functions }
  resolution : other.resolution = machine.resolution

namespace Alike

variable {machine other : Machine}

theorem function?
    (alike : machine.Alike other)
    (name : String) :
    other.function? name = machine.function? name :=
  congrFun alike.resolution (Text.lower name)

theorem mapEnv
    (alike : machine.Alike other)
    (change : Environment → Environment) :
    (machine.mapEnv change).Alike (other.mapEnv change) := by
  obtain ⟨⟨functions, rfl⟩, same⟩ := alike
  exact ⟨⟨functions, rfl⟩, same⟩

theorem define
    (alike : machine.Alike other)
    (definition : Definition) :
    (machine.define definition).Alike (other.define definition) := by
  refine ⟨?_, by simp [alike.resolution]⟩
  obtain ⟨⟨functions, rfl⟩, same⟩ := alike
  exact ⟨_, rfl⟩

end Alike

end Machine

/-! ## Runs on machines that resolve names alike -/

/-- Two results are the same on machines that resolve names alike. -/
inductive SameResult {α : Type} :
    EStateM.Result Halt Machine α → EStateM.Result Halt Machine α → Prop where
  | ok (a : α) {machine other : Machine} (alike : machine.Alike other) :
      SameResult (.ok a machine) (.ok a other)
  | error (halt : Halt) {machine other : Machine} (alike : machine.Alike other) :
      SameResult (.error halt machine) (.error halt other)

/-- Two actions do the same on machines that resolve names alike. -/
def RunsAlike : ActionRelation :=
  fun _ action action' =>
    ∀ machine other, machine.Alike other →
      SameResult (action machine) (action' other)

namespace RunsAlike

variable {α β : Type} {action action' : Action α}

theorem bind
    {next next' : α → Action β}
    (first : RunsAlike α action action')
    (second : ∀ a, RunsAlike β (next a) (next' a)) :
    RunsAlike β (action >>= next) (action' >>= next') := by
  intro machine other alike
  have step := first machine other alike
  cases ran : action machine with
  | ok a between =>
      rw [ran] at step
      cases ran' : action' other with
      | ok a' between' =>
          rw [ran'] at step
          cases step with
          | ok _ after =>
              rw [Change.bind_of_ok ran, Change.bind_of_ok ran']
              exact second a between between' after
      | error halt between' =>
          rw [ran'] at step
          cases step
  | error halt between =>
      rw [ran] at step
      cases ran' : action' other with
      | ok a' between' =>
          rw [ran'] at step
          cases step
      | error halt' between' =>
          rw [ran'] at step
          cases step with
          | error _ after =>
              rw [Change.bind_of_error ran, Change.bind_of_error ran']
              exact .error halt after

theorem modify
    {change : Machine → Machine}
    (keeps :
      ∀ machine other, machine.Alike other →
        (change machine).Alike (change other)) :
    RunsAlike PUnit (modify change) (modify change) :=
  fun machine other alike => .ok PUnit.unit (keeps machine other alike)

theorem throw (halt : Halt) : RunsAlike α (throw halt) (throw halt) :=
  fun _ _ alike => .error halt alike

theorem compositional : Compositional RunsAlike where
  pure a _ _ alike := .ok a alike
  fail _ _ := throw _
  look {_ next next'} _ blind same machine other alike := by
    show SameResult (next machine machine) (next' other other)
    have sameNext : next' other = next' machine := by
      obtain ⟨functions, rfl⟩ := alike.rest
      exact blind machine functions
    rw [sameNext]
    exact same machine machine other alike
  bind := bind

theorem atLine
    (same : RunsAlike α action action')
    (line : Nat) :
    RunsAlike α (Action.atLine line action) (Action.atLine line action') := by
  intro machine other alike
  have step := same machine other alike
  unfold Action.atLine
  generalize action machine = result, action' other = result' at step
  cases step with
  | ok a after =>
      exact .ok a after
  | error halt after =>
      exact .error _ after

theorem between
    {enter leave : Machine → Machine}
    (same : RunsAlike α action action')
    (enters :
      ∀ machine other, machine.Alike other → (enter machine).Alike (enter other))
    (leaves :
      ∀ machine other, machine.Alike other → (leave machine).Alike (leave other)) :
    RunsAlike α (Action.between enter leave action)
      (Action.between enter leave action') := by
  intro machine other alike
  have step := same _ _ (enters machine other alike)
  unfold Action.between
  generalize action (enter machine) = result, action' (enter other) = result'
    at step
  cases step with
  | ok a after =>
      exact .ok a (leaves _ _ after)
  | error halt after =>
      exact .error halt (leaves _ _ after)

theorem changeEnv (change : Environment → Environment) :
    RunsAlike Unit (Action.changeEnv change) (Action.changeEnv change) :=
  modify fun _ _ alike => alike.mapEnv change

theorem disciplined : Disciplined RunsAlike RunsAlike where
  expressions := compositional
  statements := compositional
  weaken same := same
  inScope same :=
  same.between (fun _ _ alike => alike.mapEnv _) fun _ _ alike => alike.mapEnv _
  declare _ _ := changeEnv _
  assign _ _ := changeEnv _

theorem callHost
    (builtin : Builtin)
    (arguments : List Value)
    (line : Nat) :
    RunsAlike Value (Action.callHost builtin arguments line)
      (Action.callHost builtin arguments line) := by
  refine compositional.look (fun _ _ => rfl) (fun _ _ => rfl)
    fun looked machine other alike => ?_
  obtain ⟨⟨functions, rfl⟩, same⟩ := alike
  unfold Action.onHost
  dsimp only
  cases callBuiltin builtin ⟨line, looked.run⟩ arguments machine.host with
  | ok v host =>
      exact .ok v ⟨⟨functions, rfl⟩, same⟩
  | error failure host =>
      exact .error _ ⟨⟨functions, rfl⟩, same⟩

theorem writeBack
    (final : Scope)
    (line : Nat)
    (places : List WriteBack) :
    RunsAlike Unit (Action.writeBack final line places)
      (Action.writeBack final line places) := by
  induction places with
  | nil =>
      exact compositional.pure ()
  | cons place rest inductionHypothesis =>
      have written :=
        compositional.writePlace place.name (fun _ => changeEnv _) place.path
        ((final.find? place.parameter).getD .null) line
      exact bind written fun _ => inductionHypothesis

section Steps

variable
  {evaluate evaluateDefault : Expression → Action Value}
  {execute : Statement → Action Completion}
  (evaluates : ∀ e, RunsAlike Value (evaluate e) (evaluate e))
  (evaluatesDefaults : ∀ e, RunsAlike Value (evaluateDefault e) (evaluateDefault e))
  (executes :
    ∀ statement, RunsAlike Completion (execute statement) (execute statement))

theorem inCall
    {body body' : Action Completion}
    (same : RunsAlike Completion body body')
    (scope : Scope) :
    RunsAlike (Value × Scope) (Action.inCall scope body)
      (Action.inCall scope body') := by
  refine between (bind same fun completion => ?_) ?_ ?_
  · exact bind (compositional.resultOfBody completion) fun v =>
      compositional.look (fun _ _ => rfl) (fun _ _ => rfl) fun machine =>
        compositional.pure _
  · rintro machine _ ⟨⟨functions, rfl⟩, same⟩
    exact ⟨⟨functions, rfl⟩, same⟩
  · rintro machine _ ⟨⟨functions, rfl⟩, same⟩
    exact ⟨⟨functions, rfl⟩, same⟩

include evaluates evaluatesDefaults executes

theorem callDefinition
    (definition : Definition)
    (arguments : List Expression)
    (line : Nat) :
    RunsAlike Value
      (Action.callDefinition evaluate evaluateDefault execute definition
        arguments line)
      (Action.callDefinition evaluate evaluateDefault execute definition arguments
        line) := by
  refine bind (compositional.admitCall definition arguments.length line) fun _ => ?_
  have bound :
      RunsAlike Binding
        (Action.bindAll evaluate evaluateDefault definition.parameters
          arguments .empty)
        (Action.bindAll evaluate evaluateDefault definition.parameters arguments
          .empty) :=
    compositional.bindAll (fun _ _ e _ => evaluates e)
      (fun _ _ e _ => evaluatesDefaults e) .empty
  refine bind bound fun binding => ?_
  have ran :=
    compositional.runAll definition.body fun statement _ => executes statement
  exact bind (inCall ran binding.scope) fun result =>
    bind (writeBack result.2 line binding.places) fun _ => compositional.pure _

theorem callNamed
    (name : String)
    (arguments : List Expression)
    (line : Nat) :
    RunsAlike Value
      (Action.callNamed evaluate evaluateDefault execute name arguments line)
      (Action.callNamed evaluate evaluateDefault execute name arguments line) := by
  intro machine other alike
  unfold Action.callNamed Action.dispatch
  rw [Change.get_bind, Change.get_bind, alike.function?]
  cases machine.function? name with
  | some definition =>
      exact callDefinition evaluates evaluatesDefaults executes definition arguments
        line machine other alike
  | none =>
      dsimp only
      cases lookupBuiltin? name with
      | some builtin =>
          exact bind (compositional.mapM arguments fun e _ => evaluates e)
            (fun values => callHost builtin values line) machine other alike
      | none =>
          exact compositional.stop _ _ machine other alike

end Steps

end RunsAlike

/-- Evaluation and execution do the same on machines that resolve names alike. -/
theorem run_alike (fuel : Nat) :
    (∀ e, RunsAlike Value (evaluate fuel e) (evaluate fuel e)) ∧
      ∀ s, RunsAlike Completion (execute fuel s) (execute fuel s) := by
  induction fuel with
  | zero =>
      exact ⟨fun _ => .throw _, fun _ => .throw _⟩
  | succ fuel inductionHypothesis =>
      obtain ⟨evaluates, executes⟩ := inductionHypothesis
      constructor
      · intro e
        refine RunsAlike.atLine ?_ e.line
        exact RunsAlike.compositional.evaluateStep (fun part _ => evaluates part)
          fun name arguments line _ =>
            RunsAlike.callNamed evaluates evaluates executes name arguments line
      · intro s
        refine RunsAlike.atLine ?_ s.line
        exact RunsAlike.disciplined.executeStep (fun part _ => evaluates part)
          (fun part _ => executes part)
          (fun name line p same =>
            RunsAlike.disciplined.runRange (.throw _) same name line p _ 0)
          (fun line tests same =>
            RunsAlike.disciplined.runWhile (.throw _) same tests line _ 0)
          fun definition _ => .modify fun _ _ alike => alike.define definition

/-! ## Code without function statements -/

/-- The function that a node defines. -/
def Node.definition? : Node → Option Definition
  | .statement s => s.definition?
  | .expression _ => none

/-- A statement defines no function, and none inside it does. -/
def Statement.Plain (s : Statement) : Prop :=
  ∀ n ∈ s.nodes, n.definition? = none

/-- No statement inside a function defines one. -/
def Definition.Plain (definition : Definition) : Prop :=
  ∀ s ∈ definition.body, s.Plain

/-- The nodes in the bodies of branches are nodes of the branches. -/
theorem mem_nodesOfBranches
    {branches : List (Expression × List Statement)}
    {body : List Statement}
    {n : Node}
    (member : body ∈ branches.map Prod.snd)
    (inside : n ∈ Statement.nodesOfAll body) :
    n ∈ Statement.nodesOfBranches branches := by
  induction branches with
  | nil =>
      cases member
  | cons branch rest inductionHypothesis =>
      obtain ⟨condition, first⟩ := branch
      rw [Statement.nodesOfBranches, List.mem_append, List.mem_append]
      rcases List.mem_cons.mp member with rfl | inRest
      · exact .inl (.inr inside)
      · exact .inr (inductionHypothesis inRest)

/-- The statements of a body are plain if all nodes in it are. -/
theorem plain_of_nodesOfAll
    {body : List Statement}
    (plain : ∀ n ∈ Statement.nodesOfAll body, n.definition? = none) :
    ∀ s ∈ body, s.Plain := by
  rw [Statement.nodesOfAll_eq] at plain
  exact fun s member n inside => plain n (List.mem_flatMap_of_mem member inside)

namespace Machine

/-- No function of a machine defines another one. -/
def Plain (machine : Machine) : Prop :=
  ∀ entry ∈ machine.functions, entry.2.Plain

theorem Plain.of_function?
    {machine : Machine}
    {name : String}
    {definition : Definition}
    (plain : machine.Plain)
    (found : machine.function? name = some definition) :
    definition.Plain :=
  plain _ (mem_of_lookup found)

/-- A machine whose functions are plain keeps its functions. -/
def KeepsFunctions (machine after : Machine) : Prop :=
  machine.Plain → after.functions = machine.functions

instance : IsPreorder Machine KeepsFunctions where
  refl _ _ := rfl
  trans machine between after first second plain := by
    have same := first plain
    have stillPlain : between.Plain := by
      rw [Plain, same]
      exact plain
    exact (second stillPlain).trans same

end Machine

namespace Action

open Machine

/-- Blocks keep functions if their statements do. -/
theorem disciplined_keepsFunctions :
    Disciplined (Keeping KeepsFunctions) (Keeping KeepsFunctions) where
  expressions := compositional_keeping KeepsFunctions
  statements := compositional_keeping KeepsFunctions
  weaken keeps := keeps
  inScope keeps := between_keeps keeps fun _ _ kept plain => kept plain
  declare _ _ := changeEnv_keeps fun _ _ => rfl
  assign _ _ := changeEnv_keeps fun _ _ => rfl

section Steps

variable
  {evaluate evaluateDefault : Expression → Action Value}
  {execute : Statement → Action Completion}

variable
  (evaluates : ∀ e, Keeping KeepsFunctions Value (evaluate e) (evaluate e))
  (evaluatesDefaults :
    ∀ e, Keeping KeepsFunctions Value (evaluateDefault e) (evaluateDefault e))
  (executes :
    ∀ s : Statement, s.Plain →
      Keeping KeepsFunctions Completion (execute s) (execute s))

include executes in
theorem keepsFunctions_runAll
    {body : List Statement}
    (plain : ∀ s ∈ body, s.Plain) :
    Keeping KeepsFunctions Completion (runAll execute body) (runAll execute body) :=
  (compositional_keeping KeepsFunctions).runAll body fun s member =>
    executes s (plain s member)

include evaluates evaluatesDefaults executes in
/-- A call of a function that defines no others keeps functions. -/
theorem keepsFunctions_callDefinition
    {definition : Definition}
    (plain : definition.Plain)
    (arguments : List Expression)
    (line : Nat) :
    Keeps KeepsFunctions
      (callDefinition evaluate evaluateDefault execute definition arguments line) :=
  callDefinition_keeps (fun _ _ => changeEnv_keeps fun _ _ => rfl) evaluates
    evaluatesDefaults
    (fun _ =>
      inCall_keeps (keepsFunctions_runAll executes plain) fun _ _ kept plain =>
        kept plain)
    arguments line

include evaluates evaluatesDefaults executes in
theorem keepsFunctions_callNamed
    (name : String)
    (arguments : List Expression)
    (line : Nat) :
    Keeping KeepsFunctions Value
      (callNamed evaluate evaluateDefault execute name arguments line)
      (callNamed evaluate evaluateDefault execute name arguments line) := by
  intro machine machinePlain
  unfold callNamed dispatch
  rw [Change.get_bind]
  cases found : machine.function? name with
  | some definition =>
      have plain := machinePlain.of_function? found
      exact keepsFunctions_callDefinition evaluates evaluatesDefaults executes plain
        arguments line machine machinePlain
  | none =>
      cases lookupBuiltin? name with
      | some builtin =>
          have values : Keeps KeepsFunctions (arguments.mapM evaluate) :=
            Keeps.mapM arguments fun e _ => evaluates e
          exact values.bind
            (fun values => callHost_keeps builtin values line fun _ _ _ => rfl)
            machine machinePlain
      | none =>
          rfl

/-- A statement without blocks executes no other one. -/
theorem executeStep_of_leaf
    {s : Statement}
    (leaf : s.hasBlocks = false)
    (execute' : Statement → Action Completion)
    (iterations : Nat) :
    executeStep evaluate execute iterations s =
      executeStep evaluate execute' iterations s := by
  cases s with
  | exit kind line =>
      cases kind <;> rfl
  | conditional branches otherwise line =>
      cases leaf
  | forRange name start finish step body line =>
      cases leaf
  | forEach name collection body line =>
      cases leaf
  | whileLoop condition body line =>
      cases leaf
  | _ =>
      rfl

include evaluates executes in
/-- A step of a statement keeps functions if no statement inside it defines one. -/
theorem keepsFunctions_executeStep
    {s : Statement}
    (plain : s.Plain)
    (iterations : Nat) :
    Keeping KeepsFunctions Completion (executeStep evaluate execute iterations s)
      (executeStep evaluate execute iterations s) := by
  have disciplined := disciplined_keepsFunctions
  have compositional := compositional_keeping KeepsFunctions
  have ranges
      {body body' : Action Completion}
      (name : String)
      (line : Nat)
      (p : Progression)
      (keeps : Keeping KeepsFunctions Completion body body') :=
    disciplined.runRange (.throw _) keeps name line p iterations 0
  have whiles
      {condition condition' : Action Value}
      {body body' : Action Completion}
      (line : Nat)
      (tests : Keeping KeepsFunctions Value condition condition')
      (keeps : Keeping KeepsFunctions Completion body body') :=
    disciplined.runWhile (.throw _) keeps tests line iterations 0
  by_cases blocks : s.hasBlocks = true
  · cases s with
    | conditional branches otherwise line =>
        refine disciplined.runBranches (fun branch _ => evaluates branch.1)
          fun body isBody => ?_
        refine keepsFunctions_runAll executes
          (plain_of_nodesOfAll fun n member => plain n ?_)
        rw [Statement.nodes, List.mem_cons, List.mem_append]
        rcases isBody with inBranches | rfl
        · exact .inr (.inl (mem_nodesOfBranches inBranches member))
        · exact .inr (.inr member)
    | forRange name start finish step body line =>
        have inBody : ∀ s ∈ body, s.Plain :=
          plain_of_nodesOfAll fun n member =>
            plain n (by simp [Statement.nodes, member])
        refine compositional.bind (evaluates start) fun first =>
          compositional.bind (evaluates finish) fun last =>
            compositional.bind
              (compositional.evaluateOr _ fun part _ => evaluates part) fun size =>
                compositional.bind (compositional.ofAttempt _ _) fun p => ?_
        exact disciplined.inScope
          (ranges name line p (keepsFunctions_runAll executes inBody))
    | forEach name collection body line =>
        have inBody : ∀ s ∈ body, s.Plain :=
          plain_of_nodesOfAll fun n member =>
            plain n (by simp [Statement.nodes, member])
        refine compositional.bind (evaluates collection) fun held =>
          compositional.look (fun _ _ => rfl) (fun _ _ => rfl) fun machine =>
            compositional.bind (compositional.ofAttempt _ _) fun items => ?_
        exact disciplined.inScope
          (disciplined.runEach (keepsFunctions_runAll executes inBody) name line
            1 items)
    | whileLoop condition body line =>
        have inBody : ∀ s ∈ body, s.Plain :=
          plain_of_nodesOfAll fun n member =>
            plain n (by simp [Statement.nodes, member])
        exact disciplined.inScope
          (whiles line (evaluates condition)
            (keepsFunctions_runAll executes inBody))
    | _ =>
        cases blocks
  · have notDefined : s.definition? = none := plain _ s.mem_nodes
    rw [executeStep_of_leaf (by simpa using blocks) fun _ => pure .normal]
    exact disciplined.executeStep (fun part _ => evaluates part)
      (fun _ _ => compositional.pure _)
      ranges whiles fun definition isDefined =>
        absurd isDefined (by rw [notDefined]; exact nofun)

end Steps

end Action

/-- Expressions keep functions, and so do statements that define none. -/
theorem run_keepsFunctions (fuel : Nat) :
    (∀ e,
      Action.Keeping Machine.KeepsFunctions Value (evaluate fuel e)
        (evaluate fuel e)) ∧
      ∀ s : Statement, s.Plain →
        Action.Keeping Machine.KeepsFunctions Completion (execute fuel s)
          (execute fuel s) := by
  induction fuel with
  | zero =>
      exact ⟨fun _ => Keeps.throw _, fun _ _ => Keeps.throw _⟩
  | succ fuel inductionHypothesis =>
      obtain ⟨evaluates, executes⟩ := inductionHypothesis
      constructor
      · intro e
        refine Action.atLine_keeps e.line ?_
        exact (Action.compositional_keeping Machine.KeepsFunctions).evaluateStep
          (fun part _ => evaluates part) fun name arguments line _ =>
            Action.keepsFunctions_callNamed evaluates evaluates executes name
              arguments line
      · intro s plain
        exact Action.atLine_keeps s.line
          (Action.keepsFunctions_executeStep evaluates executes plain _)

end GridScript.Script
