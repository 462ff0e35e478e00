import GridScript.Proofs.Change
import GridScript.Proofs.Script.Containment.Machine
import GridScript.Proofs.Script.Nodes
import GridScript.Script.Evaluation

namespace GridScript.Script

/-!
# Regimes

A regime is what a run is held to: which nodes it may come to, which
integers its variables may hold, which halts may stop it, and which of them
are the alarms of a monitor. An action under a monitor follows a regime if
it keeps machines within it, ends as the regime allows, and does what the
action without the monitor does unless an alarm halts it. Actions are put
together by rules that keep this, so that evaluation needs to be gone
through once for all regimes.
-/

/-!
## Monitored runs

The evaluator takes no steps, so a run has no points in between to speak of. A
monitor stands at them instead: it looks at the machine after every expression
and every statement, however these end, and at every value that a built-in
function gives, and may halt the run there.
-/

/-- What a monitor halts a run with, and where. -/
structure Monitor where
  /-- The halt after a node that ends with a machine. -/
  node : Node → Machine → Option Halt
  /-- The halt in place of the value of a built-in function for some arguments. -/
  value : Builtin → List Value → Value → Option Halt

namespace Monitor

/-- An action that is halted after it if the monitor says so. -/
def watch
    (monitor : Monitor)
    (node : Node)
    (action : Action α) : Action α := fun machine =>
  match monitor.node node (action machine).state with
  | some halt => .error halt (action machine).state
  | none => action machine

/-- The value of a built-in function unless the monitor halts it. -/
def callHost
    (monitor : Monitor)
    (builtin : Builtin)
    (arguments : List Value)
    (line : Nat) : Action Value := do
  let v ← Action.callHost builtin arguments line
  match monitor.value builtin arguments v with
  | some halt => throw halt
  | none => return v

/-- Call the script function or else the built-in function with a name. -/
def callNamed
    (monitor : Monitor)
    (evaluate evaluateDefault : Expression → Action Value)
    (execute : Statement → Action Completion)
    (name : String)
    (arguments : List Expression)
    (line : Nat) : Action Value :=
  Action.dispatch name line
    (Action.callDefinition evaluate evaluateDefault execute · arguments line)
    fun builtin => do monitor.callHost builtin (← arguments.mapM evaluate) line

/-- The value of an expression from the values of its parts, with built-in
functions monitored. -/
def evaluateStep
    (monitor : Monitor)
    (evaluate evaluateDefault : Expression → Action Value)
    (execute : Statement → Action Completion) : Expression → Action Value
  | .call name arguments line =>
      monitor.callNamed evaluate evaluateDefault execute name arguments line
  | e => Action.evaluateStep evaluate evaluateDefault execute e

mutual

/-- The value of an expression, monitored. -/
def evaluate (monitor : Monitor) (fuel : Nat) (e : Expression) : Action Value :=
  match fuel with
  | 0 => throw .exhausted
  | fuel + 1 =>
      monitor.watch (.expression e) <| Action.atLine e.line <|
        monitor.evaluateStep (monitor.evaluate fuel) (monitor.evaluate fuel)
          (monitor.execute fuel) e

/-- How a statement ends, monitored. -/
def execute (monitor : Monitor) (fuel : Nat) (s : Statement) : Action Completion :=
  match fuel with
  | 0 => throw .exhausted
  | fuel + 1 =>
      monitor.watch (.statement s) <| Action.atLine s.line <|
        Action.executeStep (monitor.evaluate fuel) (monitor.execute fuel)
          (Action.iterationBound fuel) s

end

/-- Run a program, monitored. -/
def runProgram (monitor : Monitor) (fuel : Nat) (program : Program) : Action Unit :=
  program.runBy (monitor.execute fuel)

end Monitor

/-- What a run is held to. -/
structure Regime where
  /-- The nodes that may be evaluated and executed. -/
  node : Node → Prop
  /-- The lines that errors may name. -/
  line : Nat → Prop
  /-- The breaches that excuse integers beyond 64 bits. -/
  narrow : Breach → Prop
  /-- The breaches that may stop a run. -/
  breach : Breach → Prop
  /-- The halts that a monitor may raise. -/
  alarm : Halt → Prop
  line_of_node : ∀ {n : Node}, node n → line n.line
  narrow_of_node :
    ∀ {l : Literal} {place : Nat}, node (.expression (.literal l place)) →
      l.value.Narrow narrow
  breach_of_narrow : ∀ b, narrow b → breach b
  /-- An alarm has a line if it is an error. -/
  alarm_withLine : ∀ {halt : Halt}, alarm halt → ∀ place, halt.withLine place = halt

namespace Regime

variable (r : Regime)

/-- All of some nodes may be run. -/
def Permits (nodes : List Node) : Prop :=
  ∀ n ∈ nodes, r.node n

/-- All of some expressions may be evaluated. -/
def PermitsParts (parts : List Expression) : Prop :=
  ∀ part ∈ parts, r.node (.expression part)

/-- The variables of a machine fit and its functions may be called. -/
structure Holds (machine : Machine) : Prop where
  env : machine.env.Narrow r.narrow
  functions : ∀ entry ∈ machine.functions, r.Permits entry.2.nodes

/-- A halt inside a node, where an error may lack a line. -/
inductive Inside : Halt → Prop where
  | alarm {halt : Halt} (raised : r.alarm halt) : Inside halt
  | error
      {e : ScriptError}
      (lines : ∀ line, e.line = some line → r.line line) :
      Inside (.error e)
  | breach {b : Breach} (admitted : r.breach b) : Inside (.breach b)
  | exhausted : Inside .exhausted

/-- A halt that leaves a node, where every error has a line. -/
inductive Outside : Halt → Prop where
  | alarm {halt : Halt} (raised : r.alarm halt) : Outside halt
  | error
      {e : ScriptError}
      {line : Nat}
      (located : e.line = some line)
      (isLine : r.line line) :
      Outside (.error e)
  | breach {b : Breach} (admitted : r.breach b) : Outside (.breach b)
  | exhausted : Outside .exhausted

/-- A way in which a statement may end. -/
def Completes : Completion → Prop
  | .normal => True
  | .giveBack v => v.Narrow r.narrow
  | .exit _ line => r.line line

/-- A result is the one without the monitor, or an alarm. -/
def Agrees (watched plain : EStateM.Result Halt Machine α) : Prop :=
  watched = plain ∨ ∃ halt, r.alarm halt ∧ watched.outcome = .error halt

/-- A monitored action keeps machines within the regime, ends as allowed, and
agrees with the action without the monitor. -/
structure Follows
    (E : Halt → Prop)
    (P : α → Prop)
    (watched action : Action α) : Prop where
  upholds : Upholds r.Holds E P watched
  agrees : ∀ machine, r.Holds machine → r.Agrees (watched machine) (action machine)

variable {r}

/-! ## Nodes -/

theorem permits_append {first second : List Node} :
    r.Permits (first ++ second) ↔ r.Permits first ∧ r.Permits second :=
  List.forall_mem_append

theorem permits_cons {n : Node} {rest : List Node} :
    r.Permits (n :: rest) ↔ r.node n ∧ r.Permits rest :=
  List.forall_mem_cons

theorem permitsParts_append {first second : List Expression} :
    r.PermitsParts (first ++ second) ↔
      r.PermitsParts first ∧ r.PermitsParts second :=
  List.forall_mem_append

theorem permitsParts_cons {e : Expression} {rest : List Expression} :
    r.PermitsParts (e :: rest) ↔ r.node (.expression e) ∧ r.PermitsParts rest :=
  List.forall_mem_cons

theorem permits_ofParts {parts : List Expression} :
    r.Permits (Node.ofParts parts) ↔ r.PermitsParts parts :=
  List.forall_mem_map

theorem permits_nodesOfAll {body : List Statement} :
    r.Permits (Statement.nodesOfAll body) ↔ ∀ s ∈ body, r.Permits s.nodes := by
  rw [Statement.nodesOfAll_eq]
  exact List.forall_mem_flatMap

theorem permitsParts_partsOfAll {items : List Expression} :
    r.PermitsParts (Expression.partsOfAll items) ↔
      ∀ e ∈ items, r.PermitsParts e.parts := by
  rw [Expression.partsOfAll_eq]
  exact List.forall_mem_flatMap

theorem permitsParts_partsOfParameters {parameters : List Parameter} :
    r.PermitsParts (Parameter.partsOfAll parameters) ↔
      ∀ parameter ∈ parameters, ∀ e, parameter.default = some e →
        r.PermitsParts e.parts := by
  constructor
  · intro permits parameter member e held part inside
    refine permits part (List.mem_flatMap.mpr ⟨parameter, member, ?_⟩)
    rw [held]
    exact inside
  · intro each part inside
    obtain ⟨parameter, member, inDefault⟩ := List.mem_flatMap.mp inside
    cases held : parameter.default with
    | none =>
        rw [held] at inDefault
        cases inDefault
    | some e =>
        rw [held] at inDefault
        exact each parameter member e held part inDefault

/-- An expression is one of its parts. -/
theorem node_of_parts
    {e : Expression}
    (permits : r.PermitsParts e.parts) :
    r.node (.expression e) := by
  cases e <;> exact permits _ List.mem_cons_self

/-! ## Halts -/

theorem Outside.inside
    {halt : Halt}
    (outside : r.Outside halt) :
    r.Inside halt := by
  cases outside with
  | alarm raised =>
      exact .alarm raised
  | error located isLine =>
      refine .error fun line held => ?_
      obtain rfl := Option.some.inj (located.symm.trans held)
      exact isLine
  | breach admitted =>
      exact .breach admitted
  | exhausted =>
      exact .exhausted

/-- A halt that gets a line of a node may leave it. -/
theorem Inside.withLine
    {halt : Halt}
    {place : Nat}
    (inside : r.Inside halt)
    (isLine : r.line place) :
    r.Outside (halt.withLine place) := by
  cases inside with
  | alarm raised =>
      rw [r.alarm_withLine raised]
      exact .alarm raised
  | @error e lines =>
      show r.Outside (.error (e.withLine place))
      unfold ScriptError.withLine
      cases held : e.line with
      | none =>
          exact .error rfl isLine
      | some line =>
          exact .error rfl (lines line held)
  | breach admitted =>
      exact .breach admitted
  | exhausted =>
      exact .exhausted

theorem Agrees.refl (result : EStateM.Result Halt Machine α) :
    r.Agrees result result :=
  .inl rfl

/-! ## Rules -/

namespace Follows

variable {E F : Halt → Prop} {P : α → Prop} {Q : β → Prop}

/-- An action without a monitor. -/
theorem refl
    {action : Action α}
    (upholds : Upholds r.Holds E P action) :
    r.Follows E P action action :=
  ⟨upholds, fun _ _ => .inl rfl⟩

theorem pure
    {a : α}
    (holds : P a) :
    r.Follows E P (pure a) (pure a) :=
  refl (.pure holds)

theorem throw
    {halt : Halt}
    (allowed : E halt) :
    r.Follows E P (throw halt) (throw halt) :=
  refl (.throw allowed)

theorem get : r.Follows E r.Holds get get :=
  refl .get

theorem bind
    {watched action : Action α}
    {watchedNext next : α → Action β}
    (first : r.Follows E P watched action)
    (second : ∀ a, P a → r.Follows E Q (watchedNext a) (next a)) :
    r.Follows E Q (watched >>= watchedNext) (action >>= next) := by
  refine ⟨first.upholds.bind fun a holds => (second a holds).upholds,
    fun machine held => ?_⟩
  obtain ⟨kept, meets⟩ := first.upholds machine held
  rcases first.agrees machine held with same | ⟨halt, raised, halted⟩
  · cases ran : action machine with
    | ok a between =>
        rw [same, ran] at kept meets
        rw [Change.bind_of_ok ran, Change.bind_of_ok (same.trans ran)]
        exact (second a (meets.of_ok rfl)).agrees between kept
    | error halt between =>
        rw [Change.bind_of_error ran, Change.bind_of_error (same.trans ran)]
        exact .refl _
  · cases ran : watched machine with
    | ok a between =>
        rw [ran] at halted
        cases halted
    | error other between =>
        rw [ran] at halted
        cases halted
        rw [Change.bind_of_error ran]
        exact .inr ⟨_, raised, rfl⟩

theorem map
    {watched action : Action α}
    {f : α → β}
    (follows : r.Follows E P watched action)
    (holds : ∀ a, P a → Q (f a)) :
    r.Follows E Q (f <$> watched) (f <$> action) := by
  rw [← bind_pure_comp, ← bind_pure_comp]
  exact follows.bind fun a has => .pure (holds a has)

/-- More may be allowed of results and of halts. -/
theorem weaken
    {R : α → Prop}
    {watched action : Action α}
    (follows : r.Follows E P watched action)
    (halts : ∀ halt, E halt → F halt)
    (results : ∀ a, P a → R a) :
    r.Follows F R watched action := by
  refine ⟨fun machine held => ?_, follows.agrees⟩
  obtain ⟨kept, meets⟩ := follows.upholds machine held
  exact ⟨kept, fun ran => results _ (meets.of_ok ran),
    fun ran => halts _ (meets.of_error ran)⟩

/-- What may leave a node may happen inside one. -/
theorem inside
    {watched action : Action α}
    (follows : r.Follows r.Outside P watched action) :
    r.Follows r.Inside P watched action :=
  follows.weaken (fun _ outside => outside.inside) fun _ holds => holds

theorem mapM
    {f g : α → Action β}
    (items : List α)
    (each : ∀ a ∈ items, r.Follows E Q (f a) (g a)) :
    r.Follows E (fun bs => ∀ b ∈ bs, Q b) (items.mapM f) (items.mapM g) := by
  induction items with
  | nil =>
      exact .pure nofun
  | cons first rest inductionHypothesis =>
      rw [List.mapM_cons, List.mapM_cons]
      have restFollows :=
        inductionHypothesis fun a member => each a (by simp [member])
      exact (each first (by simp)).bind fun b holds =>
        restFollows.bind fun bs allHold =>
          .pure (List.forall_mem_cons.mpr ⟨holds, allHold⟩)

theorem forM
    {f g : α → Action PUnit}
    (items : List α)
    (each : ∀ a ∈ items, r.Follows E (fun _ => True) (f a) (g a)) :
    r.Follows E (fun _ => True) (items.forM f) (items.forM g) := by
  induction items with
  | nil =>
      exact .pure trivial
  | cons first rest inductionHypothesis =>
      exact (each first (by simp)).bind fun _ _ =>
        inductionHypothesis fun a member => each a (by simp [member])

/-- The error of a node leaves it with a line. -/
theorem atLine
    {watched action : Action α}
    {line : Nat}
    (follows : r.Follows r.Inside P watched action)
    (isLine : r.line line) :
    r.Follows r.Outside P (Action.atLine line watched)
      (Action.atLine line action) := by
  refine ⟨fun machine held => ?_, fun machine held => ?_⟩
  · obtain ⟨kept, meets⟩ := follows.upholds machine held
    unfold Action.atLine
    cases ran : watched machine with
    | ok a after =>
        rw [ran] at kept meets
        exact ⟨kept, .ok (meets.of_ok rfl)⟩
    | error halt after =>
        rw [ran] at kept meets
        exact ⟨kept, .error ((meets.of_error rfl).withLine isLine)⟩
  · unfold Action.atLine
    rcases follows.agrees machine held with same | ⟨halt, raised, halted⟩
    · rw [same]
      exact .refl _
    · cases ran : watched machine with
      | ok a after =>
          rw [ran] at halted
          cases halted
      | error other after =>
          rw [ran] at halted
          cases halted
          exact
            .inr ⟨_, raised, congrArg Except.error (r.alarm_withLine raised line)⟩

theorem between
    {enter leave : Machine → Machine}
    {watched action : Action α}
    (follows : r.Follows E P watched action)
    (entered : ∀ machine, r.Holds machine → r.Holds (enter machine))
    (left : ∀ machine, r.Holds machine → r.Holds (leave machine)) :
    r.Follows E P (Action.between enter leave watched)
      (Action.between enter leave action) := by
  refine ⟨fun machine held => ?_, fun machine held => ?_⟩
  · obtain ⟨kept, meets⟩ := follows.upholds (enter machine) (entered machine held)
    unfold Action.between
    cases ran : watched (enter machine) with
    | ok a after =>
        rw [ran] at kept meets
        exact ⟨left after kept, .ok (meets.of_ok rfl)⟩
    | error halt after =>
        rw [ran] at kept meets
        exact ⟨left after kept, .error (meets.of_error rfl)⟩
  · unfold Action.between
    rcases follows.agrees (enter machine) (entered machine held) with
      same | ⟨halt, raised, halted⟩
    · rw [same]
      exact .refl _
    · cases ran : watched (enter machine) with
      | ok a after =>
          rw [ran] at halted
          cases halted
      | error other after =>
          rw [ran] at halted
          exact .inr ⟨halt, raised, halted⟩

theorem inScope
    {watched action : Action α}
    (follows : r.Follows E P watched action) :
    r.Follows E P (Action.inScope watched) (Action.inScope action) :=
  follows.between (fun _ held => ⟨held.env.push, held.functions⟩)
    fun _ held => ⟨held.env.leaveScope, held.functions⟩

/-! ## Single actions -/

theorem stopAt
    {line : Nat}
    (cause : Cause)
    (isLine : r.line line) :
    r.Follows r.Inside P (Action.stop cause (some line))
      (Action.stop cause (some line)) :=
  .throw (.error fun _ held => Option.some.inj held ▸ isLine)

theorem ofAttempt
    {result : Attempt α}
    {line : Option Nat}
    (contained : Contained r.narrow P result)
    (isLine : ∀ place, line = some place → r.line place) :
    r.Follows r.Inside P (Action.ofAttempt line result)
      (Action.ofAttempt line result) := by
  cases result with
  | ok a =>
      exact .pure (contained.of_ok rfl)
  | error failure =>
      have admitted := contained.of_error rfl
      cases failure with
      | error cause =>
          exact .throw (.error isLine)
      | breach b =>
          exact .throw (.breach (r.breach_of_narrow b admitted))

/-- A result whose error has a line. -/
theorem ofAttemptAt
    {result : Attempt α}
    {line : Nat}
    (contained : Contained r.narrow P result)
    (isLine : r.line line) :
    r.Follows r.Inside P (Action.ofAttempt (some line) result)
      (Action.ofAttempt (some line) result) :=
  ofAttempt contained fun _ held => Option.some.inj held ▸ isLine

/-- A result whose error gets the line of the node that it is for. -/
theorem ofAttemptLater
    {result : Attempt α}
    (contained : Contained r.narrow P result) :
    r.Follows r.Inside P (Action.ofAttempt none result)
      (Action.ofAttempt none result) :=
  ofAttempt contained nofun

theorem changeEnv
    {change : Environment → Environment}
    (keeps :
      ∀ env : Environment, env.Narrow r.narrow → (change env).Narrow r.narrow) :
    r.Follows E (fun _ => True) (Action.changeEnv change)
      (Action.changeEnv change) :=
  refl (.modify fun _ held => ⟨keeps _ held.env, held.functions⟩)

theorem declare
    {v : Value}
    (fits : v.Narrow r.narrow)
    (name : String) :
    r.Follows E (fun _ => True) (Action.changeEnv (·.declare name v))
      (Action.changeEnv (·.declare name v)) :=
  changeEnv fun _ narrow => narrow.declare name fits

theorem assign
    {v : Value}
    (fits : v.Narrow r.narrow)
    (name : String) :
    r.Follows E (fun _ => True) (Action.changeEnv (·.assign name v))
      (Action.changeEnv (·.assign name v)) :=
  changeEnv fun _ narrow => narrow.assign name fits

theorem readVariable
    {line : Nat}
    (isLine : r.line line)
    (name : String) :
    r.Follows r.Inside (Value.Narrow r.narrow) (Action.readVariable name line)
      (Action.readVariable name line) := by
  refine get.bind fun machine held => ?_
  split
  next v found =>
    exact .pure (held.env.find? found)
  next =>
    exact stopAt _ isLine

theorem define
    {definition : Definition}
    (permits : r.Permits definition.nodes) :
    r.Follows E (fun _ => True) (modify (·.define definition))
      (modify (·.define definition)) := by
  refine refl (.modify fun machine held => ⟨held.env, fun entry member => ?_⟩)
  rcases List.mem_cons.mp member with rfl | inKept
  · exact permits
  · exact held.functions entry (List.mem_filter.mp inKept).1

/-- What an alarm halts agrees with anything. -/
theorem raise
    {halt : Halt}
    (raised : r.alarm halt)
    (action : Action α) :
    r.Follows r.Inside P (MonadExcept.throw halt) action :=
  ⟨.throw (.alarm raised), fun _ _ => .inr ⟨halt, raised, rfl⟩⟩

/-- A built-in function leaves the variables alone, and its errors have
the line of its call. -/
theorem callHost
    {P : Value → Prop}
    {builtin : Builtin}
    {values : List Value}
    {line : Nat}
    (contained :
      ∀ site, Change.Contained r.breach P (callBuiltin builtin site values))
    (isLine : r.line line) :
    r.Follows r.Inside P (Action.callHost builtin values line)
      (Action.callHost builtin values line) := by
  refine refl (Upholds.get.bind fun looked _ => ?_)
  intro machine held
  obtain ⟨-, meets⟩ := contained ⟨line, looked.run⟩ machine.host trivial
  unfold Action.onHost
  cases ran : callBuiltin builtin ⟨line, looked.run⟩ values machine.host with
  | ok v after =>
      rw [ran] at meets
      exact ⟨⟨held.env, held.functions⟩, .ok (meets.of_ok rfl)⟩
  | error failure after =>
      rw [ran] at meets
      refine ⟨⟨held.env, held.functions⟩, .error ?_⟩
      have admitted := meets.of_error rfl
      cases failure with
      | error cause =>
          exact .error fun _ located => Option.some.inj located ▸ isLine
      | breach b =>
          exact .breach admitted

end Follows

end Regime

end GridScript.Script
