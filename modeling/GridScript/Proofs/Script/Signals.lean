import GridScript.Proofs.Script.Depth

namespace GridScript.Script

/-!
# Signals

A statement that does not halt may give a value back or leave a loop, and what
is around it reacts to that: loops end for an exit of their own kind, calls end
for a value, and an exit that meets the end of a body or of the program is an
error at its own line. So values are given back inside functions only, and the
exit that a statement ends with is one of its own exit statements, outside the
loops of that kind.
-/

open Machine

/-- There is an exit statement of a kind at a line in a statement, and no loop
of that kind in the statement is around it. -/
inductive Statement.Exits (kind : ExitKind) (line : Nat) : Statement → Prop where
  | exit
      (leavesLoop : kind ≠ .function) :
      Exits kind line (.exit kind line)
  | branch
      {branches : List (Expression × List Statement)}
      {otherwise : Option (List Statement)}
      {statementLine : Nat}
      {branch : Expression × List Statement}
      {part : Statement}
      (isBranch : branch ∈ branches)
      (isPart : part ∈ branch.2)
      (exits : part.Exits kind line) :
      Exits kind line (.conditional branches otherwise statementLine)
  | otherwise
      {branches : List (Expression × List Statement)}
      {statementLine : Nat}
      {body : List Statement}
      {part : Statement}
      (isPart : part ∈ body)
      (exits : part.Exits kind line) :
      Exits kind line (.conditional branches (some body) statementLine)
  | forRange
      {name : String}
      {first last : Expression}
      {step : Option Expression}
      {statementLine : Nat}
      {body : List Statement}
      {part : Statement}
      (otherKind : kind ≠ .forLoop)
      (isPart : part ∈ body)
      (exits : part.Exits kind line) :
      Exits kind line (.forRange name first last step body statementLine)
  | forEach
      {name : String}
      {collection : Expression}
      {statementLine : Nat}
      {body : List Statement}
      {part : Statement}
      (otherKind : kind ≠ .forLoop)
      (isPart : part ∈ body)
      (exits : part.Exits kind line) :
      Exits kind line (.forEach name collection body statementLine)
  | whileLoop
      {condition : Expression}
      {statementLine : Nat}
      {body : List Statement}
      {part : Statement}
      (otherKind : kind ≠ .whileLoop)
      (isPart : part ∈ body)
      (exits : part.Exits kind line) :
      Exits kind line (.whileLoop condition body statementLine)

/-- One of some statements has an exit statement that it does not keep to itself. -/
def Exits (statements : List Statement) (kind : ExitKind) (line : Nat) : Prop :=
  ∃ statement ∈ statements, statement.Exits kind line

/-- At a depth of calls a statement with such exits may end in this way. -/
def Completion.Permitted
    (exits : ExitKind → Nat → Prop)
    (depth : Nat) : Completion → Prop
  | normal => True
  | giveBack _ => depth ≠ 0
  | exit kind line => exits kind line

/-- An action ends as statements with such exits do, at the depth of calls that
it starts from and keeps. -/
structure Signals
    (exits : ExitKind → Nat → Prop)
    (action : Action Completion) : Prop where
  keeps : Keeps SameGuards action
  ends :
    ∀ {machine completion after},
      action machine = .ok completion after →
        completion.Permitted exits machine.depth

namespace Signals

variable {exits : ExitKind → Nat → Prop}

theorem mono
    {more : ExitKind → Nat → Prop}
    {action : Action Completion}
    (signals : Signals exits action)
    (included : ∀ kind line, exits kind line → more kind line) :
    Signals more action := by
  refine ⟨signals.keeps, fun {machine completion after} ran => ?_⟩
  have permitted := signals.ends ran
  cases completion with
  | exit kind line =>
      exact included kind line permitted
  | _ =>
      exact permitted

theorem throw (halt : Halt) : Signals exits (throw halt) :=
  ⟨.throw halt, nofun⟩

theorem normal : Signals exits (pure .normal) := by
  refine ⟨.pure _, fun ran => ?_⟩
  cases ran
  trivial

/-- What comes before keeps the depth. -/
theorem bind
    {first : Action α}
    {next : α → Action Completion}
    (keeps : Keeps SameGuards first)
    (nextSignals : ∀ a, Signals exits (next a)) :
    Signals exits (first >>= next) := by
  refine ⟨keeps.bind fun a => (nextSignals a).keeps,
    fun {machine completion after} ran => ?_⟩
  obtain ⟨a, between, ranFirst, ranNext⟩ := Change.bind_eq_ok ran
  rw [← (keeps.of_ok ranFirst).depth]
  exact (nextSignals a).ends ranNext

/-- What goes on after a normal end and hands every other end on. -/
theorem sequence
    {first : Action Completion}
    {next : Completion → Action Completion}
    (firstSignals : Signals exits first)
    (goesOn : Signals exits (next .normal))
    (handsOn :
      ∀ completion, completion ≠ .normal → next completion = pure completion) :
    Signals exits (first >>= next) := by
  have nextKeeps (completion : Completion) :
      Keeps SameGuards (next completion) := by
    by_cases isNormal : completion = .normal
    · rw [isNormal]
      exact goesOn.keeps
    · rw [handsOn completion isNormal]
      exact .pure completion
  refine ⟨firstSignals.keeps.bind nextKeeps,
    fun {machine completion after} ran => ?_⟩
  obtain ⟨ended, between, ranFirst, ranNext⟩ := Change.bind_eq_ok ran
  by_cases isNormal : ended = .normal
  · rw [isNormal] at ranNext
    rw [← (firstSignals.keeps.of_ok ranFirst).depth]
    exact goesOn.ends ranNext
  · rw [handsOn ended isNormal] at ranNext
    cases ranNext
    exact firstSignals.ends ranFirst

theorem inScope
    {action : Action Completion}
    (signals : Signals exits action) :
    Signals exits (Action.inScope action) := by
  refine ⟨Action.between_keeps signals.keeps fun _ _ same => same.of_mapEnv,
    fun {machine completion after} ran => ?_⟩
  unfold Action.inScope Action.between at ran
  cases inside : action (machine.mapEnv Environment.push) with
  | ok ended between =>
      have permitted := signals.ends inside
      rw [inside] at ran
      cases ran
      exact permitted
  | error halt between =>
      rw [inside] at ran
      cases ran

theorem atLine
    {action : Action Completion}
    (signals : Signals exits action)
    (line : Nat) :
    Signals exits (Action.atLine line action) := by
  refine ⟨Action.atLine_keeps line signals.keeps,
    fun {machine completion after} ran => ?_⟩
  unfold Action.atLine at ran
  cases inside : action machine with
  | ok ended between =>
      rw [inside] at ran
      cases ran
      exact signals.ends inside
  | error halt between =>
      rw [inside] at ran
      cases ran

/-- What only the body of a function may do gives a value back there. -/
theorem insideFunction
    {action : Action Completion}
    (keeps : Keeps SameGuards action)
    (gives :
      ∀ {machine completion after}, action machine = .ok completion after →
        ∃ v, completion = .giveBack v)
    (fault : RuntimeFault)
    (line : Nat) :
    Signals exits (Action.insideFunction fault line action) := by
  constructor
  · have kept :
        Action.Keeping SameGuards Completion
          (Action.insideFunction fault line action)
          (Action.insideFunction fault line action) :=
      (Action.compositional_keeping SameGuards).insideFunction fault line keeps
    exact kept
  · intro machine completion after ran
    unfold Action.insideFunction at ran
    rw [Change.get_bind] at ran
    split at ran
    next =>
      cases ran
    next inside =>
      obtain ⟨v, rfl⟩ := gives ran
      exact inside

/-- A block ends as its statements do. -/
theorem runAll
    {run : Statement → Action Completion}
    {statements : List Statement}
    (runs :
      ∀ statement ∈ statements, Signals (statement.Exits · ·) (run statement)) :
    Signals (Exits statements) (runAll run statements) := by
  induction statements with
  | nil =>
      exact .normal
  | cons statement rest inductionHypothesis =>
      have first := (runs statement (by simp)).mono fun kind line exits =>
        (⟨statement, by simp, exits⟩ : Exits (statement :: rest) kind line)
      have later :=
        inductionHypothesis fun part member => runs part (by simp [member])
      refine sequence first (later.mono ?_) ?_
      · intro kind line ⟨part, member, exits⟩
        exact ⟨part, by simp [member], exits⟩
      · intro completion notNormal
        cases completion with
        | normal =>
            exact (notNormal rfl).elim
        | _ =>
            rfl

/-- A conditional ends as its bodies do. -/
theorem runBranches
    {evaluate : Expression → Action Value}
    {execute : Statement → Action Completion}
    {branches : List (Expression × List Statement)}
    {otherwise : Option (List Statement)}
    (evaluates : ∀ e, Keeps SameGuards (evaluate e))
    (runs :
      ∀ body, body ∈ branches.map Prod.snd ∨ otherwise = some body →
        Signals exits (Script.runAll execute body)) :
    Signals exits (Action.runBranches evaluate execute branches otherwise) := by
  induction branches with
  | nil =>
      cases otherwise with
      | none =>
          exact .normal
      | some body =>
          exact (runs body (.inr rfl)).inScope
  | cons branch rest inductionHypothesis =>
      have tested :
          Action.Keeping SameGuards Bool (Action.truth evaluate branch.1)
            (Action.truth evaluate branch.1) :=
        (Action.compositional_keeping SameGuards).map (evaluates branch.1)
          Value.isTruthy
      refine bind tested fun holds => ?_
      split
      · exact (runs branch.2 (by simp)).inScope
      · refine inductionHypothesis fun body isBody => runs body ?_
        exact isBody.imp (fun inRest => by simp [inRest]) id

end Signals

/-- The exits that a loop of a kind does not end for. -/
def Passing
    (kind : ExitKind)
    (exits : ExitKind → Nat → Prop)
    (left : ExitKind)
    (line : Nat) : Prop :=
  left ≠ kind ∧ exits left line

/-- A loop ends normally for an exit of its kind, and hands on what
else ends its body. -/
theorem Completion.Permitted.ofLoop?
    {exits : ExitKind → Nat → Prop}
    {kind : ExitKind}
    {depth : Nat}
    {completion ended : Completion}
    (permitted : completion.Permitted exits depth)
    (ends : completion.ofLoop? kind = some ended) :
    ended.Permitted (Passing kind exits) depth := by
  cases completion with
  | normal =>
      cases ends
  | giveBack v =>
      cases ends
      exact permitted
  | exit left line =>
      by_cases own : left = kind
      · simp only [Completion.ofLoop?, if_pos own] at ends
        cases ends
        trivial
      · simp only [Completion.ofLoop?, if_neg own] at ends
        cases ends
        exact ⟨own, permitted⟩

namespace Signals

variable {exits : ExitKind → Nat → Prop}

section Loops

variable {body : Action Completion} (bodySignals : Signals exits body)

include bodySignals

theorem keeps_iterate (kind : ExitKind) (number line : Nat) (bindings : Scope) :
    Keeps SameGuards (Action.iterate kind number line bindings body) := by
  have kept :
      Action.Keeping SameGuards (Option Completion)
        (Action.iterate kind number line bindings body)
        (Action.iterate kind number line bindings body) :=
    disciplined_sameGuards.iterate bodySignals.keeps kind number line bindings
  exact kept

theorem ends_iterate
    {kind : ExitKind}
    {number line : Nat}
    {bindings : Scope}
    {machine after : Machine}
    {completion : Completion}
    (ran :
      Action.iterate kind number line bindings body machine =
        .ok (some completion) after) :
    completion.Permitted (Passing kind exits) machine.depth := by
  have compositional := Action.compositional_keeping SameGuards
  have counts : Keeps SameGuards (Action.countIteration number line) :=
    compositional.countIteration number line
  have declares (entry : String × Value) :
      Keeps SameGuards (Action.changeEnv (·.declare entry.1 entry.2)) :=
    Action.changeEnv_keeps fun _ => ⟨rfl, rfl⟩
  obtain ⟨_, counted, counting, ran⟩ := Change.bind_eq_ok ran
  obtain ⟨_, declared, declaring, ran⟩ := Change.bind_eq_ok ran
  obtain ⟨ended, _, ranBody, ran⟩ := Change.bind_eq_ok ran
  have sameDepth : declared.depth = machine.depth :=
    ((Keeps.forM bindings fun entry _ => declares entry).of_ok
      declaring).depth.trans
      (counts.of_ok counting).depth
  have permitted := bodySignals.ends ranBody
  rw [sameDepth] at permitted
  injection ran with sameEnd _
  exact permitted.ofLoop? sameEnd

/-- After an iteration a loop goes on, or hands on the end of the iteration. -/
theorem loop
    {next : Option Completion → Action Completion}
    {kind : ExitKind}
    (number line : Nat)
    (bindings : Scope)
    (goesOn : Signals (Passing kind exits) (next none))
    (handsOn : ∀ completion, next (some completion) = pure completion) :
    Signals (Passing kind exits)
      (Action.iterate kind number line bindings body >>= next) := by
  have keeps := keeps_iterate bodySignals kind number line bindings
  have nextKeeps (ended : Option Completion) : Keeps SameGuards (next ended) := by
    cases ended with
    | none =>
        exact goesOn.keeps
    | some completion =>
        rw [handsOn]
        exact .pure completion
  refine ⟨keeps.bind nextKeeps, fun {machine completion after} ran => ?_⟩
  obtain ⟨ended, between, iterated, ran⟩ := Change.bind_eq_ok ran
  cases ended with
  | none =>
      rw [← (keeps.of_ok iterated).depth]
      exact goesOn.ends ran
  | some completion =>
      rw [handsOn] at ran
      cases ran
      exact ends_iterate bodySignals iterated

theorem runEach (name : String) (line number : Nat) (items : List Value) :
    Signals (Passing .forLoop exits)
      (Action.runEach name line body number items) := by
  induction items generalizing number with
  | nil =>
      exact .normal
  | cons v rest inductionHypothesis =>
      exact loop bodySignals number line [(name, v)] (inductionHypothesis _)
        fun _ => rfl

theorem runRange (name : String) (line : Nat) (p : Progression) (fuel count : Nat) :
    Signals (Passing .forLoop exits)
      (Action.runRange name line p body fuel count) := by
  induction fuel generalizing count with
  | zero =>
      exact .throw _
  | succ fuel inductionHypothesis =>
      have next :
          Keeps SameGuards (Action.ofOperation none (liftBreach (p.value count))) :=
        (Action.compositional_keeping SameGuards).ofAttempt _ _
      refine bind next fun v => ?_
      split
      · exact .normal
      · exact loop bodySignals _ line _ (inductionHypothesis _) fun _ => rfl

theorem runWhile
    {condition : Action Value}
    (tests : Keeps SameGuards condition)
    (line fuel count : Nat) :
    Signals (Passing .whileLoop exits)
      (Action.runWhile line condition body fuel count) := by
  induction fuel generalizing count with
  | zero =>
      exact .throw _
  | succ fuel inductionHypothesis =>
      refine bind tests fun v => ?_
      split
      · exact loop bodySignals _ line _ (inductionHypothesis _) fun _ => rfl
      · exact .normal

end Loops

/-- A statement ends as its parts do, apart from the exits of its own loop. -/
theorem executeStep
    {evaluate : Expression → Action Value}
    {execute : Statement → Action Completion}
    (evaluates : ∀ e, Keeps SameGuards (evaluate e))
    (executes : ∀ statement, Signals (statement.Exits · ·) (execute statement))
    (iterations : Nat)
    (statement : Statement) :
    Signals (statement.Exits · ·)
      (Action.executeStep evaluate execute iterations statement) := by
  have compositional := Action.compositional_keeping SameGuards
  have runs (body : List Statement) :
      Signals (Exits body) (Script.runAll execute body) :=
    runAll fun part _ => executes part
  have evaluatesOr (otherwise : Value) (e : Option Expression) :
      Action.Keeping SameGuards Value (Action.evaluateOr otherwise evaluate e)
        (Action.evaluateOr otherwise evaluate e) :=
    compositional.evaluateOr otherwise fun part _ => evaluates part
  have changes (change : Environment → Environment) :
      Keeps SameGuards (Action.changeEnv change) :=
    Action.changeEnv_keeps fun _ => ⟨rfl, rfl⟩
  cases statement with
  | dim name value line =>
      exact bind (evaluatesOr .null value) fun v =>
        bind (changes _) fun _ => .normal
  | assign target value line =>
      have writes (path : List Value) (v : Value) :
          Keeps SameGuards (Action.writePlace target.name path v line) :=
        compositional.writePlace target.name (fun _ => changes _) path v line
      exact bind (Keeps.mapM target.indexes fun e _ => evaluates e) fun path =>
        bind (evaluates value) fun v => bind (writes path v) fun _ => .normal
  | conditional branches otherwise line =>
      refine runBranches evaluates fun body isBody => (runs body).mono ?_
      rintro kind exitLine ⟨part, member, exits⟩
      rcases isBody with inBranches | rfl
      · obtain ⟨branch, isBranch, rfl⟩ := List.mem_map.mp inBranches
        exact .branch isBranch member exits
      · exact .otherwise member exits
  | forRange name start finish step body line =>
      have bounds (first last size : Value) :
          Keeps SameGuards
            (Action.ofAttempt none (Progression.ofBounds first last size)) :=
        compositional.ofAttempt _ _
      refine bind (evaluates start) fun first => bind (evaluates finish) fun last =>
        bind (evaluatesOr _ step) fun size =>
          bind (bounds first last size) fun p => ?_
      refine ((runRange (runs body) name line p iterations 0).mono ?_).inScope
      rintro kind exitLine ⟨other, part, member, exits⟩
      exact .forRange other member exits
  | forEach name collection body line =>
      have reads (machine : Machine) (held : Value) :
          Keeps SameGuards
            (Action.ofAttempt none (elements machine.host.book held)) :=
        compositional.ofAttempt _ _
      refine bind (evaluates collection) fun held => bind .get fun machine =>
        bind (reads machine held) fun items => ?_
      refine ((runEach (runs body) name line 1 items).mono ?_).inScope
      rintro kind exitLine ⟨other, part, member, exits⟩
      exact .forEach other member exits
  | whileLoop condition body line =>
      refine ((runWhile (runs body) (evaluates condition) line iterations 0).mono
        ?_).inScope
      rintro kind exitLine ⟨other, part, member, exits⟩
      exact .whileLoop other member exits
  | define name parameters body line =>
      exact bind (.modify fun _ => ⟨rfl, rfl⟩) fun _ => .normal
  | giveBack value line =>
      refine insideFunction ((evaluatesOr .null value).bind fun v => .pure _)
        (fun ran => ?_) _ _
      obtain ⟨v, _, _, ran⟩ := Change.bind_eq_ok ran
      cases ran
      exact ⟨v, rfl⟩
  | exit kind line =>
      cases kind with
      | function =>
          refine insideFunction (.pure _) (fun ran => ?_) _ _
          cases ran
          exact ⟨.null, rfl⟩
      | forLoop =>
          refine ⟨.pure _, fun ran => ?_⟩
          cases ran
          exact .exit nofun
      | whileLoop =>
          refine ⟨.pure _, fun ran => ?_⟩
          cases ran
          exact .exit nofun
  | evaluate call line =>
      exact bind (evaluates call) fun _ => .normal

end Signals

/-- A statement gives values back inside functions only and ends
with its own exits. -/
theorem signals_execute (fuel : Nat) (statement : Statement) :
    Signals (statement.Exits · ·) (execute fuel statement) := by
  induction fuel generalizing statement with
  | zero =>
      exact .throw _
  | succ fuel inductionHypothesis =>
      have evaluates (e : Expression) : Keeps SameGuards (evaluate fuel e) :=
        ((runs_keep steady_sameGuards fuel).1 e).mono fun _ _ stays => stays.2
      exact (Signals.executeStep evaluates inductionHypothesis _ statement).atLine _

/-- A block of statements gives values back inside functions only and ends
with its own exits. -/
theorem signals_runAll (fuel : Nat) (statements : List Statement) :
    Signals (Exits statements) (runAll (execute fuel) statements) :=
  Signals.runAll fun statement _ => signals_execute fuel statement

end GridScript.Script
