import GridScript.Proofs.Script.Containment
import GridScript.Proofs.Script.Layout.Reading
import GridScript.Script.Evaluation

namespace GridScript.Script

/-!
# Parsed programs are well formed

What a run relies on without looking: integers are in range, assignments have a
variable at the root of their target, the parameters of a function are told
apart, and every node is on a line of the text, the statements of each block on
ever later ones. So every error of a run blames a line of the program.
-/

open GridScript.Text

/-! ## Targets -/

/-- A target as an expression: the variable, and the indexes into it
one after the other. -/
def Target.expression (target : Target) : Expression :=
  target.indexes.foldl (fun container i => .index container i target.line)
    (.name target.name target.line)

theorem Expression.spine_foldl
    (e : Expression)
    (line : Nat)
    (indexes outer : List Expression) :
    (indexes.foldl (fun container i => Expression.index container i line) e).spine
        outer =
      e.spine (indexes ++ outer) := by
  induction indexes generalizing e with
  | nil =>
      rfl
  | cons i rest inductionHypothesis =>
      rw [List.foldl_cons, inductionHypothesis]
      rfl

/-- A variable stands at the root of a target. -/
theorem Target.spine_expression (target : Target) :
    target.expression.spine [] =
      (.name target.name target.line, target.indexes) := by
  unfold expression
  rw [Expression.spine_foldl, List.append_nil]
  rfl

/-- The place of a target is found by evaluating its indexes, and
nothing else can stop it. -/
def Target.Placed (target : Target) (evaluate : Expression → Action Value) : Prop :=
  Action.evaluatePlace evaluate target.expression =
    (do return (target.name, ← target.indexes.mapM evaluate))

theorem Target.placed
    (target : Target)
    (evaluate : Expression → Action Value) :
    target.Placed evaluate := by
  unfold Placed Action.evaluatePlace
  rw [target.spine_expression]

/-- Write a value at the place of an expression, which is refused if it has no
variable at its root. -/
def Action.assignAt
    (evaluate : Expression → Action Value)
    (place e : Expression)
    (line : Nat) : Action Completion := do
  let (name, path) ← evaluatePlace evaluate place
  let v ← evaluate e
  writePlace name path v line
  return .normal

/-- An assignment writes at the place of its target. -/
theorem Action.executeStep_assign
    (evaluate : Expression → Action Value)
    (execute : Statement → Action Completion)
    (iterations : Nat)
    (target : Target)
    (e : Expression)
    (line : Nat) :
    executeStep evaluate execute iterations (.assign target e line) =
      assignAt evaluate target.expression e line := by
  unfold assignAt
  rw [target.placed evaluate]
  simp only [executeStep, bind_assoc, pure_bind]

/-! ## Programs -/

/-- The blocks right inside a statement. -/
def Statement.bodies : Statement → List (List Statement)
  | .conditional branches otherwise _ => branches.map Prod.snd ++ otherwise.toList
  | .forRange _ _ _ _ body _ => [body]
  | .forEach _ _ body _ => [body]
  | .whileLoop _ body _ => [body]
  | .define _ _ body _ => [body]
  | _ => []

/-- The blocks right inside a node. -/
def Node.bodies : Node → List (List Statement)
  | .expression _ => []
  | .statement s => s.bodies

/-- All blocks of a program, the program itself among them. -/
def Program.blocks (program : Program) : List (List Statement) :=
  program.statements :: program.nodes.flatMap Node.bodies

/-- The lines that a node names besides its own: of a target, and of parameters. -/
def Node.innerLines : Node → List Nat
  | .statement (.assign target _ _) => [target.line]
  | .statement (.define _ parameters _ _) => parameters.map Parameter.line
  | _ => []

/-- A program as the text of so many lines gives it. -/
structure Program.WellFormed (program : Program) (lines : Nat) : Prop where
  integers :
    ∀ {i : Int} {line : Nat},
      .expression (.literal (.int i) line) ∈ program.nodes → 0 ≤ i ∧ i ≤ 2 ^ 63 - 1
  /-- The root of a target is a variable, so an assignment finds its place
  and never refuses it. -/
  targets :
    ∀ {target e line}, .statement (.assign target e line) ∈ program.nodes →
      target.expression.spine [] = (.name target.name target.line, target.indexes) ∧
        ∀ evaluate, target.Placed evaluate ∧
          ∀ execute iterations,
            Action.executeStep evaluate execute iterations (.assign target e line) =
              Action.assignAt evaluate target.expression e line
  distinct :
    ∀ {name parameters body line},
      .statement (.define name parameters body line) ∈ program.nodes →
        (parameters.map fun parameter => lower parameter.name).Nodup
  restLast :
    ∀ {name parameters body line},
      .statement (.define name parameters body line) ∈ program.nodes →
        ∀ parameter ∈ parameters.dropLast, parameter.mode ≠ .rest
  exits :
    ∀ {kind line}, .statement (.exit kind line) ∈ program.nodes →
      kind = .forLoop ∨ kind = .whileLoop ∨ kind = .function
  lines :
    ∀ node ∈ program.nodes, ∀ line ∈ node.line :: node.innerLines, 1 ≤ line ∧
      line ≤ lines
  blocks : ∀ block ∈ program.blocks, (block.map Statement.line).Pairwise (· < ·)

section Nodes

variable {layout : Layout} {n : Node} (wellFormed : n.WellFormed layout)

include wellFormed

/-- All lines that a well-formed node names are lines of the layout. -/
theorem Node.WellFormed.lines :
    ∀ line ∈ n.line :: n.innerLines, layout.line line := by
  cases n with
  | expression e =>
      exact List.forall_mem_singleton.mpr (Expression.WellFormed.line wellFormed)
  | statement s =>
      refine List.forall_mem_cons.mpr ⟨Statement.WellFormed.line wellFormed, ?_⟩
      cases s with
      | assign target v line =>
          exact List.forall_mem_singleton.mpr wellFormed.2
      | define name parameters body line =>
          exact List.forall_mem_map.mpr
            (List.forall_iff_forall_mem.mp wellFormed.2.1)
      | _ =>
          exact nofun

/-- All blocks right inside a well-formed node are blocks of the layout. -/
theorem Node.WellFormed.bodies : ∀ body ∈ n.bodies, layout.block body := by
  cases n with
  | expression e =>
      exact nofun
  | statement s =>
      cases s with
      | conditional branches otherwise line =>
          obtain ⟨-, each, last⟩ := wellFormed
          refine List.forall_mem_append.mpr ⟨?_, List.forall_iff_forall_mem.mp last⟩
          exact List.forall_mem_map.mpr (List.forall_iff_forall_mem.mp each)
      | define name parameters body line =>
          exact List.forall_mem_singleton.mpr wellFormed.2.2.2
      | forRange | forEach | whileLoop =>
          exact List.forall_mem_singleton.mpr wellFormed.2
      | _ =>
          exact nofun

end Nodes

/-- Sound statements in a block are a well-formed program. -/
theorem Program.wellFormed_of_admits
    {program : Program}
    {lines : Nat}
    (admitted :
      (Layout.ofLines fun line => 1 ≤ line ∧ line ≤ lines).Admits
        program.statements) :
    program.WellFormed lines := by
  have each := forall_mem_nodesOfAll.mpr admitted.1
  constructor
  case integers =>
    intro i line member
    exact (each _ member).1
  case targets =>
    intro target e line _
    refine ⟨target.spine_expression, fun evaluate => ⟨target.placed evaluate, ?_⟩⟩
    intro execute iterations
    exact Action.executeStep_assign evaluate execute iterations target e line
  case distinct =>
    intro name parameters body line member
    exact (each _ member).2.2.1.distinct
  case restLast =>
    intro name parameters body line member
    exact (each _ member).2.2.1.restLast
  case exits =>
    intro kind line _
    cases kind <;> simp
  case lines =>
    intro node member
    exact (each node member).lines
  case blocks =>
    refine List.forall_mem_cons.mpr ⟨admitted.2, List.forall_mem_flatMap.mpr ?_⟩
    intro node member
    exact (each node member).bodies

/-- Every program that is read from a text is well formed on the
lines of the text. -/
theorem wellFormed_of_parse
    {text : String}
    {program : Program}
    (parsed : parse text = .ok program) :
    program.WellFormed (lineCount text) :=
  Program.wellFormed_of_admits (admits_of_parse parsed)

/-- A function that exits, and an assignment of the greatest
integer to an element. -/
theorem wellFormed_of_parse_four :
    ∃ program,
      parse "sub f(a, b)\n  exit sub\nend sub\nx[0] = 9223372036854775807" =
        .ok program ∧
      program.statements.length = 2 ∧ program.WellFormed 4 := by
  have read :
      (parse
        "sub f(a, b)\n  exit sub\nend sub\nx[0] = 9223372036854775807").toOption.map
        (fun program => program.statements.length) = some 2 := by
    decide +kernel
  cases parsed :
    parse "sub f(a, b)\n  exit sub\nend sub\nx[0] = 9223372036854775807" with
  | error failure =>
      rw [parsed] at read
      cases read
  | ok program =>
      rw [parsed] at read
      exact ⟨program, rfl, Option.some.inj read, wellFormed_of_parse parsed⟩

/-!
## The lines that errors blame

An error that stops a run has a line, and it is the line of a node of the
program: of the innermost node that the error passes on its way out, unless it
has got a line before. To say that no node further out changes the line, faults
are put in place of how nodes end: a run with faults does what it does without
them, or it stops with one of them just as it was put there.
-/

/-! ## The regime of lines -/

/-- Errors name certain lines only, those of all nodes among them; some
errors are alarms. -/
def Regime.ofLines
    (lines : Nat → Prop)
    (alarm : Halt → Prop)
    (located : ∀ {halt : Halt}, alarm halt → ∀ place, halt.withLine place = halt) :
      Regime where
  node n := lines n.line
  line := lines
  narrow _ := True
  breach _ := True
  alarm := alarm
  line_of_node isLine := isLine
  narrow_of_node _ := Value.narrow_of_admits trivial _
  breach_of_narrow _ _ := trivial
  alarm_withLine := located

section Lines

variable
  {lines : Nat → Prop}
  {alarm : Halt → Prop}
  {located : ∀ {halt : Halt}, alarm halt → ∀ place, halt.withLine place = halt}

end Lines

/-! ## Errors of runs -/

/-- The error of a fault. -/
def Faults.error (fault : Cause × Nat) : ScriptError :=
  ⟨fault.1, some fault.2⟩

end GridScript.Script
