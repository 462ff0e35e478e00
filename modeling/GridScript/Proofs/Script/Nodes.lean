import GridScript.Script.Program

namespace GridScript.Script

/-!
# Nodes of programs

The expressions and the statements of a program, at any depth and also in
functions and in the defaults of their parameters. Every node carries a line, so
these are the lines that a run can blame.
-/

/-!
## Parts of programs

All expressions of a program, at any depth and also in functions and in the
defaults of their parameters. What a run can come to is limited by what
stands among them.
-/

mutual

/-- An expression and the expressions inside it. -/
def Expression.parts : Expression → List Expression
  | .literal l line => [.literal l line]
  | .name n line => [.name n line]
  | .unary operator operand line => .unary operator operand line :: operand.parts
  | .binary operator left right line =>
      .binary operator left right line :: (left.parts ++ right.parts)
  | .call callee arguments line =>
      .call callee arguments line :: Expression.partsOfAll arguments
  | .index target place line =>
      .index target place line :: (target.parts ++ place.parts)
  | .array items line => .array items line :: Expression.partsOfAll items

/-- The parts of some expressions. -/
def Expression.partsOfAll : List Expression → List Expression
  | [] => []
  | e :: rest => e.parts ++ Expression.partsOfAll rest

end

theorem Expression.partsOfAll_eq (items : List Expression) :
    Expression.partsOfAll items = items.flatMap Expression.parts := by
  induction items with
  | nil =>
      rfl
  | cons e rest inductionHypothesis =>
      rw [Expression.partsOfAll, inductionHypothesis, List.flatMap_cons]

/-- The parts of an expression that may be missing. -/
def Expression.partsOfOption : Option Expression → List Expression
  | none => []
  | some e => e.parts

/-- The parts of the defaults of some parameters. -/
def Parameter.partsOfAll (parameters : List Parameter) : List Expression :=
  parameters.flatMap fun parameter => Expression.partsOfOption parameter.default

mutual

/-- The expressions inside a statement. -/
def Statement.parts : Statement → List Expression
  | .dim _ value _ => Expression.partsOfOption value
  | .assign target value _ => Expression.partsOfAll target.indexes ++ value.parts
  | .conditional branches otherwise _ =>
      Statement.partsOfBranches branches ++ Statement.partsOfOption otherwise
  | .forRange _ start finish step body _ =>
      start.parts ++ finish.parts ++ Expression.partsOfOption step ++
        Statement.partsOfAll body
  | .forEach _ collection body _ => collection.parts ++ Statement.partsOfAll body
  | .whileLoop condition body _ => condition.parts ++ Statement.partsOfAll body
  | .define _ parameters body _ =>
      Parameter.partsOfAll parameters ++ Statement.partsOfAll body
  | .giveBack value _ => Expression.partsOfOption value
  | .exit _ _ => []
  | .evaluate call _ => call.parts

/-- The expressions inside some statements. -/
def Statement.partsOfAll : List Statement → List Expression
  | [] => []
  | statement :: rest => statement.parts ++ Statement.partsOfAll rest

/-- The expressions inside the branches of a conditional. -/
def Statement.partsOfBranches : List (Expression × List Statement) → List Expression
  | [] => []
  | (condition, body) :: rest =>
      condition.parts ++ Statement.partsOfAll body ++ Statement.partsOfBranches rest

/-- The expressions inside statements that may be missing. -/
def Statement.partsOfOption : Option (List Statement) → List Expression
  | none => []
  | some body => Statement.partsOfAll body

end

/-- The expressions inside a function. -/
def Definition.parts (definition : Definition) : List Expression :=
  Parameter.partsOfAll definition.parameters ++ Statement.partsOfAll definition.body

/-- All expressions of a program. -/
def Program.parts (program : Program) : List Expression :=
  Statement.partsOfAll program.statements

/-- The name of the function that an expression calls. -/
def Expression.callee? : Expression → Option String
  | .call callee _ _ => some callee
  | _ => none

/-- The names of all functions that a program calls. -/
def Program.calls (program : Program) : List String :=
  program.parts.filterMap Expression.callee?

/-- An expression or a statement of a program. -/
inductive Node where
  | expression (e : Expression)
  | statement (s : Statement)

namespace Node

/-- The line of a node. -/
def line : Node → Nat
  | expression e => e.line
  | statement s => s.line

/-- The expression that a node is. -/
def expression? : Node → Option Expression
  | expression e => some e
  | statement _ => none

/-- Expressions are nodes. -/
def ofParts (parts : List Expression) : List Node :=
  parts.map expression

theorem filterMap_ofParts (parts : List Expression) :
    (ofParts parts).filterMap expression? = parts := by
  induction parts with
  | nil =>
      rfl
  | cons part rest inductionHypothesis =>
      show part :: (ofParts rest).filterMap expression? = part :: rest
      rw [inductionHypothesis]

end Node

open Node

mutual

/-- A statement with the nodes inside it. -/
def Statement.nodes : Statement → List Node
  | .dim name value line =>
      .statement (.dim name value line) :: ofParts (Expression.partsOfOption value)
  | .assign target value line =>
      .statement (.assign target value line) ::
        ofParts (Expression.partsOfAll target.indexes ++ value.parts)
  | .conditional branches otherwise line =>
      .statement (.conditional branches otherwise line) ::
        (Statement.nodesOfBranches branches ++ Statement.nodesOfOption otherwise)
  | .forRange name start finish step body line =>
      .statement (.forRange name start finish step body line) ::
        (ofParts (start.parts ++ finish.parts ++ Expression.partsOfOption step) ++
          Statement.nodesOfAll body)
  | .forEach name collection body line =>
      .statement (.forEach name collection body line) ::
        (ofParts collection.parts ++ Statement.nodesOfAll body)
  | .whileLoop condition body line =>
      .statement (.whileLoop condition body line) ::
        (ofParts condition.parts ++ Statement.nodesOfAll body)
  | .define name parameters body line =>
      .statement (.define name parameters body line) ::
        (ofParts (Parameter.partsOfAll parameters) ++ Statement.nodesOfAll body)
  | .giveBack value line =>
      .statement (.giveBack value line) :: ofParts (Expression.partsOfOption value)
  | .exit kind line => [.statement (.exit kind line)]
  | .evaluate call line => .statement (.evaluate call line) :: ofParts call.parts

/-- The nodes of some statements. -/
def Statement.nodesOfAll : List Statement → List Node
  | [] => []
  | s :: rest => s.nodes ++ Statement.nodesOfAll rest

/-- The nodes of the branches of a conditional. -/
def Statement.nodesOfBranches : List (Expression × List Statement) → List Node
  | [] => []
  | (condition, body) :: rest =>
      ofParts condition.parts ++ Statement.nodesOfAll body ++
        Statement.nodesOfBranches rest

/-- The nodes of statements that may be missing. -/
def Statement.nodesOfOption : Option (List Statement) → List Node
  | none => []
  | some body => Statement.nodesOfAll body

end

theorem Statement.nodesOfAll_eq (body : List Statement) :
    Statement.nodesOfAll body = body.flatMap Statement.nodes := by
  induction body with
  | nil =>
      rfl
  | cons s rest inductionHypothesis =>
      rw [Statement.nodesOfAll, inductionHypothesis, List.flatMap_cons]

/-- A statement is one of its nodes. -/
theorem Statement.mem_nodes (s : Statement) : .statement s ∈ s.nodes := by
  cases s <;> exact List.mem_cons_self

/-- The nodes inside a function. -/
def Definition.nodes (definition : Definition) : List Node :=
  ofParts (Parameter.partsOfAll definition.parameters) ++
    Statement.nodesOfAll definition.body

/-- All nodes of a program. -/
def Program.nodes (program : Program) : List Node :=
  Statement.nodesOfAll program.statements

/-- The lines of the nodes of a program. -/
def Program.lines (program : Program) : List Nat :=
  program.nodes.map Node.line

/-! ## The expressions among the nodes -/

mutual

/-- The expressions among the nodes of a statement are its parts. -/
theorem Statement.filterMap_nodes (s : Statement) :
    s.nodes.filterMap expression? = s.parts := by
  cases s with
  | conditional branches otherwise line =>
      rw [nodes, List.filterMap_cons, List.filterMap_append,
        Statement.filterMap_nodesOfBranches branches,
        Statement.filterMap_nodesOfOption otherwise]
      rfl
  | forRange name start finish step body line =>
      rw [nodes, List.filterMap_cons, List.filterMap_append, filterMap_ofParts,
        Statement.filterMap_nodesOfAll body]
      rfl
  | forEach name collection body line =>
      rw [nodes, List.filterMap_cons, List.filterMap_append, filterMap_ofParts,
        Statement.filterMap_nodesOfAll body]
      rfl
  | whileLoop condition body line =>
      rw [nodes, List.filterMap_cons, List.filterMap_append, filterMap_ofParts,
        Statement.filterMap_nodesOfAll body]
      rfl
  | define name parameters body line =>
      rw [nodes, List.filterMap_cons, List.filterMap_append, filterMap_ofParts,
        Statement.filterMap_nodesOfAll body]
      rfl
  | exit kind line =>
      rfl
  | _ =>
      rw [nodes, List.filterMap_cons, filterMap_ofParts]
      rfl

theorem Statement.filterMap_nodesOfAll (body : List Statement) :
    (Statement.nodesOfAll body).filterMap expression? =
      Statement.partsOfAll body := by
  match body with
  | [] =>
      rfl
  | s :: rest =>
      rw [Statement.nodesOfAll, List.filterMap_append, Statement.filterMap_nodes s,
        Statement.filterMap_nodesOfAll rest]
      rfl

theorem Statement.filterMap_nodesOfBranches
    (branches : List (Expression × List Statement)) :
    (Statement.nodesOfBranches branches).filterMap expression? =
      Statement.partsOfBranches branches := by
  match branches with
  | [] =>
      rfl
  | (condition, body) :: rest =>
      rw [Statement.nodesOfBranches, List.filterMap_append, List.filterMap_append,
        filterMap_ofParts, Statement.filterMap_nodesOfAll body,
        Statement.filterMap_nodesOfBranches rest]
      rfl

theorem Statement.filterMap_nodesOfOption (body : Option (List Statement)) :
    (Statement.nodesOfOption body).filterMap expression? =
      Statement.partsOfOption body := by
  match body with
  | none =>
      rfl
  | some body =>
      exact Statement.filterMap_nodesOfAll body

end

/-- The expressions among the nodes of a program are its parts. -/
theorem Program.mem_parts_iff
    {program : Program}
    {e : Expression} :
    e ∈ program.parts ↔ .expression e ∈ program.nodes := by
  unfold Program.parts
  rw [← Statement.filterMap_nodesOfAll, List.mem_filterMap]
  constructor
  · rintro ⟨n, member, isExpression⟩
    cases n with
    | expression found =>
        cases isExpression
        exact member
    | statement _ =>
        cases isExpression
  · intro member
    exact ⟨_, member, rfl⟩

end GridScript.Script
