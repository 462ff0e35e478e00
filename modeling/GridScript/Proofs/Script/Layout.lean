import GridScript.Proofs.Containment
import GridScript.Proofs.Script.Containment.Token
import GridScript.Proofs.Script.Nodes
import GridScript.Script.Parser
import Mathlib.Data.List.Basic

namespace GridScript.Script

/-!
# Layout of programs

What reading makes of every node: the integers of literals are in range, the
parameters of functions are told apart, and the lines of nodes and the
statements of blocks are as the text has them. All of this is handed on from the
parts of each phrase to the phrase, whatever rule builds it.
-/

open GridScript.Number
open GridScript.Parsing
open GridScript.Text

/-- What is asked of the lines of nodes and of the statements of a block. -/
structure Layout where
  line : Nat → Prop
  block : List Statement → Prop
  block_single : ∀ s, block [s]
  block_of_append : ∀ {front back}, block (front ++ back) → block back

theorem Layout.block_nil (layout : Layout) : layout.block [] :=
  have single : layout.block ([default] ++ []) := layout.block_single default
  layout.block_of_append single

/-! ## Nodes -/

/-- An integer literal is neither negative nor beyond 64 bits. -/
def Literal.InRange : Literal → Prop
  | .int i => 0 ≤ i ∧ i ≤ maxInt
  | _ => True

/-- Parameter names differ in more than letter case, and only the last parameter
can take all remaining arguments. -/
structure Parameter.Proper (parameters : List Parameter) : Prop where
  distinct : (parameters.map fun parameter => lower parameter.name).Nodup
  restLast : ∀ parameter ∈ parameters.dropLast, parameter.mode ≠ .rest

/-- An expression is well formed, whatever stands inside it. -/
def Expression.WellFormed (layout : Layout) : Expression → Prop
  | .literal l line => Literal.InRange l ∧ layout.line line
  | e => layout.line e.line

/-- A statement is well formed, whatever stands inside it. -/
def Statement.WellFormed (layout : Layout) : Statement → Prop
  | .assign target _ line => layout.line line ∧ layout.line target.line
  | .conditional branches otherwise line =>
      layout.line line ∧ branches.Forall (fun branch => layout.block branch.2) ∧
        otherwise.toList.Forall layout.block
  | .forRange _ _ _ _ body line => layout.line line ∧ layout.block body
  | .forEach _ _ body line => layout.line line ∧ layout.block body
  | .whileLoop _ body line => layout.line line ∧ layout.block body
  | .define _ parameters body line =>
      layout.line line ∧
        parameters.Forall (fun parameter => layout.line parameter.line) ∧
        Parameter.Proper parameters ∧ layout.block body
  | s => layout.line s.line

/-- A node is well formed, whatever stands inside it. -/
def Node.WellFormed (layout : Layout) : Node → Prop
  | .expression e => e.WellFormed layout
  | .statement s => s.WellFormed layout

/-- Every part of an expression is well formed. -/
def Expression.Sound (layout : Layout) (e : Expression) : Prop :=
  ∀ part ∈ e.parts, part.WellFormed layout

/-- Every node of a statement is well formed. -/
def Statement.Sound (layout : Layout) (s : Statement) : Prop :=
  ∀ node ∈ s.nodes, node.WellFormed layout

/-- Every node of some statements is well formed, and they make a block. -/
def Layout.Admits (layout : Layout) (body : List Statement) : Prop :=
  body.Forall (Statement.Sound layout) ∧ layout.block body

/-- A branch is a sound condition with a block. -/
def Branch.Sound (layout : Layout) (branch : Branch) : Prop :=
  branch.1.Sound layout ∧ layout.Admits branch.2

/-- A parameter is on a line, with a sound default. -/
def Parameter.Sound (layout : Layout) (parameter : Parameter) : Prop :=
  layout.line parameter.line ∧ ∀ e ∈ parameter.default, e.Sound layout

variable {layout : Layout}

theorem Expression.WellFormed.line
    {e : Expression}
    (wellFormed : e.WellFormed layout) :
    layout.line e.line := by
  cases e with
  | literal l line =>
      exact wellFormed.2
  | _ =>
      exact wellFormed

theorem Statement.WellFormed.line
    {s : Statement}
    (wellFormed : s.WellFormed layout) :
    layout.line s.line := by
  cases s with
  | dim | giveBack | exit | evaluate =>
      exact wellFormed
  | _ =>
      exact wellFormed.1

/-- An expression is one of its parts. -/
theorem Expression.mem_parts (e : Expression) : e ∈ e.parts := by
  cases e <;> exact List.mem_cons_self

theorem Expression.Sound.line
    {e : Expression}
    (sound : e.Sound layout) :
    layout.line e.line :=
  (sound e e.mem_parts).line

theorem Statement.Sound.line
    {s : Statement}
    (sound : s.Sound layout) :
    layout.line s.line :=
  (sound _ s.mem_nodes).line

theorem forall_mem_partsOfAll {items : List Expression} :
    (∀ part ∈ Expression.partsOfAll items, part.WellFormed layout) ↔
      items.Forall (Expression.Sound layout) := by
  rw [Expression.partsOfAll_eq, List.forall_mem_flatMap, List.forall_iff_forall_mem]
  rfl

theorem forall_mem_partsOfOption {e : Option Expression} :
    (∀ part ∈ Expression.partsOfOption e, part.WellFormed layout) ↔
      ∀ held ∈ e, held.Sound layout := by
  cases e <;> simp [Expression.partsOfOption, Expression.Sound]

theorem forall_mem_ofParts {parts : List Expression} :
    (∀ node ∈ Node.ofParts parts, node.WellFormed layout) ↔
      ∀ part ∈ parts, part.WellFormed layout :=
  List.forall_mem_map

theorem forall_mem_nodesOfAll {body : List Statement} :
    (∀ node ∈ Statement.nodesOfAll body, node.WellFormed layout) ↔
      body.Forall (Statement.Sound layout) := by
  rw [Statement.nodesOfAll_eq, List.forall_mem_flatMap, List.forall_iff_forall_mem]
  rfl

namespace Expression

variable {line : Nat}

@[simp] theorem sound_literal {l : Literal} :
    (literal l line).Sound layout ↔ Literal.InRange l ∧ layout.line line :=
  List.forall_mem_singleton

@[simp] theorem sound_name {n : String} :
    (name n line).Sound layout ↔ layout.line line :=
  List.forall_mem_singleton

@[simp] theorem sound_unary {operator : UnaryOperator} {operand : Expression} :
    (unary operator operand line).Sound layout ↔
      layout.line line ∧ operand.Sound layout :=
  List.forall_mem_cons

@[simp] theorem sound_binary {operator : BinaryOperator} {left right : Expression} :
    (binary operator left right line).Sound layout ↔
      layout.line line ∧ left.Sound layout ∧ right.Sound layout :=
  List.forall_mem_cons.trans (and_congr_right' List.forall_mem_append)

@[simp] theorem sound_call {callee : String} {arguments : List Expression} :
    (call callee arguments line).Sound layout ↔
      layout.line line ∧ arguments.Forall (Sound layout) :=
  List.forall_mem_cons.trans (and_congr_right' forall_mem_partsOfAll)

@[simp] theorem sound_index {target place : Expression} :
    (index target place line).Sound layout ↔
      layout.line line ∧ target.Sound layout ∧ place.Sound layout :=
  List.forall_mem_cons.trans (and_congr_right' List.forall_mem_append)

@[simp] theorem sound_array {items : List Expression} :
    (array items line).Sound layout ↔
      layout.line line ∧ items.Forall (Sound layout) :=
  List.forall_mem_cons.trans (and_congr_right' forall_mem_partsOfAll)

end Expression

namespace Statement

variable {line : Nat}

@[simp] theorem sound_dim {n : String} {value : Option Expression} :
    (dim n value line).Sound layout ↔
      layout.line line ∧ ∀ e ∈ value, e.Sound layout :=
  List.forall_mem_cons.trans
    (and_congr_right' (forall_mem_ofParts.trans forall_mem_partsOfOption))

@[simp] theorem sound_assign {target : Target} {value : Expression} :
    (assign target value line).Sound layout ↔
      (layout.line line ∧ layout.line target.line) ∧
        target.indexes.Forall (Expression.Sound layout) ∧ value.Sound layout :=
  List.forall_mem_cons.trans (and_congr_right' (forall_mem_ofParts.trans
    (List.forall_mem_append.trans (and_congr_left' forall_mem_partsOfAll))))

theorem forall_mem_nodesOfBranches {branches : List Branch} :
    (∀ node ∈ nodesOfBranches branches, node.WellFormed layout) ↔
      branches.Forall fun branch =>
        branch.1.Sound layout ∧ branch.2.Forall (Sound layout) := by
  induction branches with
  | nil =>
      exact ⟨fun _ => trivial, fun _ => nofun⟩
  | cons branch rest inductionHypothesis =>
      rw [List.forall_cons, ← inductionHypothesis, ← forall_mem_nodesOfAll]
      exact List.forall_mem_append.trans
        (and_congr_left' (List.forall_mem_append.trans
        (and_congr_left' forall_mem_ofParts)))

theorem forall_mem_nodesOfOption {body : Option (List Statement)} :
    (∀ node ∈ nodesOfOption body, node.WellFormed layout) ↔
      body.toList.Forall (List.Forall (Sound layout)) := by
  cases body with
  | none =>
      exact ⟨fun _ => trivial, fun _ => nofun⟩
  | some body =>
      exact forall_mem_nodesOfAll

@[simp] theorem sound_conditional
    {branches : List Branch}
    {otherwise : Option (List Statement)} :
    (conditional branches otherwise line).Sound layout ↔
      layout.line line ∧ branches.Forall (Branch.Sound layout) ∧
        otherwise.toList.Forall layout.Admits := by
  have nodes : (conditional branches otherwise line).Sound layout ↔
      (conditional branches otherwise line).WellFormed layout ∧
        (branches.Forall fun branch =>
            branch.1.Sound layout ∧ branch.2.Forall (Sound layout)) ∧
          otherwise.toList.Forall (List.Forall (Sound layout)) :=
    List.forall_mem_cons.trans (and_congr_right' (List.forall_mem_append.trans
      (and_congr forall_mem_nodesOfBranches forall_mem_nodesOfOption)))
  rw [nodes]
  simp only [WellFormed, Branch.Sound, Layout.Admits, List.forall_iff_forall_mem]
  constructor
  · rintro ⟨⟨isLine, blocks, last⟩, inside, lastInside⟩
    exact ⟨isLine, fun branch member =>
      ⟨(inside branch member).1, (inside branch member).2, blocks branch member⟩,
      fun body member => ⟨lastInside body member, last body member⟩⟩
  · rintro ⟨isLine, inside, last⟩
    exact ⟨⟨isLine, fun branch member => (inside branch member).2.2,
        fun body member => (last body member).2⟩,
      fun branch member => ⟨(inside branch member).1, (inside branch member).2.1⟩,
      fun body member => (last body member).1⟩

/-- A statement with a block: what stands before the block, and the block. -/
theorem forall_mem_block
    {head : Prop}
    {parts : List Expression}
    {body : List Statement} :
    ((head ∧ layout.block body) ∧
        ∀ node ∈ Node.ofParts parts ++ nodesOfAll body, node.WellFormed layout) ↔
      head ∧ (∀ part ∈ parts, part.WellFormed layout) ∧ layout.Admits body := by
  rw [List.forall_mem_append, forall_mem_ofParts, forall_mem_nodesOfAll]
  unfold Layout.Admits
  constructor
  · rintro ⟨⟨before, isBlock⟩, inside, statements⟩
    exact ⟨before, inside, statements, isBlock⟩
  · rintro ⟨before, inside, statements, isBlock⟩
    exact ⟨⟨before, isBlock⟩, inside, statements⟩

@[simp] theorem sound_forRange
    {n : String}
    {start finish : Expression}
    {step : Option Expression}
    {body : List Statement} :
    (forRange n start finish step body line).Sound layout ↔
      layout.line line ∧
        (start.Sound layout ∧ finish.Sound layout ∧ ∀ e ∈ step, e.Sound layout) ∧
        layout.Admits body := by
  refine List.forall_mem_cons.trans (forall_mem_block.trans ?_)
  rw [← forall_mem_partsOfOption, ← and_assoc (a := start.Sound layout)]
  exact and_congr_right' (and_congr_left' (List.forall_mem_append.trans
    (and_congr_left' List.forall_mem_append)))

@[simp] theorem sound_forEach
    {n : String}
    {collection : Expression}
    {body : List Statement} :
    (forEach n collection body line).Sound layout ↔
      layout.line line ∧ collection.Sound layout ∧ layout.Admits body :=
  List.forall_mem_cons.trans forall_mem_block

@[simp] theorem sound_whileLoop {condition : Expression} {body : List Statement} :
    (whileLoop condition body line).Sound layout ↔
      layout.line line ∧ condition.Sound layout ∧ layout.Admits body :=
  List.forall_mem_cons.trans forall_mem_block

@[simp] theorem sound_define
    {n : String}
    {parameters : List Parameter}
    {body : List Statement} :
    (define n parameters body line).Sound layout ↔
      layout.line line ∧ Parameter.Proper parameters ∧
        parameters.Forall (Parameter.Sound layout) ∧ layout.Admits body := by
  have nodes : (define n parameters body line).Sound layout ↔
      (layout.line line ∧
        parameters.Forall (fun parameter => layout.line parameter.line) ∧
        Parameter.Proper parameters) ∧
        (∀ part ∈ Parameter.partsOfAll parameters, part.WellFormed layout) ∧
          layout.Admits body := by
    rw [← forall_mem_block]
    refine List.forall_mem_cons.trans (and_congr_left' ?_)
    rw [and_assoc, and_assoc]
    exact Iff.rfl
  rw [nodes, Parameter.partsOfAll, List.forall_mem_flatMap]
  simp only [forall_mem_partsOfOption, Parameter.Sound, List.forall_iff_forall_mem]
  constructor
  · rintro ⟨⟨isLine, lines, proper⟩, defaults, admitted⟩
    exact ⟨isLine, proper, fun parameter member =>
      ⟨lines parameter member, defaults parameter member⟩, admitted⟩
  · rintro ⟨isLine, proper, each, admitted⟩
    exact ⟨⟨isLine, fun parameter member => (each parameter member).1, proper⟩,
      fun parameter member => (each parameter member).2, admitted⟩

@[simp] theorem sound_giveBack {value : Option Expression} :
    (giveBack value line).Sound layout ↔
      layout.line line ∧ ∀ e ∈ value, e.Sound layout :=
  List.forall_mem_cons.trans
    (and_congr_right' (forall_mem_ofParts.trans forall_mem_partsOfOption))

@[simp] theorem sound_exit {kind : ExitKind} :
    (exit kind line).Sound layout ↔ layout.line line :=
  List.forall_mem_singleton

@[simp] theorem sound_evaluate {e : Expression} :
    (evaluate e line).Sound layout ↔ layout.line line ∧ e.Sound layout :=
  List.forall_mem_cons.trans (and_congr_right' forall_mem_ofParts)

end Statement

/-!
## Building with a layout

A rule builds a sound phrase of sound parts, if the statements of all its parts
together make a block. It fails with an error of the text, or because an integer
has more digits than are read.
-/

/-- Every node of a phrase is well formed; a token is on a line and no
integer below the range. -/
def Phrase.Sound (layout : Layout) : Phrase → Prop
  | .token t => layout.line t.place.line ∧ Unsigned t.text
  | .expression e => e.Sound layout
  | .arguments items => items.Forall (Expression.Sound layout)
  | .target t => layout.line t.line ∧ t.indexes.Forall (Expression.Sound layout)
  | .statements body => layout.Admits body
  | .parameters items => items.Forall (Parameter.Sound layout)
  | .branches items => items.Forall (Branch.Sound layout)
  | .otherwise body => layout.Admits body

namespace Phrase

@[simp] theorem sound_token {t : Token Terminal} :
    (token t).Sound layout ↔ layout.line t.place.line ∧ Unsigned t.text :=
  Iff.rfl

@[simp] theorem sound_expression {e : Expression} :
    (expression e).Sound layout ↔ e.Sound layout :=
  Iff.rfl

@[simp] theorem sound_arguments {items : List Expression} :
    (arguments items).Sound layout ↔ items.Forall (Expression.Sound layout) :=
  Iff.rfl

@[simp] theorem sound_target {t : Target} :
    (target t).Sound layout ↔
      layout.line t.line ∧ t.indexes.Forall (Expression.Sound layout) :=
  Iff.rfl

@[simp] theorem sound_statements {body : List Statement} :
    (statements body).Sound layout ↔ layout.Admits body :=
  Iff.rfl

@[simp] theorem sound_parameters {items : List Parameter} :
    (parameters items).Sound layout ↔ items.Forall (Parameter.Sound layout) :=
  Iff.rfl

@[simp] theorem sound_branches {items : List Branch} :
    (branches items).Sound layout ↔ items.Forall (Branch.Sound layout) :=
  Iff.rfl

@[simp] theorem sound_otherwise {body : List Statement} :
    (otherwise body).Sound layout ↔ layout.Admits body :=
  Iff.rfl

theorem Sound.argumentList
    {phrase : Phrase}
    (sound : phrase.Sound layout) :
    phrase.argumentList.Forall (Expression.Sound layout) := by
  cases phrase with
  | arguments items =>
      exact sound
  | _ =>
      trivial

theorem Sound.statementList
    {phrase : Phrase}
    (sound : phrase.Sound layout) :
    phrase.statementList.Forall (Statement.Sound layout) := by
  cases phrase with
  | statements body =>
      exact sound.1
  | _ =>
      trivial

theorem Sound.parameterList
    {phrase : Phrase}
    (sound : phrase.Sound layout) :
    phrase.parameterList.Forall (Parameter.Sound layout) := by
  cases phrase with
  | parameters items =>
      exact sound
  | _ =>
      trivial

end Phrase

/-- What the lists of all parts have, the joined list has. -/
theorem forall_flatMap
    {P : α → Prop}
    {list : Phrase → List α}
    (each : ∀ {part : Phrase}, part.Sound layout → (list part).Forall P)
    {parts : List Phrase}
    (sound : parts.Forall (Phrase.Sound layout)) :
    (parts.flatMap list).Forall P := by
  rw [List.forall_iff_forall_mem] at sound ⊢
  exact List.forall_mem_flatMap.mpr fun part member =>
    List.forall_iff_forall_mem.mp (each (sound part member))

/-- A single statement is a block. -/
@[simp] theorem Layout.admits_single {s : Statement} :
    layout.Admits [s] ↔ s.Sound layout := by
  unfold Admits
  rw [List.forall_cons]
  exact ⟨fun ⟨sound, _⟩ => sound.1,
    fun sound => ⟨⟨sound, trivial⟩, layout.block_single s⟩⟩

/-! ### Rules that cannot fail -/

section Plain

variable
  {rule : Rule}
  {parts : List Phrase}
  {phrase : Phrase}
  (sound : parts.Forall (Phrase.Sound layout))

include sound

theorem statementPhrase?_sound
    (joined : layout.block (parts.flatMap Phrase.statementList))
    (built : statementPhrase? rule parts = some phrase) :
    phrase.Sound layout := by
  have inside :
      (parts.flatMap Phrase.statementList).Forall (Statement.Sound layout) :=
    forall_flatMap Phrase.Sound.statementList sound
  revert built
  fun_cases statementPhrase? rule parts
  all_goals rintro ⟨⟩
  all_goals simp_all [callOf, Layout.Admits, layout.block_single,
    forall_flatMap Phrase.Sound.argumentList]

theorem conditionalPhrase?_sound
    (built : conditionalPhrase? rule parts = some phrase) :
    phrase.Sound layout := by
  revert built
  fun_cases conditionalPhrase? rule parts
  all_goals rintro ⟨⟩
  all_goals simp_all [conditionalOf, Branch.Sound]

theorem parameterPhrase?_sound
    (built : parameterPhrase? rule parts = some phrase) :
    phrase.Sound layout := by
  revert built
  fun_cases parameterPhrase? rule parts
  all_goals rintro ⟨⟩
  all_goals simp_all [parameterOf, Parameter.Sound, Phrase.Sound.parameterList]

theorem operandPhrase?_sound
    (built : operandPhrase? rule parts = some phrase) :
    phrase.Sound layout := by
  revert built
  fun_cases operandPhrase? rule parts
  all_goals rintro ⟨⟩
  all_goals simp_all [callOf, stringLiteral, Literal.InRange, Expression.Sound.line,
    forall_flatMap Phrase.Sound.argumentList, Phrase.Sound.argumentList]

theorem plainPhrase?_sound
    (joined : layout.block (parts.flatMap Phrase.statementList))
    (built : plainPhrase? rule parts = some phrase) :
    phrase.Sound layout := by
  simp only [plainPhrase?, Option.orElse_eq_orElse, Option.orElse_eq_or,
    Option.or_eq_some_iff] at built
  rcases built with built | ⟨-, built | ⟨-, built | ⟨-, built⟩⟩⟩
  · exact statementPhrase?_sound sound joined built
  · exact conditionalPhrase?_sound sound built
  · exact parameterPhrase?_sound sound built
  · exact operandPhrase?_sound sound built

end Plain

/-! ### Rules with further conditions -/

/-- Reading a number fails for a number that is too large, and breaches only
if it is too long. -/
theorem numberLiteral_sound
    {token : Token Terminal}
    (isLine : layout.line token.place.line)
    (unsigned : Unsigned token.text) :
    Contained (· = .longLiteral) (Expression.Sound layout)
      (numberLiteral token) := by
  unfold numberLiteral
  dsimp only
  split
  next =>
    exact .ok (Expression.sound_literal.mpr ⟨trivial, isLine⟩)
  next =>
    split
    next i read =>
      split
      next =>
        exact .error trivial
      next small =>
        have inRange : 0 ≤ i ∧ i ≤ maxInt := ⟨unsigned i read, Int.not_lt.mp small⟩
        exact .ok (Expression.sound_literal.mpr ⟨inRange, isLine⟩)
    next =>
      exact .breach rfl

theorem checkLoopName_contained
    (name : Token Terminal)
    (trailing : Option (Token Terminal)) :
    Contained (· = .longLiteral) (fun _ => True) (checkLoopName name trailing) := by
  unfold checkLoopName
  split
  · exact .ok trivial
  · split
    · exact .ok trivial
    · exact .error trivial

theorem countedLoop_sound
    {word name : Token Terminal}
    {start finish : Expression}
    {step : Option Expression}
    {body : List Statement}
    {trailing : Option (Token Terminal)}
    (sound :
      (Statement.forRange name.string start finish step body word.place.line).Sound
        layout) :
    Contained (· = .longLiteral) (Phrase.Sound layout)
      (countedLoop word name start finish step body trailing) :=
  (checkLoopName_contained name trailing).bind fun _ _ =>
    .pure (Layout.admits_single.mpr sound)

theorem collectionLoop_sound
    {word name : Token Terminal}
    {collection : Expression}
    {body : List Statement}
    {trailing : Option (Token Terminal)}
    (sound :
      (Statement.forEach name.string collection body word.place.line).Sound
        layout) :
    Contained (· = .longLiteral) (Phrase.Sound layout)
      (collectionLoop word name collection body trailing) :=
  (checkLoopName_contained name trailing).bind fun _ _ =>
    .pure (Layout.admits_single.mpr sound)

/-- A definition is built only of parameters that are told apart. -/
theorem functionDefinition_sound
    {word name : Token Terminal}
    {parameters : List Parameter}
    {body : List Statement}
    (isLine : layout.line word.place.line)
    (each : parameters.Forall (Parameter.Sound layout))
    (admitted : layout.Admits body) :
    Contained (· = .longLiteral) (Phrase.Sound layout)
      (functionDefinition word name parameters body) := by
  unfold functionDefinition
  dsimp only
  split
  next =>
    exact .error trivial
  next distinct =>
    split
    next =>
      exact .error trivial
    next noneMisplaced =>
      have proper : Parameter.Proper parameters := by
        refine ⟨by simpa using distinct, fun parameter member isRest => ?_⟩
        have kept := List.find?_eq_none.mp noneMisplaced parameter member
        exact kept (beq_iff_eq.mpr isRest)
      exact .ok (Layout.admits_single.mpr
        (Statement.sound_define.mpr ⟨isLine, proper, each, admitted⟩))

/-- What every rule builds of sound parts. -/
theorem buildPhrase_sound
    (rule : Rule)
    {parts : List Phrase}
    (each : ∀ part ∈ parts, part.Sound layout)
    (joined : layout.block (parts.flatMap Phrase.statementList)) :
    Contained (· = .longLiteral) (Phrase.Sound layout)
      (buildPhrase rule parts) := by
  have sound := List.forall_iff_forall_mem.mpr each
  fun_cases buildPhrase rule parts with
  | case1 token =>
      obtain ⟨isLine, unsigned⟩ := each _ (List.mem_singleton_self _)
      exact (numberLiteral_sound isLine unsigned).map fun _ sound => sound
  | case8 _ _ _ word name bracket parts =>
      have inside : parts.Forall (Phrase.Sound layout) :=
        List.forall_iff_forall_mem.mpr fun part member =>
          each part (by simp [member])
      have block : layout.block (parts.flatMap Phrase.statementList) := by
        simp only [List.flatMap_cons] at joined
        exact layout.block_of_append
          (layout.block_of_append (layout.block_of_append joined))
      have isLine : (Phrase.token word).Sound layout := each _ List.mem_cons_self
      exact functionDefinition_sound isLine.1
        (forall_flatMap Phrase.Sound.parameterList inside)
        ⟨forall_flatMap Phrase.Sound.statementList inside, block⟩
  | case9 rule parts =>
      cases built : plainPhrase? rule parts with
      | none =>
          exact .ok ⟨trivial, layout.block_nil⟩
      | some phrase =>
          exact .ok (plainPhrase?_sound sound joined built)
  | _ =>
      first
      | exact countedLoop_sound (by simp_all)
      | exact collectionLoop_sound (by simp_all)

end GridScript.Script
