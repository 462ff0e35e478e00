import GridScript.Proofs.Script.Syntax.Table
import GridScript.Script.Phrase
import Mathlib.Tactic.FinCases

namespace GridScript.Script

/-!
# Building moved programs

A program stays what it is with its nodes on other lines, and the rules of the
grammar build it from parts on these lines.
-/

/-! ## Moved programs -/

mutual

/-- An expression with every node on another line. -/
def Expression.mapLines (move : Nat → Nat) : Expression → Expression
  | .literal l line => .literal l (move line)
  | .name n line => .name n (move line)
  | .unary operator operand line =>
      .unary operator (operand.mapLines move) (move line)
  | .binary operator left right line =>
      .binary operator (left.mapLines move) (right.mapLines move) (move line)
  | .call callee arguments line =>
      .call callee (Expression.mapLinesOfAll move arguments) (move line)
  | .index target place line =>
      .index (target.mapLines move) (place.mapLines move) (move line)
  | .array items line => .array (Expression.mapLinesOfAll move items) (move line)

/-- Some expressions with every node on another line. -/
def Expression.mapLinesOfAll (move : Nat → Nat) : List Expression → List Expression
  | [] => []
  | e :: rest => e.mapLines move :: Expression.mapLinesOfAll move rest

end

/-- A target with every node on another line. -/
def Target.mapLines (move : Nat → Nat) (target : Target) : Target where
  name := target.name
  indexes := target.indexes.map (Expression.mapLines move)
  line := move target.line

/-- A parameter with every node on another line. -/
def Parameter.mapLines (move : Nat → Nat) (parameter : Parameter) : Parameter where
  name := parameter.name
  mode := parameter.mode
  default := parameter.default.map (Expression.mapLines move)
  line := move parameter.line

mutual

/-- A statement with every node on another line. -/
def Statement.mapLines (move : Nat → Nat) : Statement → Statement
  | .dim name value line =>
      .dim name (value.map (Expression.mapLines move)) (move line)
  | .assign target value line =>
      .assign (target.mapLines move) (value.mapLines move) (move line)
  | .conditional branches otherwise line =>
      .conditional (Statement.mapLinesOfBranches move branches)
        (Statement.mapLinesOfOption move otherwise) (move line)
  | .forRange name start finish step body line =>
      .forRange name (start.mapLines move) (finish.mapLines move)
        (step.map (Expression.mapLines move)) (Statement.mapLinesOfAll move body)
        (move line)
  | .forEach name collection body line =>
      .forEach name (collection.mapLines move) (Statement.mapLinesOfAll move body)
        (move line)
  | .whileLoop condition body line =>
      .whileLoop (condition.mapLines move) (Statement.mapLinesOfAll move body)
        (move line)
  | .define name parameters body line =>
      .define name (parameters.map (Parameter.mapLines move))
        (Statement.mapLinesOfAll move body) (move line)
  | .giveBack value line =>
      .giveBack (value.map (Expression.mapLines move)) (move line)
  | .exit kind line => .exit kind (move line)
  | .evaluate call line => .evaluate (call.mapLines move) (move line)

/-- Some statements with every node on another line. -/
def Statement.mapLinesOfAll (move : Nat → Nat) : List Statement → List Statement
  | [] => []
  | s :: rest => s.mapLines move :: Statement.mapLinesOfAll move rest

/-- The branches of a conditional with every node on another line. -/
def Statement.mapLinesOfBranches (move : Nat → Nat) :
    List (Expression × List Statement) → List (Expression × List Statement)
  | [] => []
  | (condition, body) :: rest =>
      (condition.mapLines move, Statement.mapLinesOfAll move body) ::
        Statement.mapLinesOfBranches move rest

/-- Statements that may be missing with every node on another line. -/
def Statement.mapLinesOfOption (move : Nat → Nat) :
    Option (List Statement) → Option (List Statement)
  | none => none
  | some body => some (Statement.mapLinesOfAll move body)

end

/-- A branch of a conditional with every node on another line. -/
def Branch.mapLines (move : Nat → Nat) (branch : Branch) : Branch :=
  (branch.1.mapLines move, branch.2.map (Statement.mapLines move))

/-- A program with every node on another line. -/
def Program.mapLines (move : Nat → Nat) (program : Program) : Program where
  statements := program.statements.map (Statement.mapLines move)

variable {move : Nat → Nat}

@[simp] theorem Expression.mapLinesOfAll_eq (items : List Expression) :
    Expression.mapLinesOfAll move items = items.map (Expression.mapLines move) := by
  induction items with
  | nil =>
      rfl
  | cons e rest inductionHypothesis =>
      rw [Expression.mapLinesOfAll, inductionHypothesis, List.map_cons]

@[simp] theorem Statement.mapLinesOfAll_eq (body : List Statement) :
    Statement.mapLinesOfAll move body = body.map (Statement.mapLines move) := by
  induction body with
  | nil =>
      rfl
  | cons s rest inductionHypothesis =>
      rw [Statement.mapLinesOfAll, inductionHypothesis, List.map_cons]

@[simp] theorem Statement.mapLinesOfBranches_eq (branches : List Branch) :
    Statement.mapLinesOfBranches move branches =
      branches.map (Branch.mapLines move) := by
  induction branches with
  | nil =>
      rfl
  | cons branch rest inductionHypothesis =>
      rw [Statement.mapLinesOfBranches, inductionHypothesis,
        Statement.mapLinesOfAll_eq, List.map_cons, Branch.mapLines]

@[simp] theorem Statement.mapLinesOfOption_eq (body : Option (List Statement)) :
    Statement.mapLinesOfOption move body =
      body.map (List.map (Statement.mapLines move)) := by
  cases body with
  | none =>
      rfl
  | some body =>
      rw [Statement.mapLinesOfOption, Statement.mapLinesOfAll_eq, Option.map_some]

@[simp] theorem Expression.line_mapLines (e : Expression) :
    (e.mapLines move).line = move e.line := by
  cases e <;> rfl

/-! ## Programs that stay -/

mutual

/-- Expressions whose nodes stay on their lines stay. -/
theorem Expression.mapLines_id (e : Expression) : e.mapLines id = e := by
  cases e with
  | literal l line =>
      rfl
  | name n line =>
      rfl
  | unary operator operand line =>
      rw [Expression.mapLines, Expression.mapLines_id operand]
      rfl
  | binary operator left right line =>
      rw [Expression.mapLines, Expression.mapLines_id left,
        Expression.mapLines_id right]
      rfl
  | call callee arguments line =>
      rw [Expression.mapLines, Expression.mapLinesOfAll_id arguments]
      rfl
  | index target place line =>
      rw [Expression.mapLines, Expression.mapLines_id target,
        Expression.mapLines_id place]
      rfl
  | array items line =>
      rw [Expression.mapLines, Expression.mapLinesOfAll_id items]
      rfl

theorem Expression.mapLinesOfAll_id (items : List Expression) :
    Expression.mapLinesOfAll id items = items := by
  cases items with
  | nil =>
      rfl
  | cons e rest =>
      rw [Expression.mapLinesOfAll, Expression.mapLines_id e,
        Expression.mapLinesOfAll_id rest]

end

theorem Expression.mapLines_id_eq : Expression.mapLines id = id :=
  funext Expression.mapLines_id

theorem Target.mapLines_id (target : Target) : target.mapLines id = target := by
  rw [Target.mapLines, Expression.mapLines_id_eq, List.map_id]
  rfl

theorem Parameter.mapLines_id (parameter : Parameter) :
    parameter.mapLines id = parameter := by
  rw [Parameter.mapLines, Expression.mapLines_id_eq, Option.map_id]
  rfl

mutual

/-- Statements whose nodes stay on their lines stay. -/
theorem Statement.mapLines_id (s : Statement) : s.mapLines id = s := by
  cases s with
  | dim name value line =>
      rw [Statement.mapLines, Expression.mapLines_id_eq, Option.map_id]
      rfl
  | assign target value line =>
      rw [Statement.mapLines, Target.mapLines_id, Expression.mapLines_id]
      rfl
  | conditional branches otherwise line =>
      rw [Statement.mapLines, Statement.mapLinesOfBranches_id branches,
        Statement.mapLinesOfOption_id otherwise]
      rfl
  | forRange name start finish step body line =>
      rw [Statement.mapLines, Expression.mapLines_id, Expression.mapLines_id,
        Expression.mapLines_id_eq, Option.map_id, Statement.mapLinesOfAll_id body]
      rfl
  | forEach name collection body line =>
      rw [Statement.mapLines, Expression.mapLines_id,
        Statement.mapLinesOfAll_id body]
      rfl
  | whileLoop condition body line =>
      rw [Statement.mapLines, Expression.mapLines_id,
        Statement.mapLinesOfAll_id body]
      rfl
  | define name parameters body line =>
      have same : parameters.map (Parameter.mapLines id) = parameters :=
        (List.map_congr_left fun parameter _ => parameter.mapLines_id).trans
          (List.map_id _)
      rw [Statement.mapLines, same, Statement.mapLinesOfAll_id body]
      rfl
  | giveBack value line =>
      rw [Statement.mapLines, Expression.mapLines_id_eq, Option.map_id]
      rfl
  | exit kind line =>
      rfl
  | evaluate call line =>
      rw [Statement.mapLines, Expression.mapLines_id]
      rfl

theorem Statement.mapLinesOfAll_id (body : List Statement) :
    Statement.mapLinesOfAll id body = body := by
  cases body with
  | nil =>
      rfl
  | cons s rest =>
      rw [Statement.mapLinesOfAll, Statement.mapLines_id s,
        Statement.mapLinesOfAll_id rest]

theorem Statement.mapLinesOfBranches_id
    (branches : List (Expression × List Statement)) :
    Statement.mapLinesOfBranches id branches = branches := by
  cases branches with
  | nil =>
      rfl
  | cons branch rest =>
      obtain ⟨condition, body⟩ := branch
      rw [Statement.mapLinesOfBranches, Expression.mapLines_id,
        Statement.mapLinesOfAll_id body, Statement.mapLinesOfBranches_id rest]

theorem Statement.mapLinesOfOption_id (body : Option (List Statement)) :
    Statement.mapLinesOfOption id body = body := by
  cases body with
  | none =>
      rfl
  | some body =>
      rw [Statement.mapLinesOfOption, Statement.mapLinesOfAll_id body]

end

/-!
## Building from moved parts

A rule builds the same phrase on other lines if its parts are on other
lines. No rule looks at the text or the place of a line break, so these can
differ in any way.
-/

open GridScript.Parsing
open GridScript.Text

/-! ## Shapes -/

/-- What the phrases of a category look like. -/
inductive Shape where
  /-- A single statement. -/
  | one
  /-- At least one statement. -/
  | many
  /-- Any number of statements. -/
  | any
  | expression
  | arguments
  | target
  | parameters
  | branches
  | otherwise
  deriving Repr, DecidableEq

/-- The shape of the phrases of a category. -/
def Category.shape : Category → Shape
  | .program | .block => .any
  | .statements => .many
  | .statement | .simpleStatement | .dimStatement | .assignStatement
  | .returnStatement
  | .exitStatement | .callStatement | .ifStatement | .forStatement
  | .forEachStatement
  | .whileStatement | .functionDefinition => .one
  | .target => .target
  | .elseIfs | .elseIf => .branches
  | .elseClause => .otherwise
  | .parameters | .moreParameters | .parameter => .parameters
  | .arguments | .moreArguments => .arguments
  | .expression | .disjunction | .conjunction | .comparison | .sum | .product
  | .unary | .power
  | .postfixed | .atom => .expression

/-- A phrase has a shape. -/
def Shape.Fits : Shape → Phrase → Prop
  | .one, phrase => ∃ s, phrase = .statements [s]
  | .many, phrase => ∃ s rest, phrase = .statements (s :: rest)
  | .any, phrase => ∃ body, phrase = .statements body
  | .expression, phrase => ∃ e, phrase = .expression e
  | .arguments, phrase => ∃ items, phrase = .arguments items
  | .target, phrase => ∃ target, phrase = .target target
  | .parameters, phrase => ∃ items, phrase = .parameters items
  | .branches, phrase => ∃ items, phrase = .branches items
  | .otherwise, phrase => ∃ body, phrase = .otherwise body

/-! ## Moved phrases -/

/-- A phrase with every node on another line. -/
def Phrase.mapLines (move : Nat → Nat) : Phrase → Phrase
  | token t => .token { t with place := { t.place with line := move t.place.line } }
  | expression e => .expression (e.mapLines move)
  | arguments items => .arguments (items.map (Expression.mapLines move))
  | target t => .target (t.mapLines move)
  | statements body => .statements (body.map (Statement.mapLines move))
  | parameters items => .parameters (items.map (Parameter.mapLines move))
  | branches items => .branches (items.map (Branch.mapLines move))
  | otherwise body => .otherwise (body.map (Statement.mapLines move))

/-- A token of the same kind that has the same text on another line, unless
it is a line break. -/
structure TokenMoves (move : Nat → Nat) (t t' : Token Terminal) : Prop where
  kind : t'.kind = t.kind
  text : t.kind ≠ .newline → t'.text = t.text
  line : t.kind ≠ .newline → t'.place.line = move t.place.line

/-- The phrases of a symbol that are the same on other lines. -/
inductive Moves (move : Nat → Nat) :
    GrammarSymbol Terminal Category → Phrase → Phrase → Prop where
  | token
      {t t' : Token Terminal}
      (moves : TokenMoves move t t') :
      Moves move (.token t.kind) (.token t) (.token t')
  | phrase
      {category : Category}
      {phrase : Phrase}
      (fits : category.shape.Fits phrase) :
      Moves move (.phrase category) phrase (phrase.mapLines move)

/-- The phrases of some symbols that are the same on other lines. -/
inductive AllMove (move : Nat → Nat) :
    List (GrammarSymbol Terminal Category) → List Phrase → List Phrase → Prop where
  | nil : AllMove move [] [] []
  | cons
      {symbol : GrammarSymbol Terminal Category}
      {symbols : List (GrammarSymbol Terminal Category)}
      {part part' : Phrase}
      {parts parts' : List Phrase}
      (first : Moves move symbol part part')
      (later : AllMove move symbols parts parts') :
      AllMove move (symbol :: symbols) (part :: parts) (part' :: parts')

variable {symbols : List (GrammarSymbol Terminal Category)}
variable {P : List Phrase → List Phrase → Prop}

theorem forall_nil :
    (∀ parts parts', AllMove move [] parts parts' → P parts parts') ↔ P [] [] := by
  constructor
  · exact fun all => all [] [] .nil
  · rintro holds _ _ ⟨⟩
    exact holds

theorem forall_break :
    (∀ parts parts', AllMove move (.token .newline :: symbols) parts parts' →
        P parts parts') ↔
      ∀ t t' : Token Terminal, t.kind = .newline → t'.kind = .newline →
          ∀ parts parts',
        AllMove move symbols parts parts' →
          P (.token t :: parts) (.token t' :: parts') := by
  constructor
  · intro all t t' kind kind' parts parts' allMove
    have moves : TokenMoves move t t' :=
      ⟨kind'.trans kind.symm, fun other => absurd kind other,
        fun other => absurd kind other⟩
    exact all _ _ (.cons (kind ▸ .token moves) allMove)
  · intro all parts parts' allMove
    generalize isBreak : GrammarSymbol.token Terminal.newline :: symbols = all
      at allMove
    cases allMove with
    | nil =>
        cases isBreak
    | cons first later =>
        obtain ⟨isSymbol, rfl⟩ := List.cons.inj isBreak
        cases first with
        | token moves =>
            have kind := (GrammarSymbol.token.inj isSymbol).symm
            exact all _ _ kind (moves.kind.trans kind) _ _ later
        | phrase =>
            cases isSymbol

theorem forall_token {kind : Terminal} (other : kind ≠ .newline) :
    (∀ parts parts', AllMove move (.token kind :: symbols) parts parts' →
        P parts parts') ↔
      ∀ text place place', place'.line = move place.line → ∀ parts parts',
        AllMove move symbols parts parts' →
          P (.token ⟨kind, text, place⟩ :: parts)
            (.token ⟨kind, text, place'⟩ :: parts') := by
  constructor
  · intro all text place place' line parts parts' allMove
    exact all _ _
      (.cons (.token (t := ⟨kind, text, place⟩) ⟨rfl, fun _ => rfl, fun _ => line⟩)
      allMove)
  · rintro all _ _ (_ | ⟨⟨moves⟩, later⟩)
    have text := moves.text other
    have line := moves.line other
    have kind := moves.kind
    rename_i t t'
    obtain ⟨kind, text, place⟩ := t
    obtain ⟨kind', text', place'⟩ := t'
    subst kind text
    exact all _ _ _ line _ _ later

theorem forall_phrase {category : Category} :
    (∀ parts parts', AllMove move (.phrase category :: symbols) parts parts' →
        P parts parts') ↔
      ∀ part, category.shape.Fits part → ∀ parts parts',
        AllMove move symbols parts parts' →
          P (part :: parts) (part.mapLines move :: parts') := by
  constructor
  · intro all part fits parts parts' allMove
    exact all _ _ (.cons (.phrase fits) allMove)
  · rintro all _ _ (_ | ⟨_ | ⟨fits⟩, later⟩)
    exact all _ fits _ _ later

/-- A result is the same on other lines, if it is no error, and has a shape. -/
def Carries
    (move : Nat → Nat)
    (shape : Shape)
    (result result' : Except PhraseFailure Phrase) : Prop :=
  ∀ phrase, result = .ok phrase →
    result' = .ok (phrase.mapLines move) ∧ shape.Fits phrase

/-- A rule builds the same phrase of the same parts on other lines. -/
def Rule.Follows (move : Nat → Nat) (rule : Rule) : Prop :=
  ∀ parts parts', AllMove move (grammar.symbols rule) parts parts' →
    Carries move rule.category.shape (buildPhrase rule parts)
      (buildPhrase rule parts')

theorem chain_shape : ∀ pair ∈ Rule.chains, pair.1.shape = pair.2.shape := by
  decide

theorem follows_chain
    {upper lower : Category}
    (same : upper.shape = lower.shape) :
    (Rule.chain upper lower).Follows move := by
  simp only [Rule.Follows, Rule.category, grammar, Rule.parts, List.map_cons,
    List.map_nil, Part.symbol, forall_phrase, forall_nil, same]
  rintro part fits _ ⟨⟩
  exact ⟨rfl, fits⟩

/-- The rules whose phrases can have errors of their own. -/
def Rule.canFail : Rule → Bool
  | .number | .forRange .. | .forEach _ | .function .. => true
  | _ => false

theorem follows_of_plain
    {rule : Rule}
    (member : rule ∈ Rule.ofPrograms ++ Rule.ofSimpleStatements ++ Rule.ofBlocks ++
      Rule.ofFunctions ++ Rule.ofExpressions)
    (plain : rule.canFail = false) :
    rule.Follows move := by
  fin_cases member
  all_goals try cases plain
  all_goals
    simp only [Rule.Follows, Rule.category, grammar, Rule.parts, sign, word,
      nameToken, lineBreak, partIf, if_true, Bool.false_eq_true, if_false,
      List.append_nil, List.cons_append, List.nil_append, List.map_cons,
      List.map_nil, Part.symbol, ne_eq, reduceCtorEq, not_false_eq_true,
      forall_token, forall_break, forall_phrase, forall_nil, Category.shape,
      Shape.Fits, forall_exists_index, forall_eq_apply_imp_iff]
    intros
    rintro _ ⟨⟩
    simp_all [buildPhrase, plainPhrase?, operandPhrase?, statementPhrase?,
      conditionalPhrase?, parameterPhrase?, Phrase.mapLines, Shape.Fits,
      Token.string, callOf, stringLiteral, Phrase.argumentList,
      Phrase.parameterList, Phrase.statementList, conditionalOf, parameterOf,
      Expression.mapLines, Statement.mapLines, Target.mapLines, Parameter.mapLines,
      Branch.mapLines]

/-! ## Rules whose phrases can have errors of their own -/

theorem numberLiteral_mapLines
    (text : List Char)
    {place place' : Place}
    (line : place'.line = move place.line)
    {expression : Expression}
    (isValue : numberLiteral ⟨.number, text, place⟩ = .ok expression) :
    numberLiteral ⟨.number, text, place'⟩ = .ok (expression.mapLines move) := by
  unfold numberLiteral at isValue ⊢
  dsimp only at isValue ⊢
  split_ifs at isValue ⊢ with isFloat
  · cases isValue
    rw [Expression.mapLines, line]
  · split at isValue
    · split_ifs at isValue with range
      cases isValue
      simp [range, Expression.mapLines, line]
    · cases isValue

theorem follows_number : Rule.number.Follows move := by
  simp only [Rule.Follows, Rule.category, grammar, Rule.parts, List.map_cons,
    List.map_nil, Part.symbol, ne_eq, reduceCtorEq, not_false_eq_true, forall_token,
    forall_nil]
  intro text place place' line phrase isBuilt
  simp only [buildPhrase] at isBuilt ⊢
  cases isValue : numberLiteral ⟨.number, text, place⟩ with
  | error failure =>
      rw [isValue] at isBuilt
      cases isBuilt
  | ok expression =>
      rw [isValue] at isBuilt
      cases isBuilt
      refine ⟨?_, expression, rfl⟩
      rw [numberLiteral_mapLines text line isValue]
      rfl

/-- Whether a loop names its variable again does not depend on lines. -/
theorem checkLoopName_eq_ok_iff
    {name : Token Terminal}
    {trailing : Option (Token Terminal)} :
    checkLoopName name trailing = .ok () ↔
      ∀ found ∈ trailing, found.text = name.text := by
  cases trailing with
  | none =>
      simp [checkLoopName]
  | some found =>
      by_cases same : found.text = name.text <;> simp [checkLoopName, same]

theorem countedLoop_eq_ok_iff
    {word name : Token Terminal}
    {start finish : Expression}
    {step : Option Expression}
    {body : List Statement}
    {trailing : Option (Token Terminal)}
    {phrase : Phrase} :
    countedLoop word name start finish step body trailing = .ok phrase ↔
      (∀ found ∈ trailing, found.text = name.text) ∧
        phrase =
          .statements
            [.forRange name.string start finish step body word.place.line] := by
  rw [← checkLoopName_eq_ok_iff, countedLoop]
  cases checkLoopName name trailing with
  | error failure =>
      simp [Except.bind, bind]
  | ok =>
      simp [Except.bind, bind, pure, Except.pure, eq_comm]

theorem collectionLoop_eq_ok_iff
    {word name : Token Terminal}
    {collection : Expression}
    {body : List Statement}
    {trailing : Option (Token Terminal)}
    {phrase : Phrase} :
    collectionLoop word name collection body trailing = .ok phrase ↔
      (∀ found ∈ trailing, found.text = name.text) ∧
        phrase =
          .statements [.forEach name.string collection body word.place.line] := by
  rw [← checkLoopName_eq_ok_iff, collectionLoop]
  cases checkLoopName name trailing with
  | error failure =>
      simp [Except.bind, bind]
  | ok =>
      simp [Except.bind, bind, pure, Except.pure, eq_comm]

/-- The rules of the other loops. -/
def Rule.ofCountedLoops : List Rule :=
  [.forRange false false, .forRange false true, .forRange true false,
    .forRange true true, .forEach false, .forEach true]

theorem follows_loop
    {rule : Rule}
    (member : rule ∈ Rule.ofCountedLoops) :
    rule.Follows move := by
  fin_cases member
  all_goals
    simp only [Rule.Follows, Rule.category, grammar, Rule.parts, word, sign,
      nameToken, lineBreak, partIf, if_true, Bool.false_eq_true, if_false,
      List.append_nil, List.cons_append, List.nil_append, List.map_cons,
      List.map_nil, Part.symbol, ne_eq, reduceCtorEq, not_false_eq_true,
      forall_token, forall_break, forall_phrase, forall_nil, Category.shape,
      Shape.Fits, forall_exists_index, forall_eq_apply_imp_iff]
    intros
    intro phrase isBuilt
    simp only [buildPhrase, Phrase.mapLines, countedLoop_eq_ok_iff,
      collectionLoop_eq_ok_iff]
      at isBuilt ⊢
    simp_all [Token.string, Statement.mapLines, Shape.Fits]

/-! ## Function definitions -/

@[simp]
theorem parameter_name_mapLines (parameter : Parameter) :
    (parameter.mapLines move).name = parameter.name :=
  rfl

theorem misplacedRest?_map (parameters : List Parameter) :
    misplacedRest? (parameters.map (Parameter.mapLines move)) =
      (misplacedRest? parameters).map (Parameter.mapLines move) := by
  rw [misplacedRest?, misplacedRest?, ← List.map_dropLast, List.find?_map]
  rfl

theorem functionDefinition_mapLines
    {word word' name name' : Token Terminal}
    (line : word'.place.line = move word.place.line)
    (text : name'.text = name.text)
    (parameters : List Parameter)
    (body : List Statement) :
    Carries move .one (functionDefinition word name parameters body)
      (functionDefinition word' name' (parameters.map (Parameter.mapLines move))
        (body.map (Statement.mapLines move))) := by
  intro phrase isBuilt
  unfold functionDefinition at isBuilt ⊢
  simp only [List.map_map, Function.comp_def, parameter_name_mapLines,
    misplacedRest?_map]
    at isBuilt ⊢
  split_ifs at isBuilt ⊢ with repeated
  cases misplaced : misplacedRest? parameters with
  | some parameter =>
      rw [misplaced] at isBuilt
      cases isBuilt
  | none =>
      rw [misplaced] at isBuilt
      cases isBuilt
      simp [Phrase.mapLines, Shape.Fits, Statement.mapLines, Token.string, line,
        text]

theorem follows_function
    (opening closing : FunctionWord)
    (given : Bool) :
    (Rule.function opening given closing).Follows move := by
  cases given
  all_goals
    simp only [Rule.Follows, Rule.category, grammar, Rule.parts, word, sign,
      nameToken, lineBreak, partIf, if_true, Bool.false_eq_true, if_false,
      List.cons_append, List.nil_append, List.map_cons, List.map_nil, Part.symbol,
      ne_eq, reduceCtorEq, not_false_eq_true, forall_token, forall_break,
      forall_phrase, forall_nil, Category.shape, Shape.Fits, forall_exists_index,
      forall_eq_apply_imp_iff]
    intros
    simp only [buildPhrase, Phrase.mapLines, Phrase.parameterList,
      Phrase.statementList, List.flatMap_cons, List.flatMap_nil, List.nil_append,
      List.append_nil]
    apply functionDefinition_mapLines
    · assumption
    · rfl

/-! ## Every rule -/

theorem follows_binary (spelling : Spelling) :
    (Rule.binary spelling).Follows move := by
  have other : spelling.terminal ≠ .newline := by
    cases spelling <;> decide
  have shapes :
      spelling.leftLevel.shape = .expression ∧
        spelling.rightLevel.shape = .expression ∧
        spelling.level.shape = .expression := by
    cases spelling <;> decide
  obtain ⟨left, right, whole⟩ := shapes
  simp only [Rule.Follows, Rule.category, grammar, Rule.parts, List.map_cons,
    List.map_nil, Part.symbol, forall_token other, forall_phrase, forall_nil, left,
    right, whole, Shape.Fits, forall_exists_index, forall_eq_apply_imp_iff]
  intros
  rintro _ ⟨⟩
  simp [buildPhrase, plainPhrase?, operandPhrase?, statementPhrase?,
    conditionalPhrase?, parameterPhrase?, Phrase.mapLines, Expression.mapLines,
    Shape.Fits]

/-- Every rule of the grammar builds the same phrase on other lines. -/
theorem follows_of_mem
    {rule : Rule}
    (member : rule ∈ Rule.all) :
    rule.Follows move := by
  by_cases plain : rule.canFail = false
  · simp only [Rule.all, List.append_assoc, List.mem_append, List.mem_map] at member
    obtain ⟨⟨upper, lower⟩, isChain, rfl⟩ | ⟨spelling, -, rfl⟩ | member := member
    · exact follows_chain (chain_shape _ isChain)
    · exact follows_binary spelling
    · apply follows_of_plain _ plain
      simp only [List.mem_append]
      tauto
  · cases rule with
    | number =>
        exact follows_number
    | forRange step named =>
        apply follows_loop
        cases step <;> cases named <;> decide
    | forEach named =>
        apply follows_loop
        cases named <;> decide
    | function opening given closing =>
        exact follows_function opening closing given
    | _ =>
        exact absurd rfl plain

end GridScript.Script
