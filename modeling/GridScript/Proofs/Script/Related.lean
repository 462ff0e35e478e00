import GridScript.Script.Evaluation

namespace GridScript.Script

/-!
# Relations between evaluators

The steps of evaluation and execution take the evaluation of parts as
parameters. Two evaluators whose results on parts are related give related
results on wholes, for every relation between actions that sequences keep.
Properties of one evaluator are relations that look at one side only.
-/

/-- The indexes of an expression are parts of it. -/
theorem Expression.sizeOf_of_mem_spine
    {e part : Expression}
    {outer : List Expression}
    (member : part ∈ (e.spine outer).2) :
    part ∈ outer ∨ sizeOf part < sizeOf e := by
  fun_induction Expression.spine e outer with
  | case1 target index line outer inductionHypothesis =>
      rcases inductionHypothesis member with inOuter | inTarget
      · rcases List.mem_cons.mp inOuter with rfl | inRest
        · right
          simp
          omega
        · exact .inl inRest
      · right
        simp
        omega
  | case2 e outer notIndex =>
      exact .inl member

/-- A relation between actions with results of one type. -/
abbrev ActionRelation := ∀ α : Type, Action α → Action α → Prop

/-- What is done with the current machine does not depend on its functions. -/
def Blind (next : Machine → Action α) : Prop :=
  ∀ machine functions, next { machine with functions := functions } = next machine

/-- Results and failures are related to themselves, and so are sequences of
related actions and looks at the current machine other than at its functions. -/
structure Compositional (P : ActionRelation) : Prop where
  pure : ∀ {α : Type} (a : α), P α (pure a) (pure a)
  fail :
    ∀ {α : Type} (line : Option Nat) (failure : Failure Cause),
      P α (throw (.ofFailure line failure)) (throw (.ofFailure line failure))
  look :
    ∀ {α : Type} {next next' : Machine → Action α},
      Blind next → Blind next' → (∀ machine, P α (next machine) (next' machine)) →
        P α (get >>= next) (get >>= next')
  bind :
    ∀ {α β : Type} {first first' : Action α} {next next' : α → Action β},
      P α first first' → (∀ a, P β (next a) (next' a)) →
        P β (first >>= next) (first' >>= next')

namespace Compositional

open GridScript.Script.Action

variable {P : ActionRelation} (compositional : Compositional P)

include compositional

theorem map
    {action action' : Action α}
    (related : P α action action')
    (f : α → β) :
    P β (f <$> action) (f <$> action') := by
  rw [← bind_pure_comp, ← bind_pure_comp]
  exact compositional.bind related fun a => compositional.pure (f a)

theorem mapM
    {f f' : α → Action β}
    (items : List α)
    (related : ∀ a ∈ items, P β (f a) (f' a)) :
    P (List β) (items.mapM f) (items.mapM f') := by
  induction items with
  | nil =>
      exact compositional.pure []
  | cons first rest inductionHypothesis =>
      rw [List.mapM_cons, List.mapM_cons]
      have restRelated :=
        inductionHypothesis fun a member => related a (by simp [member])
      exact compositional.bind (related first (by simp)) fun b =>
        compositional.bind restRelated fun bs => compositional.pure (b :: bs)

theorem forM
    {f f' : α → Action PUnit}
    (items : List α)
    (related : ∀ a ∈ items, P PUnit (f a) (f' a)) :
    P PUnit (items.forM f) (items.forM f') := by
  induction items with
  | nil =>
      exact compositional.pure PUnit.unit
  | cons first rest inductionHypothesis =>
      have restRelated :=
        inductionHypothesis fun a member => related a (by simp [member])
      exact compositional.bind (related first (by simp)) fun _ => restRelated

theorem stop (cause : Cause) (line : Option Nat) :
    P α (stop cause line) (stop cause line) :=
  compositional.fail line (.error cause)

theorem ofAttempt (line : Option Nat) (result : Attempt α) :
    P α (ofAttempt line result) (ofAttempt line result) := by
  cases result with
  | ok a =>
      exact compositional.pure a
  | error failure =>
      exact compositional.fail line failure

theorem readVariable (name : String) (line : Nat) :
    P Value (readVariable name line) (readVariable name line) := by
  refine compositional.look (fun _ _ => rfl) (fun _ _ => rfl) fun machine => ?_
  split
  · exact compositional.pure _
  · exact compositional.stop _ _

theorem readPlace (name : String) (path : List Value) (line : Nat) :
    P Value (readPlace name path line) (readPlace name path line) :=
  compositional.bind (compositional.readVariable name line) fun _ =>
    compositional.ofAttempt _ _

theorem heldAfterWrite
    (name : String)
    (path : List Value)
    (v : Value)
    (line : Nat) :
    P Value (heldAfterWrite name path v line)
      (heldAfterWrite name path v line) := by
  unfold Action.heldAfterWrite
  split
  · exact compositional.pure v
  · exact compositional.bind (compositional.readVariable name line) fun held =>
      compositional.ofAttempt _ _

theorem writePlace
    (name : String)
    (assigned :
      ∀ written,
        P Unit (changeEnv (·.assign name written))
          (changeEnv (·.assign name written)))
    (path : List Value)
    (v : Value)
    (line : Nat) :
    P Unit (writePlace name path v line) (writePlace name path v line) :=
  compositional.bind (compositional.heldAfterWrite name path v line) assigned

theorem countIteration (number line : Nat) :
    P Unit (countIteration number line) (countIteration number line) := by
  refine compositional.look (fun _ _ => rfl) (fun _ _ => rfl) fun machine => ?_
  split
  · split
    · exact compositional.stop _ _
    · exact compositional.pure _
  · exact compositional.pure _

theorem admitCall (definition : Definition) (count line : Nat) :
    P Unit (admitCall definition count line) (admitCall definition count line) := by
  refine compositional.look (fun _ _ => rfl) (fun _ _ => rfl) fun machine => ?_
  split
  · exact compositional.stop _ _
  · split
    · exact compositional.stop _ _
    · exact compositional.pure _

theorem resultOfBody (completion : Completion) :
    P Value (resultOfBody completion) (resultOfBody completion) := by
  cases completion with
  | normal =>
      exact compositional.pure _
  | giveBack v =>
      exact compositional.pure v
  | exit kind line =>
      exact compositional.stop _ _

/-- Where a relation lets any look at the machine go on, functions are
called alike by name. -/
theorem dispatch
    {ofDefinition ofDefinition' : Definition → Action Value}
    {ofBuiltin ofBuiltin' : Builtin → Action Value}
    (looks :
      ∀ {next next' : Machine → Action Value},
        (∀ machine, P Value (next machine) (next' machine)) →
          P Value (get >>= next) (get >>= next'))
    (definitions :
      ∀ definition, P Value (ofDefinition definition) (ofDefinition' definition))
    (builtins : ∀ builtin, P Value (ofBuiltin builtin) (ofBuiltin' builtin))
    {name : String}
    {line : Nat} :
    P Value (dispatch name line ofDefinition ofBuiltin)
      (dispatch name line ofDefinition' ofBuiltin') := by
  refine looks fun machine => ?_
  cases machine.function? name with
  | some definition =>
      exact definitions definition
  | none =>
      cases lookupBuiltin? name with
      | some builtin =>
          exact builtins builtin
      | none =>
          exact compositional.stop _ _

theorem insideFunction
    {action action' : Action α}
    (fault : RuntimeFault)
    (line : Nat)
    (related : P α action action') :
    P α (insideFunction fault line action) (insideFunction fault line action') := by
  refine compositional.look (fun _ _ => rfl) (fun _ _ => rfl) fun machine => ?_
  split
  · exact compositional.stop _ _
  · exact related

theorem runAll
    {run run' : Statement → Action Completion}
    (statements : List Statement)
    (related :
      ∀ statement ∈ statements, P Completion (run statement) (run' statement)) :
    P Completion (runAll run statements) (runAll run' statements) := by
  induction statements with
  | nil =>
      exact compositional.pure _
  | cons statement rest inductionHypothesis =>
      have restRelated :=
        inductionHypothesis fun later member => related later (by simp [member])
      refine compositional.bind (related statement (by simp)) fun completion => ?_
      split
      · exact restRelated
      · exact compositional.pure _

theorem runStatements
    {run run' : Statement → Action Completion}
    {statements : List Statement}
    (executes :
      ∀ statement ∈ statements, P Completion (run statement) (run' statement)) :
    P Unit (runStatements run statements) (runStatements run' statements) := by
  refine compositional.bind (compositional.runAll statements executes)
    fun completion => ?_
  split
  · exact compositional.stop _ _
  · exact compositional.pure ()

/-- Runs of a program are related if its functions and its statements are. -/
theorem runBy
    {run run' : Statement → Action Completion}
    {program : Program}
    (defines :
      ∀ entry ∈ program.functions,
        P PUnit (modify (·.define entry.2)) (modify (·.define entry.2)))
    (executes :
      ∀ statement ∈ program.statements,
        P Completion (run statement) (run' statement)) :
    P Unit (program.runBy run) (program.runBy run') :=
  compositional.bind (compositional.forM program.functions defines) fun _ =>
    compositional.runStatements executes

section Parts

variable
  {evaluate evaluate' evaluateDefault evaluateDefault' : Expression → Action Value}

theorem evaluateOr
    (otherwise : Value)
    {e : Option Expression}
    (evaluates : ∀ part, e = some part → P Value (evaluate part) (evaluate' part)) :
    P Value (evaluateOr otherwise evaluate e)
      (evaluateOr otherwise evaluate' e) := by
  cases e with
  | none =>
      exact compositional.pure _
  | some e =>
      exact evaluates e rfl

theorem evaluatePlace
    {argument : Expression}
    (evaluates :
      ∀ part, sizeOf part ≤ sizeOf argument →
        P Value (evaluate part) (evaluate' part)) :
    P (String × List Value) (evaluatePlace evaluate argument)
      (evaluatePlace evaluate' argument) := by
  unfold Action.evaluatePlace
  split
  · rename_i name line indexes spine
    refine compositional.map (compositional.mapM indexes fun i member => ?_) _
    have inSpine : i ∈ (argument.spine []).2 := by
      rw [spine]
      exact member
    rcases Expression.sizeOf_of_mem_spine inSpine with inNone | isPart
    · cases inNone
    · exact evaluates i (Nat.le_of_lt isPart)
  · exact compositional.stop _ _

theorem bindArgument
    (parameter : Parameter)
    {argument : Expression}
    (evaluates :
      ∀ part, sizeOf part ≤ sizeOf argument →
        P Value (evaluate part) (evaluate' part))
    (binding : Binding) :
    P Binding (bindArgument evaluate parameter argument binding)
      (bindArgument evaluate' parameter argument binding) := by
  unfold Action.bindArgument
  split
  · exact compositional.bind (compositional.evaluatePlace evaluates) fun place =>
      compositional.bind (compositional.readPlace _ _ _) fun v =>
        compositional.pure _
  · exact compositional.bind (evaluates argument (Nat.le_refl _)) fun v =>
      compositional.pure _

theorem defaultValue
    {parameter : Parameter}
    (evaluates :
      ∀ e, parameter.default = some e →
        P Value (evaluateDefault e) (evaluateDefault' e)) :
    P Value (defaultValue evaluateDefault parameter)
      (defaultValue evaluateDefault' parameter) := by
  unfold Action.defaultValue
  split
  · rename_i e held
    exact evaluates e held
  · exact compositional.pure _

theorem bindAll
    {parameters : List Parameter}
    {arguments : List Expression}
    (evaluates :
      ∀ argument ∈ arguments, ∀ part, sizeOf part ≤ sizeOf argument →
        P Value (evaluate part) (evaluate' part))
    (evaluatesDefaults :
      ∀ parameter ∈ parameters, ∀ e, parameter.default = some e →
        P Value (evaluateDefault e) (evaluateDefault' e))
    (binding : Binding) :
    P Binding (bindAll evaluate evaluateDefault parameters arguments binding)
      (bindAll evaluate' evaluateDefault' parameters arguments binding) := by
  induction parameters generalizing arguments binding with
  | nil =>
      exact compositional.pure binding
  | cons parameter parameters inductionHypothesis =>
      have restDefaults :
          ∀ later ∈ parameters, ∀ e, later.default = some e →
            P Value (evaluateDefault e) (evaluateDefault' e) :=
        fun later member => evaluatesDefaults later (by simp [member])
      unfold Action.bindAll
      split
      · refine compositional.bind
          (compositional.mapM arguments fun argument member => ?_)
          fun items => compositional.pure _
        exact evaluates argument member argument (Nat.le_refl _)
      · split
        · exact compositional.bind
            (compositional.defaultValue (evaluatesDefaults parameter (by simp)))
            fun v =>
              inductionHypothesis evaluates restDefaults _
        · rename_i argument rest
          exact compositional.bind
            (compositional.bindArgument parameter (evaluates argument (by simp))
              binding)
              fun bound =>
                inductionHypothesis
                  (fun later member => evaluates later (by simp [member]))
                  restDefaults _

variable {execute execute' : Statement → Action Completion}

theorem evaluateStep
    {e : Expression}
    (evaluates :
      ∀ part, sizeOf part < sizeOf e → P Value (evaluate part) (evaluate' part))
    (calls :
      ∀ name arguments line, e = .call name arguments line →
        P Value (callNamed evaluate evaluateDefault execute name arguments line)
          (callNamed evaluate' evaluateDefault' execute' name arguments line)) :
    P Value (evaluateStep evaluate evaluateDefault execute e)
      (evaluateStep evaluate' evaluateDefault' execute' e) := by
  have truthRelated (condition : Expression)
      (isPart : sizeOf condition < sizeOf e) :
      P Bool (truth evaluate condition) (truth evaluate' condition) :=
    compositional.map (evaluates condition isPart) _
  cases e with
  | literal literal line =>
      exact compositional.pure _
  | name name line =>
      exact compositional.readVariable name line
  | unary operator operand line =>
      exact compositional.bind (evaluates operand (by simp; omega)) fun v =>
        compositional.ofAttempt _ _
  | binary operator left right line =>
      have leftIsPart :
          sizeOf left < sizeOf (Expression.binary operator left right line) := by
        simp
        omega
      have rightIsPart :
          sizeOf right < sizeOf (Expression.binary operator left right line) := by
        simp
        omega
      cases operator with
      | disjunction =>
          refine compositional.bind (truthRelated left leftIsPart) fun holds => ?_
          split
          · exact compositional.pure _
          · exact compositional.bind (truthRelated right rightIsPart) fun _ =>
              compositional.pure _
      | conjunction =>
          refine compositional.bind (truthRelated left leftIsPart) fun holds => ?_
          split
          · exact compositional.bind (truthRelated right rightIsPart) fun _ =>
              compositional.pure _
          · exact compositional.pure _
      | apply operator =>
          exact compositional.bind (evaluates left leftIsPart) fun l =>
            compositional.bind (evaluates right rightIsPart) fun r =>
              compositional.ofAttempt _ _
  | call name arguments line =>
      exact calls name arguments line rfl
  | index target index line =>
      exact compositional.bind (evaluates target (by simp; omega)) fun container =>
        compositional.bind (evaluates index (by simp; omega)) fun i =>
          compositional.look (fun _ _ => rfl) (fun _ _ => rfl) fun machine =>
            compositional.ofAttempt _ _
  | array items line =>
      refine compositional.bind (compositional.mapM items fun item member => ?_)
        fun values =>
          compositional.pure _
      have smaller := List.sizeOf_lt_of_mem member
      exact evaluates item (by simp; omega)

end Parts

end Compositional

/-- The statement runs blocks of statements in scopes of their own. -/
def Statement.hasBlocks : Statement → Bool
  | conditional .. => true
  | forRange .. => true
  | forEach .. => true
  | whileLoop .. => true
  | _ => false

/-- What relations for evaluation and for execution keep: blocks turn the
relation for execution into the one for evaluation. -/
structure Disciplined (P Q : ActionRelation) : Prop where
  expressions : Compositional P
  statements : Compositional Q
  weaken : ∀ {α : Type} {action action' : Action α}, P α action action' →
    Q α action action'
  inScope :
    ∀ {α : Type} {action action' : Action α},
      Q α action action' → P α (Action.inScope action) (Action.inScope action')
  declare :
    ∀ name v,
      Q Unit (Action.changeEnv (·.declare name v))
        (Action.changeEnv (·.declare name v))
  assign :
    ∀ name v,
      Q Unit (Action.changeEnv (·.assign name v))
        (Action.changeEnv (·.assign name v))

namespace Disciplined

open GridScript.Script.Action

variable {P Q : ActionRelation} (disciplined : Disciplined P Q)

include disciplined

theorem iterate
    {body body' : Action Completion}
    (related : Q Completion body body')
    (kind : ExitKind)
    (number line : Nat)
    (bindings : Scope) :
    Q (Option Completion) (iterate kind number line bindings body)
      (iterate kind number line bindings body') := by
  have compositional := disciplined.statements
  refine compositional.bind (compositional.countIteration number line) fun _ => ?_
  refine compositional.bind
    (compositional.forM bindings fun entry _ => disciplined.declare entry.1 entry.2)
    fun _ => ?_
  exact compositional.bind related fun completion => compositional.pure _

theorem runEach
    {body body' : Action Completion}
    (related : Q Completion body body')
    (name : String)
    (line number : Nat)
    (items : List Value) :
    Q Completion (runEach name line body number items)
      (runEach name line body' number items) := by
  have compositional := disciplined.statements
  induction items generalizing number with
  | nil =>
      exact compositional.pure _
  | cons v rest inductionHypothesis =>
      refine compositional.bind (disciplined.iterate related _ _ _ _)
        fun ended => ?_
      split
      · exact inductionHypothesis _
      · exact compositional.pure _

section Loops

variable {body body' : Action Completion}

variable
  (exhausted : Q Completion (throw .exhausted) (throw .exhausted))
  (related : Q Completion body body')

include exhausted related

/-- Counting loops with the same bound on iterations are related
if their bodies are. -/
theorem runRange
    (name : String)
    (line : Nat)
    (p : Progression)
    (fuel count : Nat) :
    Q Completion (runRange name line p body fuel count)
      (runRange name line p body' fuel count) := by
  have compositional := disciplined.statements
  induction fuel generalizing count with
  | zero =>
      exact exhausted
  | succ fuel inductionHypothesis =>
      refine compositional.bind (compositional.ofAttempt _ _) fun v => ?_
      split
      · exact compositional.pure _
      · refine compositional.bind (disciplined.iterate related _ _ _ _)
          fun ended => ?_
        split
        · exact inductionHypothesis _
        · exact compositional.pure _

/-- Loops with a condition and the same bound on iterations are related
if their parts are. -/
theorem runWhile
    {condition condition' : Action Value}
    (tests : P Value condition condition')
    (line fuel count : Nat) :
    Q Completion (runWhile line condition body fuel count)
      (runWhile line condition' body' fuel count) := by
  have compositional := disciplined.statements
  induction fuel generalizing count with
  | zero =>
      exact exhausted
  | succ fuel inductionHypothesis =>
      refine compositional.bind (disciplined.weaken tests) fun v => ?_
      split
      · refine compositional.bind (disciplined.iterate related _ _ _ _)
          fun ended => ?_
        split
        · exact inductionHypothesis _
        · exact compositional.pure _
      · exact compositional.pure _

end Loops

section Parts

variable
  {evaluate evaluate' : Expression → Action Value}
  {execute execute' : Statement → Action Completion}

theorem runBranches
    {branches : List (Expression × List Statement)}
    {otherwise : Option (List Statement)}
    (evaluates :
      ∀ branch ∈ branches, P Value (evaluate branch.1) (evaluate' branch.1))
    (executes :
      ∀ body, body ∈ branches.map Prod.snd ∨ otherwise = some body →
        Q Completion (runAll execute body) (runAll execute' body)) :
    P Completion (runBranches evaluate execute branches otherwise)
      (runBranches evaluate' execute' branches otherwise) := by
  have compositional := disciplined.expressions
  induction branches with
  | nil =>
      cases otherwise with
      | none =>
          exact compositional.pure _
      | some body =>
          exact disciplined.inScope (executes body (.inr rfl))
  | cons branch rest inductionHypothesis =>
      have tested := compositional.map (evaluates branch (by simp)) Value.isTruthy
      refine compositional.bind tested fun holds => ?_
      split
      · exact disciplined.inScope (executes branch.2 (by simp))
      · refine inductionHypothesis
          (fun later member => evaluates later (by simp [member])) ?_
        intro body isBody
        apply executes
        rcases isBody with inRest | isLast
        · exact .inl (by simp [inRest])
        · exact .inr isLast

variable
  {statement : Statement}
  {iterations iterations' : Nat}
  (evaluates :
    ∀ part, sizeOf part < sizeOf statement →
      P Value (evaluate part) (evaluate' part))
  (executes :
    ∀ part, sizeOf part < sizeOf statement →
      Q Completion (execute part) (execute' part))
  (ranges :
    ∀ {body body' : Action Completion} name line p, Q Completion body body' →
      Q Completion (Action.runRange name line p body iterations 0)
        (Action.runRange name line p body' iterations' 0))
  (whiles :
    ∀ {condition condition' : Action Value} {body body' : Action Completion} line,
      P Value condition condition' → Q Completion body body' →
        Q Completion (Action.runWhile line condition body iterations 0)
          (Action.runWhile line condition' body' iterations' 0))

include evaluates executes ranges whiles in
theorem executeBlocks (blocks : statement.hasBlocks = true) :
    P Completion (executeStep evaluate execute iterations statement)
      (executeStep evaluate' execute' iterations' statement) := by
  have compositional := disciplined.expressions
  have runsAll (body : List Statement) (isPart : sizeOf body < sizeOf statement) :
      Q Completion (runAll execute body) (runAll execute' body) :=
    disciplined.statements.runAll body fun part member =>
      executes part (Nat.lt_trans (List.sizeOf_lt_of_mem member) isPart)
  cases statement with
  | conditional branches otherwise line =>
      refine disciplined.runBranches (fun branch member => evaluates _ ?_)
        fun body isBody =>
          runsAll body ?_
      · rcases branch with ⟨condition, body⟩
        have smaller := List.sizeOf_lt_of_mem member
        simp at smaller ⊢
        omega
      · rcases isBody with inBranches | rfl
        · obtain ⟨⟨condition, held⟩, member, rfl⟩ := List.mem_map.mp inBranches
          have smaller := List.sizeOf_lt_of_mem member
          simp at smaller ⊢
          omega
        · simp
          omega
  | forRange name start finish step body line =>
      have sizes :
          ∀ part, step = some part →
            P Value (evaluate part) (evaluate' part) := by
        intro part held
        exact evaluates part (by simp [held]; omega)
      refine compositional.bind (evaluates start (by simp; omega)) fun first =>
        compositional.bind (evaluates finish (by simp; omega)) fun last =>
          compositional.bind (compositional.evaluateOr _ sizes) fun size =>
            compositional.bind (compositional.ofAttempt _ _) fun p => ?_
      exact disciplined.inScope (ranges name line p (runsAll body (by simp; omega)))
  | forEach name collection body line =>
      refine compositional.bind (evaluates collection (by simp; omega)) fun held =>
        compositional.look (fun _ _ => rfl) (fun _ _ => rfl) fun machine =>
          compositional.bind (compositional.ofAttempt _ _) fun items => ?_
      exact disciplined.inScope
        (disciplined.runEach (runsAll body (by simp; omega)) name line 1 items)
  | whileLoop condition body line =>
      have tests := evaluates condition (by simp; omega)
      exact disciplined.inScope (whiles line tests (runsAll body (by simp; omega)))
  | _ =>
      cases blocks

include evaluates executes ranges whiles in
theorem executeStep
    (defines :
      ∀ definition, statement.definition? = some definition →
        Q PUnit (modify (·.define definition)) (modify (·.define definition))) :
    Q Completion (executeStep evaluate execute iterations statement)
      (executeStep evaluate' execute' iterations' statement) := by
  by_cases blocks : statement.hasBlocks = true
  · exact disciplined.weaken
      (disciplined.executeBlocks evaluates executes ranges whiles blocks)
  have compositional := disciplined.statements
  have evaluatesHere (part : Expression) (isPart : sizeOf part < sizeOf statement) :
      Q Value (evaluate part) (evaluate' part) :=
    disciplined.weaken (evaluates part isPart)
  cases statement with
  | dim name value line =>
      have values :
          ∀ part, value = some part → Q Value (evaluate part) (evaluate' part) := by
        intro part held
        exact evaluatesHere part (by simp [held]; omega)
      exact compositional.bind (compositional.evaluateOr .null values) fun v =>
        compositional.bind (disciplined.declare name v) fun _ =>
          compositional.pure _
  | assign target value line =>
      rcases target with ⟨name, indexes, targetLine⟩
      have indexed :
          ∀ i ∈ indexes, Q Value (evaluate i) (evaluate' i) := by
        intro i member
        have smaller := List.sizeOf_lt_of_mem member
        exact evaluatesHere i (by simp; omega)
      exact compositional.bind (compositional.mapM indexes indexed) fun path =>
        compositional.bind (evaluatesHere value (by simp; omega)) fun v =>
          compositional.bind
            (compositional.writePlace name (disciplined.assign name) path v line)
            fun _ =>
              compositional.pure _
  | define name parameters body line =>
      exact compositional.bind (defines _ rfl) fun _ => compositional.pure _
  | giveBack value line =>
      have values :
          ∀ part, value = some part → Q Value (evaluate part) (evaluate' part) := by
        intro part held
        exact evaluatesHere part (by simp [held]; omega)
      exact compositional.insideFunction _ _
        (compositional.bind (compositional.evaluateOr .null values) fun v =>
          compositional.pure _)
  | exit kind line =>
      cases kind with
      | function =>
          exact compositional.insideFunction _ _ (compositional.pure _)
      | forLoop =>
          exact compositional.pure _
      | whileLoop =>
          exact compositional.pure _
  | evaluate call line =>
      exact compositional.bind (evaluatesHere call (by simp; omega)) fun _ =>
        compositional.pure _
  | _ =>
      exact (blocks rfl).elim

end Parts

end Disciplined

end GridScript.Script
