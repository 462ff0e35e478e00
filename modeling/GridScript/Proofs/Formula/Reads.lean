import GridScript.Formula.Evaluation
import Mathlib.Data.List.Forall2

namespace GridScript.Formula

/-!
# What a formula reads

The value of an expression depends on the answers to the references that it
lists and on the values of the names that it lists, and on nothing else. A
failure may be worded differently, because it names what else there is, but it
keeps its kind and its tag. So the conditional functions, which look at the tag
of a failed argument, cannot tell two such failures apart.
-/

/-- Equal values, or failures of one kind with one tag. -/
inductive SameAnswer
    {α : Type} : Outcome EvalError α → Outcome EvalError α → Prop where
  | value (a : α) : SameAnswer (.ok a) (.ok a)
  | failure
      {e e' : EvalError}
      (kind : e.kindText = e'.kindText)
      (tag : e.tag = e'.tag) :
      SameAnswer (fail e) (fail e')
  | breach (b : Breach) : SameAnswer (breach b) (breach b)

namespace SameAnswer

theorem refl (answer : Outcome EvalError α) : SameAnswer answer answer := by
  cases answer with
  | ok a =>
      exact .value a
  | error failure =>
      cases failure with
      | error e =>
          exact .failure rfl rfl
      | breach b =>
          exact .breach b

/-- The same is done with the same values, and failures pass through. -/
theorem bind
    {answer answer' : Outcome EvalError α}
    {next next' : α → Outcome EvalError β}
    (same : SameAnswer answer answer')
    (nextSame : ∀ a, SameAnswer (next a) (next' a)) :
    SameAnswer (answer >>= next) (answer' >>= next') := by
  cases same with
  | value a =>
      exact nextSame a
  | failure kind tag =>
      exact .failure kind tag
  | breach b =>
      exact .breach b

/-- Arguments with the same answers have the same values, or fail in the same
way. -/
theorem mapM_id
    {answers answers' : List (Outcome EvalError α)}
    (same : List.Forall₂ SameAnswer answers answers') :
    SameAnswer (answers.mapM id) (answers'.mapM id) := by
  induction same with
  | nil =>
      exact .refl _
  | cons first _ inductionHypothesis =>
      rw [List.mapM_cons, List.mapM_cons]
      exact first.bind fun a => inductionHypothesis.bind fun as => .refl _

/-- The same answers have errors at the same places. -/
theorem isSome_evalError
    {answer answer' : Evaluated}
    (same : SameAnswer answer answer') :
    (evalError? answer).isSome = (evalError? answer').isSome := by
  cases same <;> rfl

/-- What is not available in one answer is not available in the other. -/
theorem isMissing
    {answer answer' : Evaluated}
    (same : SameAnswer answer answer') :
    isMissing answer = isMissing answer' := by
  cases same with
  | failure kind tag =>
      simp [Formula.isMissing, evalError?, fail, tag]
  | value a =>
      rfl
  | breach b =>
      rfl

theorem inquire
    {holds : Evaluated → Bool}
    {answer answer' : Evaluated}
    (same : SameAnswer answer answer')
    (holdsSame : holds answer = holds answer') :
    SameAnswer (inquire holds answer) (inquire holds answer') := by
  cases same with
  | value a =>
      exact .refl _
  | failure kind tag =>
      simp only [Formula.inquire, fail] at holdsSame ⊢
      rw [holdsSame]
      exact .refl _
  | breach b =>
      exact .breach b

/-- The conditional functions choose the same among the same answers. -/
theorem conditional?
    (function : Function)
    {answers answers' : List Evaluated}
    (same : List.Forall₂ SameAnswer answers answers') :
    SameAnswer ((conditional? function answers).getD (.ok .null))
      ((conditional? function answers').getD (.ok .null)) := by
  cases same with
  | nil =>
      cases function <;> exact .refl _
  | cons first rest =>
      cases rest with
      | nil =>
          cases function with
          | isError =>
              exact first.inquire first.isSome_evalError
          | isNotAvailable =>
              exact first.inquire first.isMissing
          | _ =>
              exact .refl _
      | cons second rest =>
          cases function with
          | conditional =>
              refine first.bind fun condition => ?_
              split
              · exact second
              · cases rest with
                | nil =>
                    exact .refl _
                | cons third _ =>
                    exact third
          | ifError =>
              cases rest with
              | nil =>
                  simp only [Formula.conditional?, Option.getD_some,
                    first.isSome_evalError]
                  split
                  · exact second
                  · exact first
              | cons _ _ =>
                  exact .refl _
          | ifNotAvailable =>
              cases rest with
              | nil =>
                  simp only [Formula.conditional?, Option.getD_some,
                    first.isMissing]
                  split
                  · exact second
                  · exact first
              | cons _ _ =>
                  exact .refl _
          | _ =>
              exact .refl _

/-- A function gives the same answer on the same answers of its arguments. -/
theorem applyFunction
    (function : Function)
    {answers answers' : List Evaluated}
    (same : List.Forall₂ SameAnswer answers answers') :
    SameAnswer (applyFunction function answers)
      (applyFunction function answers') := by
  unfold Formula.applyFunction
  split
  · rw [same.length_eq]
    exact (refl _).bind fun _ => conditional? function same
  · exact (mapM_id same).bind fun given => refl _

end SameAnswer

/-- A function that takes values is applied to the values of its arguments. -/
theorem evaluate_call_eager
    {context : Context}
    {resolve : Resolver}
    {name : String}
    (function : Function)
    {arguments : List Expression}
    {values : List Value}
    (named : Function.ofName? name = some function)
    (eager : function.isConditional = false)
    (plain : function.isAggregate = false)
    (accepts : function.arity.accepts values.length = true)
    (given :
      List.Forall₂ (fun e v => e.evaluate context resolve = .ok v) arguments
        values) :
    (Expression.call name arguments).evaluate context resolve =
      applyEager function values := by
  have answers :
      (Expression.evaluateAll context resolve arguments).mapM id = .ok values := by
    clear accepts
    induction given with
    | nil =>
        rfl
    | cons value _ inductionHypothesis =>
        rw [Expression.evaluateAll, List.mapM_cons, inductionHypothesis, value]
        rfl
  have accepted : checkCount function values.length = .ok () := if_pos accepts
  simp only [Expression.evaluate, named, applyFunction, eager, plain, answers,
    Bool.false_eq_true, if_false]
  show (checkCount function values.length >>= fun _ => applyEager function values) =
    _
  rw [accepted]
  rfl

/-- Two contexts agree on a name: they give it the same value, or neither has it. -/
def Context.AgreeOn (context context' : Context) (name : String) : Prop :=
  context.lookup name = context'.lookup name

/-- A name has the same value in contexts that agree on it, or is unknown in
both. -/
theorem sameAnswer_lookupName
    {context context' : Context}
    {name : String}
    (agree : context.AgreeOn context' name) :
    SameAnswer (lookupName context name) (lookupName context' name) := by
  unfold lookupName
  rw [agree]
  cases context'.lookup name with
  | some v =>
      exact .value v
  | none =>
      exact .failure rfl rfl

namespace Expression

mutual

/-- The names and references in an expression decide its value. -/
theorem sameAnswer_evaluate
    {context context' : Context}
    {resolve resolve' : Resolver}
    (e : Expression)
    (names : ∀ name ∈ e.allNames, context.AgreeOn context' name)
    (references : ∀ r ∈ e.allReferences, SameAnswer (resolve r) (resolve' r)) :
    SameAnswer (e.evaluate context resolve) (e.evaluate context' resolve') := by
  cases e with
  | literal l =>
      exact .refl _
  | reference r =>
      exact references r (by simp [allReferences])
  | name n =>
      exact sameAnswer_lookupName (names n (by simp [allNames]))
  | signed sign operand =>
      exact (sameAnswer_evaluate operand names references).bind fun v => .refl _
  | binary operator left right =>
      simp only [allNames, allReferences, List.mem_append] at names references
      have leftSame :=
        sameAnswer_evaluate left (fun n member => names n (.inl member))
        fun r member => references r (.inl member)
      have rightSame :=
        sameAnswer_evaluate right (fun n member => names n (.inr member))
        fun r member => references r (.inr member)
      exact leftSame.bind fun l => rightSame.bind fun r => .refl _
  | call function arguments =>
      have argumentsSame := sameAnswer_evaluateAll arguments names references
      simp only [evaluate]
      split
      · exact .applyFunction _ argumentsSame
      · exact .refl _

theorem sameAnswer_evaluateAll
    {context context' : Context}
    {resolve resolve' : Resolver}
    (arguments : List Expression)
    (names : ∀ name ∈ allNamesOf arguments, context.AgreeOn context' name)
    (references :
      ∀ r ∈ allReferencesOf arguments, SameAnswer (resolve r) (resolve' r)) :
    List.Forall₂ SameAnswer (evaluateAll context resolve arguments)
      (evaluateAll context' resolve' arguments) := by
  cases arguments with
  | nil =>
      exact .nil
  | cons first rest =>
      simp only [allNamesOf, allReferencesOf, List.mem_append] at names references
      exact .cons
        (sameAnswer_evaluate first (fun n member => names n (.inl member))
          fun r member => references r (.inl member))
        (sameAnswer_evaluateAll rest (fun n member => names n (.inr member))
          fun r member => references r (.inr member))

end

/-- The listed names are those in the expression. -/
theorem mem_names
    {e : Expression}
    {name : String} :
    name ∈ e.names ↔ name ∈ e.allNames := by
  simp [names]

/-- The listed texts are those of the references in the expression. -/
theorem mem_references
    {e : Expression}
    {text : String} :
    text ∈ e.references ↔ ∃ r ∈ e.allReferences, r.text = text := by
  simp [references]

/--
An expression reads only what it lists.

Let two contexts agree on every listed name, and two resolvers answer alike
every reference with a listed text. Then the expression has the same value
against both, or fails against both with one kind of failure and one tag.
-/
theorem evaluate_reads_listed
    {context context' : Context}
    {resolve resolve' : Resolver}
    (e : Expression)
    (names : ∀ name ∈ e.names, context.AgreeOn context' name)
    (references :
      ∀ r : Reference, r.text ∈ e.references →
        SameAnswer (resolve r) (resolve' r)) :
    SameAnswer (e.evaluate context resolve) (e.evaluate context' resolve') :=
  sameAnswer_evaluate e (fun name member => names name (mem_names.mpr member))
    fun r member => references r (mem_references.mpr ⟨r, member, rfl⟩)

/-- A quotient by a name, and a range to fall back on. -/
def guardedQuotient : Expression :=
  .call "IFERROR"
    [.binary .div (.reference (.cell none "A1")) (.name "rate"),
      .reference (.range (some "Data") "B1" "B2")]

/-- A resolver that knows the cell `A1` and words its failures in its own way. -/
def knowsOneCell (known : List String) : Resolver := fun r =>
  if r.text = "A1" then .ok (.int 6) else fail (.unknownReference r.text known)

/-- Both contexts give the rate as zero, so that the quotient fails and
the range is read. -/
theorem evaluate_reads_listed_guardedQuotient :
    (∀ name ∈ guardedQuotient.names,
      Context.AgreeOn [("rate", .int 0), ("tax", .int 1)] [("rate", .int 0)] name) ∧
    (∀ r : Reference, r.text ∈ guardedQuotient.references →
      SameAnswer (knowsOneCell ["tax"] r) (knowsOneCell [] r)) ∧
    SameAnswer
      (guardedQuotient.evaluate [("rate", .int 0), ("tax", .int 1)]
        (knowsOneCell ["tax"]))
      (guardedQuotient.evaluate [("rate", .int 0)] (knowsOneCell [])) := by
  have names :
      ∀ name ∈ guardedQuotient.names,
        Context.AgreeOn [("rate", .int 0), ("tax", .int 1)] [("rate", .int 0)]
          name := by
    intro name member
    have isRate : name = "rate" := by
      simpa [mem_names, guardedQuotient, allNames, allNamesOf] using member
    subst isRate
    rfl
  have references :
      ∀ r : Reference, r.text ∈ guardedQuotient.references →
        SameAnswer (knowsOneCell ["tax"] r) (knowsOneCell [] r) := by
    intro r _
    unfold knowsOneCell
    split
    · exact .refl _
    · exact .failure rfl rfl
  exact ⟨names, references, evaluate_reads_listed guardedQuotient names references⟩

end Expression

end GridScript.Formula
