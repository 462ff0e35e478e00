import GridScript.Script.Evaluation
import GridScript.Proofs.Change

namespace GridScript

/-!
# What scripts and formulas share

Constants, names, the minus sign and the operators other than `mod` can be
written in both languages. Formulas look at operands before they apply an
operator: they fill blanks, refuse ranges, and refuse a zero divisor and a
sign of what is no number. Between operands that are neither blank nor arrays,
the first two checks pass, and what the others refuse fails in scripts as
well. The operators give such operands again, so that both languages agree on
whole expressions.
-/

/-- A value that stands beside an operator in either language: not
blank and no array. -/
structure Value.IsOperand (v : Value) : Prop where
  notNull : v ≠ .null
  notArray : v.isArray = false

namespace Value.IsOperand

theorem bool (b : Bool) : (Value.bool b).IsOperand :=
  ⟨nofun, rfl⟩

theorem int (i : Int) : (Value.int i).IsOperand :=
  ⟨nofun, rfl⟩

theorem float (x : Float) : (Value.float x).IsOperand :=
  ⟨nofun, rfl⟩

theorem string (s : String) : (Value.string s).IsOperand :=
  ⟨nofun, rfl⟩

/-- The constants other than null are operands. -/
theorem literal
    {l : Literal}
    (notNull : l ≠ .null) :
    l.value.IsOperand := by
  cases l with
  | null =>
      exact absurd rfl notNull
  | bool b =>
      exact .bool b
  | int i =>
      exact .int i
  | float x =>
      exact .float x
  | string s =>
      exact .string s

end Value.IsOperand

/-- A result that, if it is a value at all, is an operand. -/
def GivesOperand (result : Outcome E Value) : Prop :=
  ∀ v, result = .ok v → v.IsOperand

namespace GivesOperand

theorem ok
    {v : Value}
    (operand : v.IsOperand) :
    GivesOperand (.ok v : Outcome E Value) := by
  rintro _ ⟨⟩
  exact operand

theorem error (failure : Failure E) :
    GivesOperand (.error failure : Outcome E Value) :=
  nofun

theorem bind
    {result : Outcome E α}
    {next : α → Outcome E Value}
    (gives : ∀ a, GivesOperand (next a)) :
    GivesOperand (result >>= next) := by
  intro v succeeds
  obtain ⟨a, -, nextGives⟩ := Except.bind_eq_ok succeeds
  exact gives a v nextGives

theorem checkedValue (i : Int) : GivesOperand (checkedValue i) := by
  unfold GridScript.checkedValue checkInt
  split
  · exact ok (.int i)
  · exact error _

theorem arithmetic
    (operator : Operator)
    (onInts : Int → Int → Int)
    (onFloats : Float → Float → Float)
    (left right : Value) :
    GivesOperand (arithmetic operator onInts onFloats left right) := by
  refine bind fun operands => ?_
  split
  · exact checkedValue _
  · exact bind fun x => bind fun y => ok (.float _)

theorem addValues
    {left right : Value}
    (leftOperand : left.IsOperand) :
    GivesOperand (addValues left right) := by
  unfold GridScript.addValues
  split
  · exact ok (.string _)
  · exact ok (.string _)
  · exact absurd leftOperand.notArray nofun
  · exact arithmetic _ _ _ _ _

theorem divideValues (left right : Value) :
    GivesOperand (divideValues left right) := by
  refine bind fun (l, r) => ?_
  cases zero : r.isZero with
  | true =>
      simp only [zero, if_true]
      exact error _
  | false =>
      simp only [zero, Bool.false_eq_true, if_false]
      split
      · exact checkedValue _
      · exact bind fun x => bind fun y => ok (.float _)

theorem moduloValues (left right : Value) :
    GivesOperand (moduloValues left right) := by
  unfold GridScript.moduloValues
  split
  · split
    · exact error _
    · exact ok (.int _)
  · exact error _

/-- A power of floats, if it has a value. -/
theorem powerFloat
    (left right : Except Breach Float)
    (invalid : PowerError → OperationError) :
    GivesOperand
      (match left, right with
      | .ok x, .ok y =>
          match powerFloat x y with
          | .ok z => .ok (.float z)
          | .error reason => fail (invalid reason)
      | _, _ => fail (invalid .operandRange)) := by
  split
  · split
    · exact ok (.float _)
    · exact error _
  · exact error _

theorem powerValues (left right : Value) :
    GivesOperand (powerValues left right) := by
  refine bind fun (l, r) => ?_
  have onFloats := powerFloat l.toFloat r.toFloat fun reason =>
    .computation (.power left.display right.display reason)
  cases l with
  | float x =>
      exact onFloats
  | int a =>
      cases r with
      | float y =>
          exact onFloats
      | int b =>
          dsimp only
          split
          · exact onFloats
          · split
            · exact error _
            · exact checkedValue _

/-- A truth decided from a comparison is an operand. -/
theorem truth
    {compared : Except OperationError α}
    (holds : α → Bool) :
    GivesOperand (liftError (compared.map fun a => .bool (holds a))) := by
  cases compared with
  | ok a =>
      exact ok (.bool _)
  | error e =>
      exact error _

theorem orderingValues
    (holds : Ordering → Bool)
    (left right : Value) :
    GivesOperand (orderingValues holds left right) :=
  bind fun o => ok (.bool (holds o))

/-- The operators make operands of operands. -/
theorem applyBinary
    (operator : Operator)
    {left right : Value}
    (leftOperand : left.IsOperand) :
    GivesOperand (applyBinary operator left right) := by
  cases operator with
  | add =>
      exact addValues leftOperand
  | sub =>
      exact arithmetic _ _ _ _ _
  | mul =>
      exact arithmetic _ _ _ _ _
  | div =>
      exact divideValues left right
  | mod =>
      exact moduloValues left right
  | pow =>
      exact powerValues left right
  | concat =>
      exact ok (.string _)
  | equal =>
      exact truth fun same => same
  | notEqual =>
      exact truth fun same => !same
  | less =>
      exact orderingValues _ _ _
  | lessEqual =>
      exact orderingValues _ _ _
  | greater =>
      exact orderingValues _ _ _
  | greaterEqual =>
      exact orderingValues _ _ _

theorem applyUnary
    (operator : UnaryOperator)
    (operand : Value) :
    GivesOperand (applyUnary operator operand) := by
  unfold GridScript.applyUnary
  split
  · exact ok (.bool _)
  · exact checkedValue _
  · exact ok (.float _)
  · exact error _

end GivesOperand

/-- One operand, or a failure on each side. -/
inductive AgreeOnOperand : Outcome E Value → Outcome F Value → Prop where
  | value {v : Value} (operand : v.IsOperand) : AgreeOnOperand (.ok v) (.ok v)
  | failure (f : Failure E) (g : Failure F) : AgreeOnOperand (.error f) (.error g)

namespace Formula

/-- Operations whose errors are carried into formulas agree with themselves. -/
theorem agree_guarded
    {result : Outcome OperationError Value}
    (gives : GivesOperand result) :
    AgreeOnOperand result (guarded result) := by
  cases result with
  | ok v =>
      exact .value (gives v rfl)
  | error failure =>
      exact .failure _ _

/-- An operand beside another one is taken as it is. -/
theorem fillBlank_eq
    {v : Value}
    (operand : v.IsOperand)
    (other : Value) :
    fillBlank v other = v := by
  cases v with
  | null =>
      exact absurd rfl operand.notNull
  | _ =>
      rfl

theorem blankText_eq
    {v : Value}
    (operand : v.IsOperand) :
    blankText v = v := by
  cases v with
  | null =>
      exact absurd rfl operand.notNull
  | _ =>
      rfl

/-- A zero divisor, which formulas refuse ahead, fails in the
shared operator too. -/
theorem divideValues_of_zero
    (left : Value)
    {right : Value}
    (zero : (right.number?.map Number.isZero).getD false = true) :
    ∃ failure, divideValues left right = .error failure := by
  unfold divideValues numberOperands
  cases rightNumber : right.number? with
  | none =>
      rw [rightNumber] at zero
      cases zero
  | some r =>
      rw [rightNumber, Option.map_some, Option.getD_some] at zero
      cases left.number? with
      | none =>
          exact ⟨_, rfl⟩
      | some l =>
          exact ⟨_, if_pos zero⟩

/-- An operator of formulas agrees with the shared operator. -/
theorem agree_applyOperator
    (operator : Operator)
    {left right : Value}
    (leftOperand : left.IsOperand)
    (rightOperand : right.IsOperand) :
    AgreeOnOperand (applyBinary operator left right)
      (applyOperator operator left right) := by
  have guardedAgrees : AgreeOnOperand (applyBinary operator left right)
      (guarded (applyBinary operator left right)) :=
    agree_guarded (.applyBinary operator leftOperand)
  unfold applyOperator
  rw [leftOperand.notArray, rightOperand.notArray, if_neg (by decide)]
  split
  · rw [blankText_eq leftOperand, blankText_eq rightOperand]
    exact guardedAgrees
  · simp only [fillBlank_eq leftOperand, fillBlank_eq rightOperand]
    split
    next zero =>
      obtain ⟨failure, fails⟩ := divideValues_of_zero left zero
      rw [applyBinary, fails]
      exact .failure _ _
    next =>
      exact guardedAgrees
  · rw [fillBlank_eq leftOperand, fillBlank_eq rightOperand]
    exact guardedAgrees

/-- The minus sign of formulas agrees with negation. -/
theorem agree_applySign
    {v : Value}
    (operand : v.IsOperand) :
    AgreeOnOperand (applyUnary .negate v) (applySign .minus v) := by
  cases v with
  | null =>
      exact absurd rfl operand.notNull
  | int i =>
      exact agree_guarded (.applyUnary .negate (.int i))
  | float x =>
      exact agree_guarded (.applyUnary .negate (.float x))
  | _ =>
      exact .failure _ _

end Formula

/--
An expression of the fragment that scripts and formulas share.

Each node carries the line that a script has it on.
-/
inductive SharedExpression where
  | literal (literal : Literal) (notNull : literal ≠ .null) (line : Nat)
  | name (name : String) (line : Nat)
  | negate (operand : SharedExpression) (line : Nat)
  | binary
      (operator : Operator)
      (notMod : operator ≠ .mod)
      (left right : SharedExpression)
      (line : Nat)

namespace SharedExpression

/-- The expression in a script. -/
def script : SharedExpression → Script.Expression
  | literal l _ line => .literal l line
  | name n line => .name n line
  | negate operand line => .unary .negate operand.script line
  | binary operator _ left right line =>
      .binary (.apply operator) left.script right.script line

/-- The expression in a formula. -/
def formula : SharedExpression → Formula.Expression
  | literal l _ _ => .literal l
  | name n _ => .name n
  | negate operand _ => .signed .minus operand.formula
  | binary operator _ left right _ => .binary operator left.formula right.formula

/-- The depth of nesting. -/
def height : SharedExpression → Nat
  | literal .. => 1
  | name .. => 1
  | negate operand _ => operand.height + 1
  | binary _ _ left right _ => max left.height right.height + 1

/-- A run of a script in a machine agrees with a formula: both give one operand
and the machine is as it was, or both fail. -/
inductive Agree (machine : Script.Machine) :
    EStateM.Result Script.Halt Script.Machine Value → Formula.Evaluated → Prop where
  | value
      {v : Value}
      (operand : v.IsOperand) :
      Agree machine (.ok v machine) (.ok v)
  | failure
      {halt : Script.Halt}
      (finished : halt ≠ .exhausted)
      (f : Failure Formula.EvalError) :
      Agree machine (.error halt machine) (.error f)

namespace Agree

variable {machine : Script.Machine}

/-- Operations that agree agree as parts of a run. -/
theorem ofOperation
    {result : Outcome OperationError Value}
    {answer : Formula.Evaluated}
    (agree : AgreeOnOperand result answer) :
    Agree machine (Script.Action.ofOperation none result machine) answer := by
  cases agree with
  | value operand =>
      exact .value operand
  | failure f g =>
      cases f with
      | error e =>
          have finished : Script.Halt.error ⟨.operation e, none⟩ ≠ .exhausted :=
            nofun
          exact .failure finished g
      | breach b =>
          have finished : Script.Halt.breach b ≠ .exhausted := nofun
          exact .failure finished g

/-- Sequences agree whose parts agree. -/
theorem bind
    {action : Script.Action Value}
    {next : Value → Script.Action Value}
    {answer : Formula.Evaluated}
    {nextAnswer : Value → Formula.Evaluated}
    (first : Agree machine (action machine) answer)
    (second :
      ∀ v : Value, v.IsOperand → Agree machine (next v machine) (nextAnswer v)) :
    Agree machine ((action >>= next) machine) (answer >>= nextAnswer) := by
  generalize ran : action machine = result at first
  cases first with
  | @value v operand =>
      rw [Change.bind_of_ok ran]
      exact second v operand
  | failure finished f =>
      rw [Change.bind_of_error ran]
      exact .failure finished f

/-- A line on an error makes no difference. -/
theorem atLine
    {action : Script.Action Value}
    {answer : Formula.Evaluated}
    (line : Nat)
    (agree : Agree machine (action machine) answer) :
    Agree machine (Script.Action.atLine line action machine) answer := by
  unfold Script.Action.atLine
  generalize action machine = result at agree
  cases agree with
  | value operand =>
      exact .value operand
  | @failure halt finished f =>
      refine .failure ?_ f
      cases halt with
      | exhausted =>
          exact absurd rfl finished
      | _ =>
          exact nofun

end Agree

/-- A machine and a context that bind a name to one operand. -/
def BindAlike
    (machine : Script.Machine)
    (context : Formula.Context)
    (name : String) : Prop :=
  ∃ v : Value, v.IsOperand ∧ machine.env.find? name = some v ∧
    context.lookup name = some v

/--
Scripts and formulas agree on the expressions that they share.

Let a machine and a context bind every name of the expression to one value that
is neither null nor an array. Then the script and the formula give the same
value, or both fail.
-/
theorem evaluate_agrees
    {machine : Script.Machine}
    {context : Formula.Context}
    (resolve : Formula.Resolver)
    {fuel : Nat}
    (e : SharedExpression)
    (bound : ∀ name ∈ e.formula.allNames, BindAlike machine context name)
    (enough : e.height ≤ fuel) :
    Agree machine (Script.evaluate fuel e.script machine)
      (e.formula.evaluate context resolve) := by
  induction e generalizing fuel with
  | literal l notNull line =>
      obtain ⟨fuel, rfl⟩ := Nat.exists_eq_add_of_le' enough
      exact .value (.literal notNull)
  | name n line =>
      obtain ⟨fuel, rfl⟩ := Nat.exists_eq_add_of_le' enough
      obtain ⟨v, operand, inMachine, inContext⟩ :=
        bound n (by simp [formula, Formula.Expression.allNames])
      have reads : Script.Action.readVariable n line machine = .ok v machine := by
        unfold Script.Action.readVariable
        rw [Change.get_bind, inMachine]
        rfl
      have answers : Formula.lookupName context n = .ok v := by
        rw [Formula.lookupName, inContext]
      refine .atLine line ?_
      show Agree machine (Script.Action.readVariable n line machine)
        (Formula.lookupName context n)
      rw [reads, answers]
      exact .value operand
  | negate operand line inductionHypothesis =>
      obtain ⟨fuel, rfl⟩ := Nat.exists_eq_add_of_le' enough
      have operandAgrees := inductionHypothesis bound (Nat.le_add_left _ fuel)
      refine .atLine line ?_
      exact operandAgrees.bind fun v operand =>
        .ofOperation (Formula.agree_applySign operand)
  | binary operator notMod left right line leftHypothesis rightHypothesis =>
      obtain ⟨fuel, rfl⟩ := Nat.exists_eq_add_of_le' enough
      simp only [formula, Formula.Expression.allNames, List.mem_append] at bound
      have leftEnough :
          left.height ≤ fuel + max left.height right.height := by omega
      have rightEnough :
          right.height ≤ fuel + max left.height right.height := by omega
      have leftAgrees :=
        leftHypothesis (fun name member => bound name (.inl member)) leftEnough
      have rightAgrees :=
        rightHypothesis (fun name member => bound name (.inr member)) rightEnough
      refine .atLine line ?_
      exact leftAgrees.bind fun l leftOperand =>
        rightAgrees.bind fun r rightOperand =>
          .ofOperation
            (Formula.agree_applyOperator operator leftOperand rightOperand)

/-- A price with its sign turned, twice, and a unit: `-price * 2 & unit`. -/
def labelledPrice : SharedExpression :=
  .binary .concat nofun
    (.binary .mul nofun (.negate (.name "price" 1) 1) (.literal (.int 2) nofun 1) 1)
    (.name "unit" 1) 1

/-- The variables of the price and the unit. -/
def labelledPriceNames : List (String × Value) :=
  [("price", .float 1.5), ("unit", .string "EUR")]

/-- A machine in which the price and the unit are global variables. -/
def labelledPriceMachine : Script.Machine :=
  ⟨.ofGlobals labelledPriceNames, [], 0, .ofSettings (Settings.ofList []), ""⟩

/-- Machine and context bind the two names of the price alike. -/
theorem evaluate_agrees_labelledPrice :
    (∀ name ∈ labelledPrice.formula.allNames,
      BindAlike labelledPriceMachine labelledPriceNames name) ∧
    labelledPrice.height ≤ 4 ∧
    Agree labelledPriceMachine
      (Script.evaluate 4 labelledPrice.script labelledPriceMachine)
      (labelledPrice.formula.evaluate labelledPriceNames
        (Formula.noResolver labelledPriceNames)) := by
  have bound :
      ∀ name ∈ labelledPrice.formula.allNames,
        BindAlike labelledPriceMachine labelledPriceNames name := by
    intro name member
    have isListed : name = "price" ∨ name = "unit" := by
      simpa [labelledPrice, formula, Formula.Expression.allNames] using member
    rcases isListed with rfl | rfl
    · exact ⟨.float 1.5, .float 1.5, rfl, rfl⟩
    · exact ⟨.string "EUR", .string "EUR", rfl, rfl⟩
  have enough : labelledPrice.height ≤ 4 := by decide
  exact ⟨bound, enough, evaluate_agrees _ labelledPrice bound enough⟩

end SharedExpression

end GridScript
