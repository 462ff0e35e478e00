import GridScript.Proofs.Script.Bindings
import GridScript.Proofs.Script.Syntax.RoundTrip
import GridScript.Proofs.Value.Integers
import GridScript.Script.Run

namespace GridScript.Script

/-!
# Integers in scripts

The display text of every integer of 64 bits but the least is an expression that
has the integer as its value. The digits of the least integer stand behind its
sign, where they have to be in range on their own, and are not.
-/

open GridScript.Number
open GridScript.Parsing
open GridScript.Parsing.Language

/-! ## Reading -/

/-- The expression that the display text of an integer is. -/
def integerExpression (i : Int) : Expression :=
  if i < 0 then .unary .negate (.literal (.int (-i)) 1) 1 else .literal (.int i) 1

theorem text_integerExpression (i : Int) :
    (integerExpression i).text = (intText i).toList := by
  rw [intText, String.toList_ofList]
  unfold integerExpression
  split
  next negative =>
    have magnitude : (-i).toNat = i.natAbs := by omega
    simp [Expression.text, Expression.enclose, Expression.precedence, literalText,
      magnitude]
  next nonnegative =>
    have magnitude : i.toNat = i.natAbs := by omega
    simp [Expression.text, literalText, magnitude]

theorem onLine_integerExpression (i : Int) :
    (integerExpression i).onLine 1 = integerExpression i := by
  unfold integerExpression
  split <;> rfl

theorem writable_integerExpression
    {i : Int}
    (inRange : InRange i)
    (notLeast : i ≠ -(2 ^ 63)) :
    Writable (integerExpression i) := by
  unfold InRange at inRange
  unfold integerExpression
  split
  next negative =>
    exact .unary .negate 1 (.literal 1 ⟨by omega, by unfold maxInt; omega⟩)
  next nonnegative =>
    exact .literal 1 ⟨by omega, by unfold maxInt; omega⟩

/-- The assignment of an integer other than the least is read as the assignment
of its expression. -/
theorem parse_integer
    {i : Int}
    (inRange : InRange i)
    (notLeast : i ≠ -(2 ^ 63)) :
    parse ("x = " ++ (Value.int i).display) =
      .ok ⟨[.assign ⟨"x", [], 1⟩ (integerExpression i) 1]⟩ := by
  have writable := writable_integerExpression inRange notLeast
  have text : (Value.int i).display = String.ofList (integerExpression i).text := by
    rw [text_integerExpression, String.ofList_toList, Value.display]
  obtain ⟨tokens, count, spells, derives, bound⟩ := derives_assignment writable
  have short := spells.length_le
  have enough :
      count + 2 * tokens.length + 2 ≤
        stepLimit (assignmentLine (integerExpression i)) := by
    unfold stepLimit
    omega
  have accepted :=
    parse_of_derives complete_language spells derives (by decide +kernel) rfl enough
  rw [onLine_integerExpression] at accepted
  unfold parse
  rw [text, endLine_assignment writable, accepted]
  rfl

/-- The error that a text is refused with. -/
def refusal? (text : String) : Option ParseError :=
  match parse text with
  | .error (.error error) => some error
  | _ => none

/-- A text that is refused changes nothing. -/
theorem runText_of_refusal
    {text : String}
    {error : ParseError}
    (refused : refusal? text = some error)
    (label : RunLabel)
    (host : Host)
    (env : Environment) :
    (runText text label host env).env = env ∧
      (runText text label host env).halt = some (.error (.ofParse error)) := by
  unfold refusal? at refused
  split at refused
  next held parsed =>
    obtain rfl := Option.some.inj refused
    simp only [runText, parsed, and_self]
  next =>
    cases refused

/-- The digits of the least integer are out of range where they stand. -/
theorem refusal?_least :
    refusal? ("x = " ++ (Value.int (-(2 ^ 63))).display) =
      some ⟨.integerRange "9223372036854775808", 1, some 6⟩ := by
  decide +kernel

/-! ## Running -/

theorem evaluate_integerExpression
    {i : Int}
    (inRange : InRange i)
    (fuel : Nat)
    (machine : Machine) :
    evaluate (fuel + 2) (integerExpression i) machine = .ok (.int i) machine := by
  unfold integerExpression
  split
  next negative =>
    have negated : applyUnary .negate (.int (-i)) = .ok (.int i) := by
      show checkedValue (- -i) = _
      rw [Int.neg_neg]
      exact (isExact_checkedValue i).1 inRange
    show Action.atLine 1 (Action.ofOperation none (applyUnary .negate (.int (-i))))
      machine = _
    rw [negated]
    rfl
  next =>
    rfl

/-- An assignment to a variable binds the variable to the value
of the expression. -/
theorem runProgram_assignment
    {fuel : Nat}
    {name : String}
    {e : Expression}
    {v : Value}
    {line : Nat}
    (evaluates : ∀ machine, evaluate fuel e machine = .ok v machine)
    (machine : Machine) :
    runProgram (fuel + 1) ⟨[.assign ⟨name, [], line⟩ e line]⟩ machine =
      .ok () (machine.mapEnv (·.assign name v)) := by
  have executed :
      execute (fuel + 1) (.assign ⟨name, [], line⟩ e line) machine =
        .ok .normal (machine.mapEnv (·.assign name v)) := by
    have assigned :
        Action.executeStep (evaluate fuel) (execute fuel)
          (Action.iterationBound fuel)
            (.assign ⟨name, [], line⟩ e line) machine =
          .ok .normal (machine.mapEnv (·.assign name v)) :=
      Change.bind_of_ok (evaluates machine)
    rw [execute, Action.atLine, assigned]
  have ran :
      runAll (execute (fuel + 1)) [.assign ⟨name, [], line⟩ e line] machine =
        .ok .normal (machine.mapEnv (·.assign name v)) :=
    Change.bind_of_ok executed
  exact Change.bind_of_ok ran

/-- A run of one assignment ends with the variable bound. -/
theorem run_assignment
    {name : String}
    {e : Expression}
    {v : Value}
    {line : Nat}
    (evaluates : ∀ machine, evaluate 999999 e machine = .ok v machine)
    (label : RunLabel)
    (host : Host)
    (env : Environment) :
    let report := Program.run ⟨[.assign ⟨name, [], line⟩ e line]⟩ label host env
    report.halt = none ∧ report.env = env.assign name v := by
  have ended (machine : Machine) :
      runProgram nestingBound ⟨[.assign ⟨name, [], line⟩ e line]⟩ machine =
        .ok () (machine.mapEnv (·.assign name v)) :=
    runProgram_assignment evaluates machine
  simp only [Program.run, ended]
  exact ⟨trivial, rfl⟩

/--
The text of an integer in a script.

Assigning the display text of an integer of 64 bits to a variable binds the
variable to the integer, wherever the script runs, exactly if the integer is not
the least one. The text of that is refused: its digits are an integer literal
that is out of range.
-/
theorem run_integer_text
    {i : Int}
    (inRange : InRange i)
    (label : RunLabel)
    (host : Host)
    (env : Environment) :
    let report := runText ("x = " ++ (Value.int i).display) label host env
    (i ≠ -(2 ^ 63) →
      report.halt = none ∧ report.env = env.assign "x" (.int i) ∧
        report.env.find? "x" = some (.int i)) ∧
      (i = -(2 ^ 63) →
        report.env = env ∧
          report.halt =
            some
              (.error
                (.ofParse ⟨.integerRange "9223372036854775808", 1, some 6⟩))) := by
  intro report
  constructor
  · intro notLeast
    obtain ⟨ended, assigned⟩ :=
      run_assignment (evaluate_integerExpression inRange 999997) label host env
    have bound : report.env = env.assign "x" (.int i) := by
      simpa only [report, runText, parse_integer inRange notLeast] using assigned
    refine ⟨?_, bound, by rw [bound, Environment.find?_assign]⟩
    simpa only [report, runText, parse_integer inRange notLeast] using ended
  · rintro rfl
    exact runText_of_refusal refusal?_least label host env

/-- The greatest and the least integer but one are bound, on a host and in an
environment of their own. -/
theorem run_integer_text_bounds :
    InRange (2 ^ 63 - 1) ∧ InRange (-(2 ^ 63) + 1) ∧
      (runText "x = 9223372036854775807" ⟨"run", 0⟩
        (.ofSettings (Settings.ofList []))
        (.ofGlobals [])).env.find? "x" = some (.int (2 ^ 63 - 1)) ∧
      (runText "x = -9223372036854775807" ⟨"run", 0⟩
        (.ofSettings (Settings.ofList []))
        (.ofGlobals [])).env.find? "x" = some (.int (-(2 ^ 63) + 1)) := by
  have greatest : InRange (2 ^ 63 - 1) := by decide
  have second : InRange (-(2 ^ 63) + 1) := by decide
  have greatestBound :=
    (run_integer_text greatest ⟨"run", 0⟩ (.ofSettings (Settings.ofList []))
      (.ofGlobals [])).1 (by decide)
  have secondBound :=
    (run_integer_text second ⟨"run", 0⟩ (.ofSettings (Settings.ofList []))
      (.ofGlobals [])).1 (by decide)
  have greatestText :
      (Value.int (2 ^ 63 - 1)).display = "9223372036854775807" := by decide +kernel
  have secondText :
      (Value.int (-(2 ^ 63) + 1)).display = "-9223372036854775807" := by
    decide +kernel
  rw [greatestText] at greatestBound
  rw [secondText] at secondBound
  exact ⟨greatest, second, greatestBound.2.2, secondBound.2.2⟩

/-- The least integer is not bound: its own text is refused. -/
theorem least_integer_is_refused :
    InRange (-(2 ^ 63)) ∧
      let report := runText ("x = " ++ (Value.int (-(2 ^ 63))).display) ⟨"run", 0⟩
        (.ofSettings (Settings.ofList [])) (.ofGlobals [])
      report.halt.isSome = true ∧ report.env.find? "x" = none := by
  obtain ⟨kept, halted⟩ := runText_of_refusal refusal?_least ⟨"run", 0⟩
    (.ofSettings (Settings.ofList [])) (.ofGlobals [])
  refine ⟨by decide, ?_, ?_⟩
  · rw [halted]
    rfl
  · rw [kept]
    rfl

end GridScript.Script
