import GridScript.Proofs.Script.Containment
import GridScript.Proofs.Script.Containment.Builtin
import GridScript.Proofs.Script.Regime.Evaluation
import GridScript.Script.Run

namespace GridScript.Script

/-!
# Integers beyond 64 bits

The integers of scripts are checked where operators compute them, but not
everywhere. Here are the built-in functions that may give greater ones, and what
a monitor of all variables can find.
-/

open GridScript.Number

/-!
## Built-in functions and integers beyond 64 bits

From arguments whose integers fit, almost every built-in function gives a value
whose integers fit. A range converts bounds that are floats without a check,
formulas compute with integers of any size, and a count is not compared with the
range of integers.
-/

/-- All integers of a value fit 64 bits. -/
abbrev Fitting (v : Value) : Prop :=
  v.Narrow fun _ => False

/-- A float bound of a range stands for an integer beyond 64 bits. -/
def exceedsBound : Value → Bool
  | .float x => (whole? x).any fun i => !fitsInt i
  | _ => false

/-- The functions that give the number of something or the numbers of its items. -/
def Builtin.counts : Builtin → Bool
  | .core .length | .core .keys | .math .count | .text .instr
  | .lookup .matchPosition => true
  | .sheet .rows | .sheet .columns | .sheet .removeEmptyRows => true
  | .book .sheetCount | .book .merge => true
  | _ => false

/-- A count of more than 64 bits hold, or the numbers of so many items. -/
def exceedsCount : Value → Bool
  | .int i => maxInt < i
  | .array items => maxInt < items.length
  | _ => false

/-- The calls of built-in functions whose value is not sure to fit. -/
def Builtin.isLoose
    (builtin : Builtin)
    (arguments : List Value)
    (v : Value) : Bool :=
  match builtin with
  | .core .range => arguments.any exceedsBound
  | .core .evalFormula | .sheet .eval => true
  | builtin => builtin.counts && exceedsCount v

/-- Every breach is admitted, so nothing is asked of a failure. -/
theorem admitted_any (failure : Failure E) : failure.Admitted fun _ => True := by
  cases failure <;> trivial

theorem outcome_any (result : Outcome E α) :
    Contained (fun _ => True) (fun _ => True) result :=
  ⟨fun _ => trivial, fun {failure} _ => admitted_any failure⟩

theorem change_any (change : Change E σ α) :
    Change.Contained (fun _ => True) (fun _ => True) change :=
  fun _ _ => ⟨trivial, fun _ => trivial, fun {failure} _ => admitted_any failure⟩

/-! ## Ranges -/

/-- An item of a range lies between its bounds. -/
theorem fitsInt_rangeItem
    {start stop step : Int}
    (startFits : fitsInt start = true)
    (stopFits : fitsInt stop = true)
    {i : Nat}
    (inside : i < rangeLength start stop step) :
    fitsInt (start + i * step) = true := by
  have low := fitsInt_iff.mp startFits
  have high := fitsInt_iff.mp stopFits
  rw [fitsInt_iff]
  unfold rangeLength at inside
  split at inside
  next rising =>
    split at inside
    next ordered =>
      have steps : i * step.toNat ≤ (stop - start - 1).toNat :=
        Nat.le_trans (Nat.mul_le_mul_right _ (Nat.le_of_lt_succ inside))
          (Nat.div_mul_le_self _ _)
      have distance : (i : Int) * step ≤ stop - start - 1 := by
        have cast : ((i * step.toNat : Nat) : Int) = i * step := by
          rw [Int.natCast_mul, Int.toNat_of_nonneg (by omega)]
        omega
      have forward : 0 ≤ (i : Int) * step := Int.mul_nonneg (by omega) (by omega)
      omega
    next =>
      omega
  next notRising =>
    split at inside
    next ordered =>
      have steps : i * (-step).toNat ≤ (start - stop - 1).toNat :=
        Nat.le_trans (Nat.mul_le_mul_right _ (Nat.le_of_lt_succ inside))
          (Nat.div_mul_le_self _ _)
      have distance : (i : Int) * -step ≤ start - stop - 1 := by
        have cast : ((i * (-step).toNat : Nat) : Int) = i * -step := by
          rw [Int.natCast_mul, Int.toNat_of_nonneg (by omega)]
        omega
      have backward : 0 ≤ (i : Int) * -step := Int.mul_nonneg (by omega) (by omega)
      rw [Int.mul_neg] at distance backward
      omega
    next =>
      omega

theorem fitsInt_intArgument
    {v : Value}
    (fits : Fitting v)
    (bounded : exceedsBound v = false)
    (name what : String) :
    Contained (fun _ => True) (fun i => fitsInt i = true)
      (intArgument name v what) := by
  unfold intArgument
  split
  next i =>
    cases fits with
    | int narrow =>
        exact .ok (narrow.resolve_right id)
  next x =>
    have within : (whole? x).any (fun i => !fitsInt i) = false := bounded
    cases whole : whole? x with
    | none =>
        exact .fail _
    | some i =>
        rw [whole] at within
        exact .ok (by simpa using within)
  next =>
    exact .fail _

theorem fitting_makeRange
    {arguments : List Value}
    (fits : ∀ v ∈ arguments, Fitting v)
    (bounded : arguments.any exceedsBound = false) :
    Contained (fun _ => True) Fitting (makeRange arguments) := by
  have each (v : Value) (member : v ∈ arguments) :
      Contained (fun _ => True) (fun i => fitsInt i = true)
        (intArgument "range" v "bound") :=
    fitsInt_intArgument (fits v member)
      (by simpa using List.any_eq_false.mp bounded v member) _ _
  refine (outcome_any _).bind fun _ _ =>
    (Meets.mapM arguments each).bind fun bounds boundsFit => ?_
  have ends :
      fitsInt (rangeBounds bounds).1 = true ∧
        fitsInt (rangeBounds bounds).2.1 = true := by
    unfold rangeBounds
    split
    · exact ⟨rfl, boundsFit _ (by simp)⟩
    · exact ⟨boundsFit _ (by simp), boundsFit _ (by simp)⟩
    · exact ⟨boundsFit _ (by simp), boundsFit _ (by simp)⟩
    · exact ⟨rfl, rfl⟩
  dsimp only
  split
  · exact .fail _
  · split
    · exact .breach trivial
    · split
      · exact .fail _
      · refine .pure (.array fun v member => ?_)
        obtain ⟨i, inRange, rfl⟩ := List.mem_map.mp member
        exact
          .int (.inl (fitsInt_rangeItem ends.1 ends.2 (List.mem_range.mp inRange)))

/-! ## Counts -/

/-- A value fits, or it counts too much. -/
def Counted (v : Value) : Prop :=
  Fitting v ∨ exceedsCount v = true

theorem counted_int (n : Nat) : Counted (.int n) := by
  by_cases vast : maxInt < (n : Int)
  · exact .inr (decide_eq_true vast)
  · have small : (n : Int) ≤ 2 ^ 63 - 1 := Int.not_lt.mp vast
    exact .inl (.int (.inl (fitsInt_iff.mpr ⟨by omega, small⟩)))

/-- The numbers of items fit if there are not too many of them. -/
theorem counted_indices (n : Nat) :
    Counted (.array ((List.range n).map fun (i : Nat) => Value.int i)) := by
  by_cases vast : maxInt < (n : Int)
  · refine .inr (decide_eq_true ?_)
    rwa [List.length_map, List.length_range]
  · have small : (n : Int) ≤ 2 ^ 63 - 1 := Int.not_lt.mp vast
    refine .inl (.array fun v member => ?_)
    obtain ⟨i, inRange, rfl⟩ := List.mem_map.mp member
    have below := List.mem_range.mp inRange
    exact .int (.inl (fitsInt_iff.mpr ⟨by omega, by omega⟩))

theorem counted_lengthOf (book : Book) (v : Value) :
    Contained (fun _ => True) Counted (lengthOf book v) := by
  unfold lengthOf
  split
  · exact .ok (counted_int _)
  · exact .ok (counted_int _)
  · exact (outcome_any _).bind fun _ _ => .pure (counted_int _)
  · exact .fail _

theorem counted_keysOf (book : Book) (v : Value) :
    Contained (fun _ => True) Counted (keysOf book v) := by
  unfold keysOf
  split
  · exact .pure (counted_indices _)
  · refine (outcome_any _).bind fun sheet _ => ?_
    split
    · exact .pure (.inl (narrow_texts _))
    · exact .fail _
  · refine (outcome_any _).bind fun sheet _ => ?_
    split
    · exact .pure (.inl (narrow_texts _))
    · exact .fail _
  · exact .fail _

theorem counted_instr (arguments : List Value) :
    Contained (fun _ => True) Counted (callText .instr arguments) := by
  refine (outcome_any _).bind fun _ _ => (outcome_any _).bind fun _ _ =>
    (outcome_any _).bind fun _ _ => ?_
  split
  · exact (outcome_any _).bind fun _ _ => .pure (counted_int _)
  · exact .pure (counted_int _)

theorem counted_matchPosition (key array mode : Value) :
    Meets (fun _ => True) Counted (Lookup.matchPosition key array mode) := by
  have position (best : Except OperationError (Option Nat)) :
      Meets (fun _ => True) Counted
        (best >>= fun hit =>
          Lookup.found "match" key hit >>= fun i => pure (Value.int (i + 1))) :=
    (Meets.any _).bind fun _ _ =>
      (Meets.any _).bind fun i _ => .pure (counted_int (i + 1))
  refine (Meets.any _).bind fun _ _ => (Meets.any _).bind fun chosen _ => ?_
  dsimp only
  repeat' split
  all_goals exact position _

/-! ## All functions -/

/-- A mean is a float, or null. -/
theorem fitting_mean (numbers : List Number) :
    Contained (fun _ => True) Fitting (mean numbers) := by
  unfold mean
  split
  · exact .pure .null
  · exact (outcome_any _).bind fun _ _ =>
      (outcome_any _).bind fun _ _ => .pure (.float _)

/-- A built-in function that never breaches the range of floats gives
a value that fits. -/
theorem fitting_of_not_mayBreach
    {builtin : Builtin}
    (exactly : ¬builtin.MayBreach .overflow)
    (site : CallSite)
    {arguments : List Value}
    (fits : ∀ v ∈ arguments, Fitting v) :
    Change.Contained (fun _ => True) Fitting
      (callBuiltin builtin site arguments) := by
  have narrow : ∀ v ∈ arguments, v.Narrow builtin.MayBreach :=
    fun v member => (fits v member).mono nofun
  intro host _
  obtain ⟨-, meets⟩ :=
    callBuiltin_contained (fun _ breaches => breaches) site narrow host trivial
  exact
      ⟨trivial, fun ran => (meets.of_ok ran).mono fun breaches => exactly breaches,
    fun {failure} _ => admitted_any failure⟩

/-- From arguments that fit a built-in function gives a value that fits, unless
the call is loose. -/
theorem fitting_or_isLoose
    (builtin : Builtin)
    (site : CallSite)
    {arguments : List Value}
    (fits : ∀ v ∈ arguments, Fitting v) :
    Change.Contained (fun _ => True)
      (fun v => Fitting v ∨ builtin.isLoose arguments v = true)
      (callBuiltin builtin site arguments) := by
  have strict (exactly : ¬builtin.MayBreach .overflow) :
      Change.Contained (fun _ => True)
        (fun v => Fitting v ∨ builtin.isLoose arguments v = true)
        (callBuiltin builtin site arguments) :=
    (fitting_of_not_mayBreach exactly site fits).mono fun _ fitting => .inl fitting
  cases builtin with
  | core function =>
      cases function with
      | length =>
          exact (change_any _).bind fun book _ => (change_any _).bind fun _ _ =>
            .lift (counted_lengthOf book _)
      | keys =>
          exact (change_any _).bind fun book _ => (change_any _).bind fun _ _ =>
            .lift (counted_keysOf book _)
      | range =>
          cases exceeds : arguments.any exceedsBound with
          | true =>
              exact (change_any _).mono fun _ _ => .inr exceeds
          | false =>
              have range := operation_contained (fitting_makeRange fits exceeds)
              exact (change_any _).bind fun _ _ =>
                .lift (range.mono fun _ fitting => .inl fitting)
      | evalFormula =>
          exact (change_any _).mono fun _ _ => .inr rfl
      | _ =>
          exact strict nofun
  | math function =>
      cases function with
      | average =>
          have mean :
              Contained (fun _ => True) Fitting (callMath .average arguments) :=
            (outcome_any _).bind fun numbers _ => fitting_mean numbers
          exact
            .lift ((operation_contained mean).mono fun _ fitting => .inl fitting)
      | count =>
          exact .lift (operation_contained (.pure (counted_int _)))
      | _ =>
          exact strict nofun
  | text function =>
      cases function with
      | instr =>
          exact .lift (operation_contained (counted_instr arguments))
      | _ =>
          exact strict nofun
  | lookup function =>
      cases function with
      | matchPosition =>
          have position :
              Contained (fun _ => True) Counted
                (callLookup .matchPosition arguments) :=
            (outcome_any _).bind fun _ _ => .liftError (counted_matchPosition _ _ _)
          exact .lift (operation_contained position)
      | _ =>
          exact strict nofun
  | sheet function =>
      cases function with
      | rows | columns =>
          exact (change_any _).bind fun _ _ => (change_any _).bind fun _ _ =>
            (change_any _).bind fun _ _ => .lift (.ok (counted_int _))
      | removeEmptyRows =>
          exact (change_any _).bind fun _ _ =>
            mutateSheet_contained
              ((change_any _).bind fun _ _ => .pure (counted_int _)) _ _
      | eval =>
          exact (change_any _).mono fun _ _ => .inr rfl
      | _ =>
          exact strict nofun
  | book function =>
      cases function with
      | sheetCount =>
          exact (change_any _).bind fun _ _ => (change_any _).bind fun _ _ =>
            .pure (counted_int _)
      | merge =>
          exact (change_any _).bind fun _ _ => (change_any _).bind fun _ _ =>
            (change_any _).bind fun _ _ => (change_any _).bind fun _ _ =>
              (change_any _).bind fun _ _ => .pure (counted_int _)
      | _ =>
          exact strict nofun
  | file function =>
      exact strict nofun

/-!
## The integers of scripts

A monitor looks at every variable after every statement of a run, and at what
built-in functions give. From variables whose integers fit 64 bits the
monitor never finds one that does not, unless a loose call has given an
integer beyond 64 bits as its value: a range with a float bound, a formula,
or a count that no list can have.
-/

/-! ## Looking at variables -/

mutual

/-- All integers of a value fit 64 bits, as a test. -/
def fits : Value → Bool
  | .int i => fitsInt i
  | .array items => allFit items
  | _ => true

/-- All integers of some values fit 64 bits, as a test. -/
def allFit : List Value → Bool
  | [] => true
  | v :: rest => fits v && allFit rest

end

theorem allFit_eq (items : List Value) : allFit items = items.all fits := by
  induction items with
  | nil =>
      rfl
  | cons v rest inductionHypothesis =>
      rw [allFit, inductionHypothesis, List.all_cons]

theorem fits_of_fitting
    {v : Value}
    (fitting : Fitting v) :
    fits v = true := by
  induction fitting with
  | int narrow =>
      exact narrow.resolve_right id
  | array each inductionHypothesis =>
      rw [fits, allFit_eq, List.all_eq_true]
      exact inductionHypothesis
  | _ =>
      rfl

theorem fitting_of_fits : (v : Value) → fits v = true → Fitting v
  | .null, _ => .null
  | .bool b, _ => .bool b
  | .int _, fit => .int (.inl fit)
  | .float x, _ => .float x
  | .string s, _ => .string s
  | .array items, fit => by
      rw [fits, allFit_eq, List.all_eq_true] at fit
      exact .array fun v member => fitting_of_fits v (fit v member)
  | .sheet ref, _ => .sheet ref
  | .error tag, _ => .error tag

/-- All integers of the variables of a scope fit. -/
def Scope.allFit (scope : Scope) : Bool :=
  scope.all fun entry => fits entry.2

/-- All integers of all variables fit, also of those that calls hide. -/
def Environment.allFit (env : Environment) : Bool :=
  Scope.allFit env.globals && env.blocks.all Scope.allFit &&
    env.callers.all fun blocks => blocks.all Scope.allFit

theorem Scope.allFit_of_narrow
    {scope : Scope}
    (narrow : Scope.Narrow (fun _ => False) scope) :
    Scope.allFit scope = true :=
  List.all_eq_true.mpr fun entry member => fits_of_fitting (narrow entry member)

theorem Environment.allFit_of_narrow
    {env : Environment}
    (narrow : env.Narrow fun _ => False) :
    env.allFit = true := by
  have inScopes (scopes : List Scope)
      (each : ∀ scope ∈ scopes, Scope.Narrow (fun _ => False) scope) :
      scopes.all Scope.allFit = true :=
    List.all_eq_true.mpr fun scope member =>
      Scope.allFit_of_narrow (each scope member)
  unfold allFit
  rw [Scope.allFit_of_narrow narrow.globals, inScopes _ narrow.blocks,
    Bool.true_and, Bool.true_and, List.all_eq_true]
  exact fun blocks member => inScopes blocks (narrow.callers blocks member)

/-! ## The monitor -/

/-- The monitor of integers: it sounds an alarm after a statement that
leaves an integer beyond 64 bits in a variable, and reports a leak where a
loose call gives one. -/
def Monitor.ofIntegers (leak alarm : Breach) : Monitor where
  node
    | .statement _, machine =>
        if machine.env.allFit then none else some (.breach alarm)
    | .expression _, _ => none
  value builtin arguments v :=
    if fits v || !builtin.isLoose arguments v then none else some (.breach leak)

/-- A run keeps to integers that fit, or it reports a leak. -/
def Regime.ofIntegers (leak : Breach) : Regime where
  node n := ∀ e, n = .expression e → e.Fits
  line _ := True
  narrow _ := False
  breach _ := True
  alarm halt := halt = .breach leak
  line_of_node _ := trivial
  narrow_of_node fits := fits _ rfl
  breach_of_narrow _ := nofun
  alarm_withLine raised _ := raised ▸ rfl

/-- The alarm is never sounded, and built-in functions give values that
fit or are reported. -/
theorem Regime.observes_ofIntegers (leak alarm : Breach) :
    (ofIntegers leak).Observes (.ofIntegers leak alarm) where
  node n machine halt held halted := by
    cases n with
    | expression e =>
        cases halted
    | statement s =>
        have quiet :
            (Monitor.ofIntegers leak alarm).node (.statement s) machine = none :=
          if_pos (Environment.allFit_of_narrow held.env)
        rw [quiet] at halted
        cases halted
  host {callee arguments line builtin} _ _ values fit := by
    have given :
        (ofIntegers leak).Follows (ofIntegers leak).Inside
          (fun v => Fitting v ∨ builtin.isLoose values v = true)
          (Action.callHost builtin values line)
          (Action.callHost builtin values line) :=
      .callHost (fun site => fitting_or_isLoose builtin site fit) trivial
    rw [← bind_pure (Action.callHost builtin values line)]
    refine given.bind fun v allowed => ?_
    by_cases fitting : fits v = true
    · have quiet : (Monitor.ofIntegers leak alarm).value builtin values v = none :=
        if_pos (by rw [fitting, Bool.true_or])
      rw [quiet]
      exact .pure (fitting_of_fits v fitting)
    · have loose : builtin.isLoose values v = true :=
        allowed.resolve_left fun fit => fitting (fits_of_fitting fit)
      have leaked :
          (Monitor.ofIntegers leak alarm).value builtin values v =
            some (.breach leak) :=
        if_neg (by simpa [loose] using fitting)
      rw [leaked]
      exact .raise rfl _

/-! ## Runs -/

/-- The machine that a run of a program starts with. -/
def Program.start
    (program : Program)
    (label : RunLabel)
    (host : Host)
    (env : Environment) : Machine :=
  ⟨env, [], 0, host.emit (startedEvent label.id program host.book), label.id⟩

/--
Integers beyond 64 bits come from loose calls only.

Let a run start from variables whose integers fit, and let the literals of
its program fit, as those of every text do. After every statement all
integers in all scopes fit, and so they do after the run, unless a range with
a float bound beyond 64 bits, a formula or a count beyond 64 bits has given
an integer that does not.
-/
theorem integers_fit_unless_leaked
    {program : Program}
    (literalsFit : ∀ part ∈ program.parts, part.Fits)
    {env : Environment}
    (variablesFit : env.Narrow fun _ => False)
    (label : RunLabel)
    (host : Host)
    (leak alarm : Breach) :
    let run := runProgram nestingBound program (program.start label host env)
    let watched := (Monitor.ofIntegers leak alarm).runProgram nestingBound program
      (program.start label host env)
    (watched = run ∧ run.state.env.Narrow fun _ => False) ∨
      watched.outcome = .error (.breach leak) := by
  have shallow : nestingBound ≤ 2 ^ 60 := by decide
  have permits : (Regime.ofIntegers leak).Permits program.nodes := by
    rintro n member e rfl
    exact literalsFit e (Program.mem_parts_iff.mpr member)
  have held : (Regime.ofIntegers leak).Holds (program.start label host env) :=
    ⟨variablesFit, nofun⟩
  have follows :=
    Regime.Follows.runProgram (Regime.observes_ofIntegers leak alarm)
      shallow permits
  obtain ⟨kept, -⟩ := follows.upholds _ held
  intro run watched
  rcases follows.agrees _ held with same | ⟨halt, rfl, halted⟩
  · rw [same] at kept
    exact .inl ⟨same, kept.env⟩
  · exact .inr halted

/-- A statement that stores the greatest integer. -/
theorem integers_fit_unless_leaked_greatest :
    let program : Program :=
      ⟨[.assign ⟨"x", [], 1⟩ (.literal (.int 9223372036854775807) 1) 1]⟩
    (∀ part ∈ program.parts, part.Fits) ∧
      ((Environment.ofGlobals []).Narrow fun _ => False) ∧
      ∀ label host leak alarm,
        let start := program.start label host (.ofGlobals [])
        let run := runProgram nestingBound program start
        let watched :=
          (Monitor.ofIntegers leak alarm).runProgram nestingBound program start
        (watched = run ∧ run.state.env.Narrow fun _ => False) ∨
          watched.outcome = .error (.breach leak) := by
  intro program
  have literalsFit : ∀ part ∈ program.parts, part.Fits := by
    intro part member
    obtain rfl := List.mem_singleton.mp member
    exact .int (.inl rfl)
  have variablesFit : (Environment.ofGlobals []).Narrow fun _ => False := by
    constructor <;> exact fun _ member => nomatch member
  exact
    ⟨literalsFit, variablesFit, integers_fit_unless_leaked literalsFit variablesFit⟩

/-- A formula gives a script an integer beyond 64 bits. -/
theorem formula_leaks_integer :
    let report := runText "x = eval_formula(\"9223372036854775808\")" ⟨"run", 0⟩
      (.ofSettings (Settings.ofList [])) (.ofGlobals [])
    report.halt.isNone = true ∧ ¬report.env.Narrow fun _ => False := by
  have leaked :
      let report := runText "x = eval_formula(\"9223372036854775808\")" ⟨"run", 0⟩
        (.ofSettings (Settings.ofList [])) (.ofGlobals [])
      report.halt.isNone = true ∧ report.env.allFit = false := by
    decide +kernel
  obtain ⟨ended, unfit⟩ := leaked
  exact ⟨ended, fun narrow =>
    Bool.false_ne_true (unfit.symm.trans (Environment.allFit_of_narrow narrow))⟩

end GridScript.Script
