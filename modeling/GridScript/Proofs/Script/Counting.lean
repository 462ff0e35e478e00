import GridScript.Proofs.Script.Bindings
import GridScript.Proofs.Script.Control
import Mathlib.Order.Nat

namespace GridScript

/-!
# Counting loops

A counting loop over integers runs its body once for each integer of its range,
in order, as long as the settings allow so many iterations. The body sees the
integer as the loop variable, whatever earlier runs have stored there.
-/

open GridScript.Number

/-- An integer above a number stays above it when it grows. -/
theorem Number.less_of_le
    {n : Number}
    {i j : Int}
    (below : n.less (.int i) = true)
    (le : i ≤ j) :
    n.less (.int j) = true := by
  cases value : n.exact with
  | undefined =>
      simp [less, value, Exact.compare?] at below
  | infinite negative =>
      simpa only [less, value, exact_ofInt, Exact.compare?] using below
  | finite negative mantissa exponent =>
      simp only [less, value, exact_ofInt, Exact.compare?, compareScaled,
        signed_natAbs, beq_iff_eq, Option.some.injEq, Int.compare_eq_lt] at below ⊢
      exact Int.lt_of_lt_of_le below
        (Int.mul_le_mul_of_nonneg_right le (Int.pow_nonneg (by omega)))

theorem Number.isZero_int (i : Int) :
    (Number.int i).isZero = decide (i = 0) := by
  rw [isZero, equal, compare_int]
  by_cases zero : i = 0
  · simp [zero]
  · have notEqual : compare i 0 ≠ .eq :=
      fun same => zero (Int.compare_eq_eq.mp same)
    simp [zero, notEqual]

namespace Settings

variable {settings : Settings} {count : Nat}

/-- The settings let a loop make so many iterations. -/
def Allows (settings : Settings) (count : Nat) : Prop :=
  count = 0 ∨ ∀ limit, settings.loopLimit = some limit →
    limit.less (.int count) = false

/-- The settings limit loops to so many iterations. -/
structure LimitsTo (settings : Settings) (limit : Nat) : Prop where
  allows : settings.Allows limit
  noMore : ¬ settings.Allows (limit + 1)

/-- An integer limit allows so many iterations. -/
theorem limitsTo_int
    {limit : Int}
    (given : settings.loopLimit = some (.int limit)) :
    settings.LimitsTo limit.toNat := by
  have allows (count : Nat) :
      settings.Allows count ↔ count = 0 ∨ count ≤ limit := by
    simp [Allows, given, less_int]
  constructor
  · rw [allows]
    omega
  · rw [allows]
    omega

theorem Allows.fewer
    {fewer : Nat}
    (allows : settings.Allows count)
    (le : fewer ≤ count) :
    settings.Allows fewer := by
  rcases allows with rfl | within
  · exact .inl (Nat.le_zero.mp le)
  · refine .inr fun limit given => ?_
    have notAbove := within limit given
    by_contra above
    rw [less_of_le (by simpa using above) (Int.ofNat_le.mpr le)] at notAbove
    cases notAbove

/-- What is not allowed is more than some number to which the
settings limit loops. -/
theorem exists_limitsTo (refused : ¬ settings.Allows count) :
    ∃ limit, limit < count ∧ settings.LimitsTo limit := by
  induction count with
  | zero =>
      exact (refused (.inl rfl)).elim
  | succ count inductionHypothesis =>
      by_cases allows : settings.Allows count
      · exact ⟨count, Nat.lt_succ_self count, allows, refused⟩
      · obtain ⟨limit, less, limits⟩ := inductionHypothesis allows
        exact ⟨limit, Nat.lt_succ_of_lt less, limits⟩

/-- A limit that refuses so many iterations is below their number. -/
theorem exists_less (refused : ¬ settings.Allows count) :
    ∃ limit, settings.loopLimit = some limit ∧ limit.less (.int count) = true := by
  simp only [Allows, not_or, not_forall, Bool.not_eq_false] at refused
  obtain ⟨-, limit, given, above⟩ := refused
  exact ⟨limit, given, above⟩

end Settings

namespace Script

namespace Progression

/-- The progression between integers. -/
def ofInts (start finish step : Int) : Progression :=
  ⟨.int start, .int finish, .int step⟩

/-- The number of integers from one to another by a step. -/
def intCount (start finish step : Int) : Nat :=
  ((finish - start).fdiv step + 1).toNat

/-- The integer after so many steps. -/
def intAt (start step : Int) (count : Nat) : Value :=
  .int (start + count * step)

variable {start finish step : Int}

theorem ofBounds_int (nonzero : step ≠ 0) :
    ofBounds (.int start) (.int finish) (.int step) =
      .ok (ofInts start finish step) := by
  have notZero : ¬ (Number.int step).isZero = true := by
    rw [isZero_int]
    simpa using nonzero
  show (if (Number.int step).isZero = true then _ else _) = _
  exact if_neg notZero

/-- Rising and falling steps end on either side. -/
theorem isPast_ofInts_eq_false {i : Int} :
    (ofInts start finish step).isPast (.int i) = false ↔
      (0 < step → i ≤ finish) ∧ (step < 0 → finish ≤ i) := by
  simp [isPast, ofInts, less_int]

/-- The integers before the end are counted by the quotient of the
distance and the step. -/
theorem lt_intCount_iff
    (nonzero : step ≠ 0)
    {count : Nat} :
    count < intCount start finish step ↔
      (ofInts start finish step).isPast (.int (start + count * step)) = false := by
  have counted :
      count < intCount start finish step ↔
        (count : Int) ≤ (finish - start).fdiv step := by
    unfold intCount
    omega
  rw [counted, isPast_ofInts_eq_false]
  rcases Int.lt_or_gt_of_ne nonzero with falling | rising
  · have opposite : (finish - start).fdiv step = (start - finish) / -step := by
      rw [← Int.neg_fdiv_neg, Int.fdiv_eq_ediv_of_nonneg _ (by omega)]
      congr 1
      omega
    rw [opposite, Int.le_ediv_iff_mul_le (by omega), Int.mul_neg]
    constructor
    · exact fun within => ⟨fun _ => by omega, fun _ => by omega⟩
    · exact fun ends => by have := ends.2 falling; omega
  · rw [Int.fdiv_eq_ediv_of_nonneg _ (by omega), Int.le_ediv_iff_mul_le rising]
    constructor
    · exact fun within => ⟨fun _ => by omega, fun _ => by omega⟩
    · exact fun ends => by have := ends.1 rising; omega

/-- An integer that is not past the end lies between the bounds. -/
theorem between_of_lt_intCount
    (nonzero : step ≠ 0)
    {count : Nat}
    (inside : count < intCount start finish step) :
    min start finish ≤ start + count * step ∧
      start + count * step ≤ max start finish := by
  obtain ⟨rises, falls⟩ :=
    isPast_ofInts_eq_false.mp ((lt_intCount_iff nonzero).mp inside)
  rcases Int.lt_or_gt_of_ne nonzero with falling | rising
  · have distance : count * step ≤ 0 :=
      Int.mul_nonpos_of_nonneg_of_nonpos (by omega) (by omega)
    have ends := falls falling
    omega
  · have distance : 0 ≤ count * step := Int.mul_nonneg (by omega) (by omega)
    have ends := rises rising
    omega

/-- A distance in steps, as a quotient that is rounded down. -/
theorem lt_quotient_iff
    {distance size : Int}
    (forward : 0 ≤ distance)
    (positive : 0 < size)
    {count : Nat} :
    count < distance.toNat / size.toNat + 1 ↔ count * size ≤ distance := by
  rw [Nat.lt_succ_iff, Nat.le_div_iff_mul_le (by omega)]
  have cast : ((count * size.toNat : Nat) : Int) = count * size := by
    rw [Int.natCast_mul, Int.toNat_of_nonneg (by omega)]
  omega

/-- The integers of a range stop before its end. -/
theorem lt_rangeLength_iff
    (nonzero : step ≠ 0)
    {count : Nat} :
    count < rangeLength start finish step ↔
      (0 < step → start + count * step < finish) ∧
        (step < 0 → finish < start + count * step) := by
  unfold rangeLength
  rcases Int.lt_or_gt_of_ne nonzero with falling | rising
  · have backward : (count : Int) * step ≤ 0 :=
      Int.mul_nonpos_of_nonneg_of_nonpos (by omega) (by omega)
    rw [if_neg (by omega)]
    split
    next ordered =>
      rw [lt_quotient_iff (by omega) (by omega), Int.mul_neg]
      omega
    next =>
      omega
  · have forward : 0 ≤ (count : Int) * step := Int.mul_nonneg (by omega) (by omega)
    rw [if_pos rising]
    split
    next ordered =>
      rw [lt_quotient_iff (by omega) rising]
      omega
    next =>
      omega

/-- A range up to the integer after the end, in the direction of
the step, is as long. -/
theorem rangeLength_eq_intCount (nonzero : step ≠ 0) :
    rangeLength start (finish + step.sign) step = intCount start finish step := by
  refine eq_of_forall_lt_iff fun count => ?_
  rw [lt_rangeLength_iff nonzero, lt_intCount_iff nonzero, isPast_ofInts_eq_false]
  rcases Int.lt_or_gt_of_ne nonzero with falling | rising
  · rw [Int.sign_eq_neg_one_of_neg falling]
    omega
  · rw [Int.sign_eq_one_of_pos rising]
    omega

/-- The built-in range up to the integer after the end holds the integers
of the progression. -/
theorem callBuiltin_range
    (nonzero : step ≠ 0)
    (short : intCount start finish step ≤ maxRangeLength)
    (site : CallSite)
    (host : Host) :
    callBuiltin (.core .range) site [.int start, .int (finish + step.sign),
        .int step] host =
      .ok
        (.array ((List.range (intCount start finish step)).map (intAt start step)))
        host := by
  have notTooLong :
      ¬ ((rangeLength start (finish + step.sign) step : Nat) : Int) > maxInt := by
    rw [rangeLength_eq_intCount nonzero]
    unfold maxRangeLength at short
    unfold maxInt
    omega
  have made :
      makeRange [.int start, .int (finish + step.sign), .int step] =
        .ok (.array (rangeItems start (finish + step.sign) step)) := by
    show (if step = 0 then _ else _) = _
    rw [if_neg nonzero]
    rw [if_neg notTooLong, if_neg (by rw [rangeLength_eq_intCount nonzero]; omega)]
    rfl
  have called :
      callBuiltin (.core .range) site [.int start, .int (finish + step.sign),
          .int step] host =
        Change.ofOutcome (operation
          (makeRange [.int start, .int (finish + step.sign), .int step])) host :=
    rfl
  rw [called, made, rangeItems, rangeLength_eq_intCount nonzero]
  rfl

end Progression

open Progression

/-- A body has run for the first values of a counting loop, once for
each in order. Every run began with the loop variable bound to its value
and ended normally. -/
inductive Rounds
    (name : String)
    (values : Nat → Value)
    (body : Action Completion)
    (begun : Machine) : Nat → Machine → Prop where
  | none : Rounds name values body begun 0 begun
  | next
      {count : Nat}
      {before entered after : Machine}
      (earlier : Rounds name values body begun count before)
      (binds : entered = before.mapEnv (·.declare name (values count)))
      (bound : entered.env.find? name = some (values count))
      (ran : body entered = .ok .normal after) :
      Rounds name values body begun (count + 1) after

namespace Rounds

variable
  {name : String}
  {values : Nat → Value}
  {body body' : Action Completion}
  {begun before after : Machine}
  {count : Nat}

/-- One more run of the body that ends normally is one more round. -/
theorem extend
    (rounds : Rounds name values body begun count before)
    (ran :
      body (before.mapEnv (·.declare name (values count))) = .ok .normal after) :
    Rounds name values body begun (count + 1) after :=
  .next rounds rfl (Environment.find?_declare_self before.env name _) ran

/-- A body that does what another one does where that one ends normally runs
for the same rounds. -/
theorem mono
    (rounds : Rounds name values body begun count after)
    (same :
      ∀ machine after, body machine = .ok .normal after →
        body' machine = .ok .normal after) :
    Rounds name values body' begun count after := by
  induction rounds with
  | none =>
      exact .none
  | next earlier binds bound ran inductionHypothesis =>
      exact .next inductionHypothesis binds bound (same _ _ ran)

/-- The settings stay what they are. -/
theorem settings
    (keeps : Keeps Machine.SameGuards body)
    (rounds : Rounds name values body begun count after) :
    after.host.settings = begun.host.settings := by
  induction rounds with
  | none =>
      rfl
  | next earlier binds bound ran inductionHypothesis =>
      rw [(keeps.of_ok ran).settings, binds]
      exact inductionHypothesis

end Rounds

namespace Action

variable
  {name : String}
  {line : Nat}
  {start finish step : Int}
  {body : Action Completion}
  {machine begun after : Machine}
  {count : Nat}

/-- An iteration that the settings allow may begin. -/
theorem countIteration_of_allows
    (allows : machine.host.settings.Allows (count + 1))
    (line : Nat) :
    countIteration (count + 1) line machine = .ok () machine := by
  have within := allows.resolve_left (Nat.succ_ne_zero count)
  unfold countIteration
  rw [Change.get_bind]
  cases given : machine.host.settings.loopLimit with
  | none =>
      rfl
  | some limit =>
      have notAbove := within limit given
      simp only [notAbove]
      rfl

/-- An iteration beyond the limit of the settings is an error. -/
theorem countIteration_of_less
    {limit : Number}
    (given : machine.host.settings.loopLimit = some limit)
    (above : limit.less (.int count) = true)
    (line : Nat) :
    countIteration count line machine =
      .error (.error ⟨.runtime (.loopLimit limit), some line⟩) machine := by
  unfold countIteration
  rw [Change.get_bind]
  simp only [given, above]
  rfl

/-- A loop that has used up its integers ends. -/
theorem runRange_past
    (past : (ofInts start finish step).isPast (.int (start + count * step)) = true)
    (fuel : Nat) :
    runRange name line (ofInts start finish step) body (fuel + 1) count machine =
      .ok .normal machine := by
  show
    (if (ofInts start finish step).isPast (.int (start + count * step)) then _
      else _ : Action Completion) machine = _
  rw [if_pos past]
  rfl

/-- A loop that has not used up its integers goes on to the next iteration. -/
theorem runRange_next
    (inside :
      (ofInts start finish step).isPast (.int (start + count * step)) = false)
    (fuel : Nat) :
    runRange name line (ofInts start finish step) body (fuel + 1) count machine =
      (do
        match ← iterate .forLoop (count + 1) line [(name, intAt start step count)]
          body with
        | none =>
            runRange name line (ofInts start finish step) body fuel (count + 1)
        | some completion => return completion) machine := by
  show
    (if (ofInts start finish step).isPast (.int (start + count * step)) then _
      else _ : Action Completion) machine = _
  rw [if_neg (by simp [inside])]
  rfl

/-- A round of a loop is one iteration. -/
theorem runRange_round
    (inside :
      (ofInts start finish step).isPast (.int (start + count * step)) = false)
    (allows : machine.host.settings.Allows (count + 1))
    (ran :
      body (machine.mapEnv (·.declare name (intAt start step count))) =
        .ok .normal after)
    (fuel : Nat) :
    runRange name line (ofInts start finish step) body (fuel + 1) count machine =
      runRange name line (ofInts start finish step) body fuel (count + 1)
        after := by
  have iterated :
      iterate .forLoop (count + 1) line [(name, intAt start step count)] body
          machine =
        .ok none after := by
    refine (Change.bind_of_ok (countIteration_of_allows allows line)).trans ?_
    exact (Change.bind_of_ok rfl).trans (Change.bind_of_ok ran)
  rw [runRange_next inside, Change.bind_of_ok iterated]

/-- After some rounds a loop is where a loop that begins there would be. -/
theorem runRange_rounds
    (nonzero : step ≠ 0)
    (keeps : Keeps Machine.SameGuards body)
    (rounds : Rounds name (intAt start step) body begun count after)
    (inside : count ≤ intCount start finish step)
    (allows : begun.host.settings.Allows count)
    (fuel : Nat) :
    runRange name line (ofInts start finish step) body (fuel + count) 0 begun =
      runRange name line (ofInts start finish step) body fuel count after := by
  induction rounds generalizing fuel with
  | none =>
      rfl
  | @next count before entered after earlier binds bound ran inductionHypothesis =>
      -- The earlier rounds lead to the last one, which is an iteration under
      -- the same limit.
      have sameSettings := earlier.settings keeps
      rw [← Nat.add_assoc, Nat.add_right_comm, inductionHypothesis (by omega)
        (allows.fewer (Nat.le_succ count)) (fuel + 1)]
      subst binds
      exact runRange_round ((lt_intCount_iff nonzero).mp (by omega))
        (by rw [sameSettings]; exact allows) ran fuel

/-- A loop ends when it has made a round for each of its integers. -/
theorem runRange_completes
    (nonzero : step ≠ 0)
    (keeps : Keeps Machine.SameGuards body)
    (rounds :
      Rounds name (intAt start step) body begun (intCount start finish step) after)
    (allows : begun.host.settings.Allows (intCount start finish step))
    {iterations : Nat}
    (enough : intCount start finish step < iterations)
    (line : Nat) :
    runRange name line (ofInts start finish step) body iterations 0 begun =
      .ok .normal after := by
  have past :
      (ofInts start finish step).isPast
        (.int (start + (intCount start finish step : Nat) * step)) = true := by
    by_contra inside
    exact Nat.lt_irrefl _ ((lt_intCount_iff nonzero).mpr (by simpa using inside))
  obtain ⟨rest, shape⟩ := Nat.exists_eq_add_of_lt enough
  rw [shape, Nat.add_assoc, Nat.add_comm,
    runRange_rounds nonzero keeps rounds (Nat.le_refl _) allows]
  exact runRange_past past rest

/-- A loop that has more integers than the settings allow is stopped after the
last round that they allow. -/
theorem runRange_stops
    {limit : Number}
    (nonzero : step ≠ 0)
    (keeps : Keeps Machine.SameGuards body)
    (rounds : Rounds name (intAt start step) body begun count after)
    (more : count < intCount start finish step)
    (allows : begun.host.settings.Allows count)
    (given : begun.host.settings.loopLimit = some limit)
    (above : limit.less (.int (count + 1 : Nat)) = true)
    {iterations : Nat}
    (enough : count < iterations)
    (line : Nat) :
    runRange name line (ofInts start finish step) body iterations 0 begun =
      .error (.error ⟨.runtime (.loopLimit limit), some line⟩) after := by
  rw [← rounds.settings keeps] at given
  have iterated :
      iterate .forLoop (count + 1) line [(name, intAt start step count)]
          body after =
        .error (.error ⟨.runtime (.loopLimit limit), some line⟩) after :=
    Change.bind_of_error (countIteration_of_less given above line)
  obtain ⟨rest, shape⟩ := Nat.exists_eq_add_of_lt enough
  rw [shape, Nat.add_assoc, Nat.add_comm,
    runRange_rounds nonzero keeps rounds (Nat.le_of_lt more) allows,
    runRange_next ((lt_intCount_iff nonzero).mp more),
    Change.bind_of_error iterated]

/-- What a loop in a scope of its own ends with is what the loop ends with,
without the scope. -/
theorem atLine_inScope_ok
    {action : Action α}
    {a : α}
    (ran : action (begun.mapEnv Environment.push) = .ok a after)
    (line : Nat) :
    atLine line (inScope action) begun =
      .ok a (after.mapEnv Environment.leaveScope) := by
  unfold atLine inScope between
  rw [ran]

theorem atLine_inScope_error
    {action : Action α}
    {cause : Cause}
    {errorLine : Nat}
    (ran :
      action (begun.mapEnv Environment.push) =
        .error (.error ⟨cause, some errorLine⟩) after)
    (line : Nat) :
    atLine line (inScope action) begun =
      .error (.error ⟨cause, some errorLine⟩)
        (after.mapEnv Environment.leaveScope) := by
  unfold atLine inScope between
  rw [ran]
  rfl

end Action

open GridScript.Script.Action

/-- A counting loop comes to its first iteration: its bounds and its
step are integers. -/
structure Machine.BeginsCounting
    (machine : Machine)
    (fuel : Nat)
    (first last : Expression)
    (size : Option Expression)
    (start finish step : Int)
    (begun : Machine) : Prop where
  bounds :
    ∃ afterFirst afterLast,
      evaluate fuel first machine = .ok (.int start) afterFirst ∧
        evaluate fuel last afterFirst = .ok (.int finish) afterLast ∧
          evaluateOr (.int 1) (evaluate fuel) size afterLast = .ok (.int step) begun
  nonzero : step ≠ 0

/-- Whatever the loop comes to, the runs of its body end normally. -/
def EndsEachRound
    (name : String)
    (start finish step : Int)
    (body : Action Completion)
    (begun : Machine) : Prop :=
  ∀ count before,
    count < intCount start finish step → begun.host.settings.Allows (count + 1) →
      Rounds name (intAt start step) body begun count before →
        ∃ after, body (before.mapEnv (·.declare name (intAt start step count))) =
          .ok .normal after

/-- A body whose runs end normally makes as many rounds as the range has
integers and the settings allow. -/
theorem exists_rounds
    {name : String}
    {start finish step : Int}
    {body : Action Completion}
    {begun : Machine}
    (ends : EndsEachRound name start finish step body begun)
    {count : Nat}
    (inside : count ≤ intCount start finish step)
    (allows : begun.host.settings.Allows count) :
    ∃ after, Rounds name (intAt start step) body begun count after := by
  induction count with
  | zero =>
      exact ⟨begun, .none⟩
  | succ count inductionHypothesis =>
      obtain ⟨before, rounds⟩ :=
        inductionHypothesis (Nat.le_of_succ_le inside)
          (allows.fewer (Nat.le_succ count))
      obtain ⟨after, ran⟩ := ends count before inside allows rounds
      exact ⟨after, rounds.extend ran⟩

/-- Counting begins in the same way with more fuel. -/
theorem Machine.BeginsCounting.of_le
    {fuel more : Nat}
    (bounded : fuel ≤ more)
    {machine begun : Machine}
    {first last : Expression}
    {size : Option Expression}
    {start finish step : Int}
    (begins : machine.BeginsCounting fuel first last size start finish step begun) :
    machine.BeginsCounting more first last size start finish step begun := by
  obtain ⟨afterFirst, afterLast, starts, finishes, steps⟩ := begins.bounds
  refine ⟨⟨afterFirst, afterLast, evaluate_of_le bounded starts,
    evaluate_of_le bounded finishes, ?_⟩, begins.nonzero⟩
  cases size with
  | none =>
      exact steps
  | some e =>
      exact evaluate_of_le bounded steps

/-- A counting loop runs in a scope of its own once its bounds have values. -/
theorem execute_forRange
    {machine begun : Machine}
    {fuel : Nat}
    {first last : Expression}
    {size : Option Expression}
    {start finish step : Int}
    (begins : machine.BeginsCounting fuel first last size start finish step begun)
    (name : String)
    (body : List Statement)
    (line : Nat) :
    execute (fuel + 1) (.forRange name first last size body line) machine =
      atLine line
        (inScope
          (runRange name line (ofInts start finish step)
            (runAll (execute fuel) body)
          (iterationBound fuel) 0)) begun := by
  obtain ⟨afterFirst, afterLast, starts, finishes, steps⟩ := begins.bounds
  have bounds :
      (ofAttempt none (ofBounds (.int start) (.int finish) (.int step)) :
        Action Progression)
          begun =
        .ok (ofInts start finish step) begun := by
    rw [ofBounds_int begins.nonzero]
    rfl
  refine atLine_eq ?_ line
  exact (Change.bind_of_ok starts).trans ((Change.bind_of_ok finishes).trans
    ((Change.bind_of_ok steps).trans (Change.bind_of_ok bounds)))

/-- What a counting loop over integers does, with enough fuel, once it comes to
its first iteration. -/
structure CountsThrough
    (fuel : Nat)
    (name : String)
    (start finish step : Int)
    (body : List Statement)
    (line : Nat)
    (begun : Machine)
    (loop : Nat → EStateM.Result Halt Machine Completion) : Prop where
  /-- It runs its body once for each integer of its range, if the settings allow
  so many iterations. -/
  completes :
    begun.host.settings.Allows (intCount start finish step) →
      ∃ after,
        Rounds name (intAt start step) (runAll (execute fuel) body)
            (begun.mapEnv Environment.push) (intCount start finish step) after ∧
          ∀ more, fuel ≤ more → intCount start finish step < iterationBound more →
            loop more = .ok .normal (after.mapEnv Environment.leaveScope)
  /-- Otherwise it runs its body as often as the settings allow, and then
  there is an error. -/
  stops :
    ¬ begun.host.settings.Allows (intCount start finish step) →
      ∃ rounds limit after,
        rounds < intCount start finish step ∧ begun.host.settings.LimitsTo rounds ∧
          begun.host.settings.loopLimit = some limit ∧
          Rounds name (intAt start step) (runAll (execute fuel) body)
            (begun.mapEnv Environment.push) rounds after ∧
          ∀ more, fuel ≤ more → rounds < iterationBound more →
            loop more =
              .error (.error ⟨.runtime (.loopLimit limit), some line⟩)
                (after.mapEnv Environment.leaveScope)
  /-- The integers lie between the bounds. -/
  between :
    ∀ count, count < intCount start finish step →
      min start finish ≤ start + count * step ∧
        start + count * step ≤ max start finish
  /-- They are those of the built-in range up to the integer after the end. -/
  range :
    intCount start finish step ≤ maxRangeLength → ∀ site host,
      callBuiltin (.core .range) site [.int start, .int (finish + step.sign),
          .int step] host =
        .ok
          (.array
            ((List.range (intCount start finish step)).map (intAt start step))) host

/--
A counting loop over integers visits exactly its range.

From bounds and a step that are integers it counts through as many integers as
fit between the bounds, whatever its body does to variables, as long as the runs
of the body end normally.
-/
theorem forRange_countsThrough
    {machine begun : Machine}
    {fuel : Nat}
    {first last : Expression}
    {size : Option Expression}
    {start finish step : Int}
    {name : String}
    {body : List Statement}
    (begins : machine.BeginsCounting fuel first last size start finish step begun)
    (ends :
      EndsEachRound name start finish step (runAll (execute fuel) body)
        (begun.mapEnv Environment.push))
    (line : Nat) :
    CountsThrough fuel name start finish step body line begun fun more =>
      execute (more + 1) (.forRange name first last size body line) machine := by
  have nonzero := begins.nonzero
  have keeps (fuel : Nat) : Keeps Machine.SameGuards (runAll (execute fuel) body) :=
    (signals_runAll fuel body).keeps
  have withMore
      {count more : Nat}
      {after : Machine}
      (bounded : fuel ≤ more)
      (rounds :
        Rounds name (intAt start step) (runAll (execute fuel) body)
          (begun.mapEnv Environment.push) count after) :
      Rounds name (intAt start step) (runAll (execute more) body)
        (begun.mapEnv Environment.push) count after :=
    rounds.mono fun _ _ => runAll_of_le bounded
  constructor
  case completes =>
    intro allows
    obtain ⟨after, rounds⟩ := exists_rounds ends (Nat.le_refl _) allows
    refine ⟨after, rounds, fun more bounded enough => ?_⟩
    have ran :=
      runRange_completes nonzero (keeps more) (withMore bounded rounds) allows
        enough line
    show execute (more + 1) _ machine = _
    rw [execute_forRange (begins.of_le bounded)]
    exact atLine_inScope_ok ran line
  case stops =>
    intro refused
    obtain ⟨count, less, limits⟩ := Settings.exists_limitsTo refused
    obtain ⟨limit, given, above⟩ := Settings.exists_less limits.noMore
    obtain ⟨after, rounds⟩ := exists_rounds ends (Nat.le_of_lt less) limits.allows
    refine ⟨count, limit, after, less, limits, given, rounds,
      fun more bounded enough => ?_⟩
    have ran :=
      runRange_stops nonzero (keeps more) (withMore bounded rounds) less
        limits.allows given above enough line
    show execute (more + 1) _ machine = _
    rw [execute_forRange (begins.of_le bounded)]
    exact atLine_inScope_error ran line
  case between =>
    exact fun count inside => between_of_lt_intCount nonzero inside
  case range =>
    exact fun short site host => callBuiltin_range nonzero short site host

/-- A body that overwrites the variable of its loop. -/
def overwritingBody : List Statement :=
  [.assign ⟨"i", [], 2⟩ (.literal (.int 7) 2) 2]

/-- From five down to one by twos there are three rounds, although each
overwrites the variable. -/
theorem forRange_countsThrough_falling :
    ∃ after,
      Rounds "i" (intAt 5 (-2)) (runAll (execute 2) overwritingBody)
          ((Machine.start (Settings.ofList [])).mapEnv Environment.push) 3 after ∧
        ∀ more, 3 < more →
          execute (more + 1)
              (.forRange "i" (.literal (.int 5) 1) (.literal (.int 1) 1)
                (some (.unary .negate (.literal (.int 2) 1) 1)) overwritingBody 1)
              (.start (Settings.ofList [])) =
            .ok .normal (after.mapEnv Environment.leaveScope) := by
  let machine : Machine := .start (Settings.ofList [])
  have begins :
      machine.BeginsCounting 2 (.literal (.int 5) 1) (.literal (.int 1) 1)
        (some (.unary .negate (.literal (.int 2) 1) 1)) 5 1 (-2) machine :=
    ⟨⟨machine, machine, rfl, rfl, rfl⟩, by decide⟩
  have ends :
      EndsEachRound "i" 5 1 (-2) (runAll (execute 2) overwritingBody)
        (machine.mapEnv Environment.push) :=
    fun _ _ _ _ _ => ⟨_, rfl⟩
  have allows : machine.host.settings.Allows 3 :=
    (Settings.limitsTo_int rfl).allows.fewer (by decide)
  obtain ⟨after, rounds, ran⟩ :=
    (forRange_countsThrough begins ends 1).completes allows
  refine ⟨after, rounds, fun more enough => ran more (by omega) ?_⟩
  have three : intCount 5 1 (-2) = 3 := rfl
  unfold iterationBound
  omega

end Script

end GridScript
