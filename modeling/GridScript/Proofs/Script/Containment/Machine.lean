import GridScript.Proofs.Entries
import GridScript.Proofs.Script.Containment.Builtin
import GridScript.Proofs.Value.Order
import GridScript.Script.Call
import GridScript.Script.Loop
import GridScript.Script.Place

namespace GridScript.Script

/-!
# Variables that stay within the number formats

The integers in all variables fit, at any depth of blocks and of calls, and
whatever is done to the variables with values that fit keeps it so.
-/

variable {admits : Breach → Prop}

/-! ## Variables -/

/-- The integers of all variables of a scope fit. -/
def Scope.Narrow (admits : Breach → Prop) (scope : Scope) : Prop :=
  ∀ entry ∈ scope, entry.2.Narrow admits

theorem Scope.Narrow.find?
    {scope : Scope}
    {name : String}
    {v : Value}
    (narrow : Scope.Narrow admits scope)
    (found : scope.find? name = some v) :
    v.Narrow admits :=
  narrow (name, v) (mem_of_lookup found)

theorem Scope.Narrow.set
    {scope : Scope}
    {v : Value}
    (narrow : Scope.Narrow admits scope)
    (name : String)
    (fits : v.Narrow admits) :
    Scope.Narrow admits (scope.set name v) := by
  induction scope with
  | nil =>
      intro entry member
      obtain rfl := List.mem_singleton.mp member
      exact fits
  | cons held rest inductionHypothesis =>
      have restNarrow : Scope.Narrow admits rest :=
        fun entry member => narrow entry (by simp [member])
      intro entry member
      unfold Scope.set at member
      split at member
      · rcases List.mem_cons.mp member with rfl | inRest
        · exact fits
        · exact restNarrow entry inRest
      · rcases List.mem_cons.mp member with rfl | inRest
        · exact narrow _ (by simp)
        · exact inductionHypothesis restNarrow entry inRest

/-- The integers of all variables fit, also of those that calls hide. -/
structure Environment.Narrow
    (admits : Breach → Prop)
    (env : Environment) : Prop where
  globals : Scope.Narrow admits env.globals
  blocks : ∀ scope ∈ env.blocks, Scope.Narrow admits scope
  callers : ∀ blocks ∈ env.callers, ∀ scope ∈ blocks, Scope.Narrow admits scope

namespace Environment.Narrow

variable {env : Environment} (narrow : env.Narrow admits)

include narrow

/-- Admitting breaches only loosens what is asked of variables. -/
theorem mono
    {more : Breach → Prop}
    (weaker : admits .overflow → more .overflow) :
    env.Narrow more :=
  ⟨fun entry member => (narrow.globals entry member).mono weaker,
    fun scope inBlocks entry member =>
      (narrow.blocks scope inBlocks entry member).mono weaker,
    fun blocks inCallers scope inBlocks entry member =>
      (narrow.callers blocks inCallers scope inBlocks entry member).mono weaker⟩

theorem find?
    {name : String}
    {v : Value}
    (found : env.find? name = some v) :
    v.Narrow admits := by
  unfold Environment.find? at found
  cases inBlocks : env.blocks.findSome? (·.find? name) with
  | none =>
      rw [inBlocks] at found
      exact narrow.globals.find? found
  | some held =>
      rw [inBlocks] at found
      obtain rfl : held = v := Option.some.inj found
      obtain ⟨scope, member, held⟩ := List.exists_of_findSome?_eq_some inBlocks
      exact (narrow.blocks scope member).find? held

theorem declare
    {v : Value}
    (name : String)
    (fits : v.Narrow admits) :
    (env.declare name v).Narrow admits := by
  have blocks := narrow.blocks
  unfold Environment.declare
  split
  · exact ⟨narrow.globals.set name fits, narrow.blocks, narrow.callers⟩
  next scope rest shape =>
    rw [shape] at blocks
    refine ⟨narrow.globals, fun held member => ?_, narrow.callers⟩
    rcases List.mem_cons.mp member with rfl | inRest
    · exact (blocks scope (by simp)).set name fits
    · exact blocks held (by simp [inRest])

omit narrow in
theorem assignBlock?
    {name : String}
    {v : Value}
    (fits : v.Narrow admits)
    {scopes assigned : List Scope}
    (each : ∀ scope ∈ scopes, Scope.Narrow admits scope)
    (found : Environment.assignBlock? name v scopes = some assigned) :
    ∀ scope ∈ assigned, Scope.Narrow admits scope := by
  induction scopes generalizing assigned with
  | nil =>
      cases found
  | cons scope rest inductionHypothesis =>
      have restNarrow : ∀ held ∈ rest, Scope.Narrow admits held :=
        fun held member => each held (by simp [member])
      unfold Environment.assignBlock? at found
      split at found
      · obtain rfl := Option.some.inj found
        intro held member
        rcases List.mem_cons.mp member with rfl | inRest
        · exact (each scope (by simp)).set name fits
        · exact restNarrow held inRest
      · obtain ⟨more, inner, rfl⟩ := Option.map_eq_some_iff.mp found
        intro held member
        rcases List.mem_cons.mp member with rfl | inMore
        · exact each _ (by simp)
        · exact inductionHypothesis restNarrow inner held inMore

theorem assign
    {v : Value}
    (name : String)
    (fits : v.Narrow admits) :
    (env.assign name v).Narrow admits := by
  unfold Environment.assign
  split
  next blocks found =>
    exact ⟨narrow.globals, assignBlock? fits narrow.blocks found, narrow.callers⟩
  next =>
    split
    · exact ⟨narrow.globals.set name fits, narrow.blocks, narrow.callers⟩
    · exact narrow.declare name fits

theorem push : env.push.Narrow admits := by
  refine ⟨narrow.globals, fun scope member => ?_, narrow.callers⟩
  rcases List.mem_cons.mp member with rfl | inBlocks
  · exact nofun
  · exact narrow.blocks scope inBlocks

theorem leaveScope : env.leaveScope.Narrow admits :=
  ⟨narrow.globals,
      fun scope member => narrow.blocks scope (List.mem_of_mem_drop member),
    narrow.callers⟩

theorem enterCall
    {bindings : Scope}
    (bound : Scope.Narrow admits bindings) :
    (env.enterCall bindings).Narrow admits := by
  refine ⟨narrow.globals, fun scope member => ?_, fun blocks member => ?_⟩
  · obtain rfl := List.mem_singleton.mp member
    exact bound
  · rcases List.mem_cons.mp member with rfl | inCallers
    · exact narrow.blocks
    · exact narrow.callers blocks inCallers

theorem leaveCall : env.leaveCall.Narrow admits := by
  refine ⟨narrow.globals, fun scope member => ?_, fun blocks member =>
    narrow.callers blocks (List.mem_of_mem_drop member)⟩
  cases callers : env.callers with
  | nil =>
      simp [Environment.leaveCall, callers] at member
  | cons blocks rest =>
      refine narrow.callers blocks (by simp [callers]) scope ?_
      simpa [Environment.leaveCall, callers] using member

theorem callScope : Scope.Narrow admits env.callScope := by
  unfold Environment.callScope
  cases last : env.blocks.getLast? with
  | none =>
      exact nofun
  | some scope =>
      exact narrow.blocks scope (List.mem_of_getLast? last)

end Environment.Narrow

/-! ## Programs -/

/-- A literal fits, and a call of a built-in function breaches no
more than is admitted. -/
def Expression.Allowed (admits : Breach → Prop) : Expression → Prop
  | .literal l _ => l.value.Narrow admits
  | .call callee _ _ =>
      ∀ builtin, lookupBuiltin? callee = some builtin → ∀ b, builtin.MayBreach b →
        admits b
  | _ => True

/-- A halt is an error of a script, an admitted breach or the end of the fuel. -/
def Halt.Admitted (admits : Breach → Prop) : Halt → Prop
  | .breach b => admits b
  | _ => True

end GridScript.Script

namespace GridScript

/-!
## Counting loops that stay within the number formats

The values of a counting loop are computed without a check. The number of
iterations keeps them so small that they have floats, and a value that is not
past the end lies between the bounds, so it fits 64 bits where the bounds do.
-/

open GridScript.Number

variable {admits : Breach → Prop}

namespace Script.Progression

/-- The bounds and the step of a counting loop fit. -/
structure Narrow (admits : Breach → Prop) (p : Progression) : Prop where
  start : p.start.Narrow admits
  finish : p.finish.Narrow admits
  step : p.step.Narrow admits

variable {p : Progression}

/-- An integer between two that fit. -/
theorem isNarrow_of_between
    {low high i : Int}
    (lowNarrow : IsNarrow admits low)
    (highNarrow : IsNarrow admits high)
    (above : low ≤ i)
    (below : i ≤ high) :
    IsNarrow admits i := by
  rcases lowNarrow with lowFits | admitted
  · rcases highNarrow with highFits | admitted
    · have low := fitsInt_iff.mp lowFits
      have high := fitsInt_iff.mp highFits
      exact .inl (fitsInt_iff.mpr ⟨by omega, by omega⟩)
    · exact .inr admitted
  · exact .inr admitted

/-- An integer that is not past the end lies between the start and the end. -/
theorem isNarrow_of_within
    {start finish step : Int}
    (startNarrow : IsNarrow admits start)
    (finishNarrow : IsNarrow admits finish)
    (count : Nat)
    (within : (Progression.mk (.int start) (.int finish) (.int step)).isPast
      (.int (start + count * step)) = false) :
    IsNarrow admits (start + count * step) := by
  simp only [isPast, Number.less_int, Bool.or_eq_false_iff, Bool.and_eq_false_imp,
    decide_eq_true_eq, decide_eq_false_iff_not, Int.not_lt] at within
  obtain ⟨rising, falling⟩ := within
  rcases Int.lt_trichotomy step 0 with negative | rfl | positive
  · have distance : count * step ≤ 0 :=
      Int.mul_nonpos_of_nonneg_of_nonpos (by omega) (by omega)
    exact isNarrow_of_between finishNarrow startNarrow (falling negative) (by omega)
  · simpa using startNarrow
  · have distance : 0 ≤ count * step := Int.mul_nonneg (by omega) (by omega)
    exact isNarrow_of_between startNarrow finishNarrow (by omega) (rising positive)

/-- A sum with a few steps has few digits. -/
theorem small_sum
    {start step : Int}
    (startNarrow : IsNarrow admits start)
    (stepNarrow : IsNarrow admits step)
    {count : Nat}
    (few : count ≤ 2 ^ 100) :
    (start + count * step).natAbs < 2 ^ 200 ∨ admits .overflow := by
  rcases startNarrow with startFits | admitted
  · rcases stepNarrow with stepFits | admitted
    · have startSmall := natAbs_le_of_fitsInt startFits
      have product : (count * step).natAbs ≤ 2 ^ 100 * 2 ^ 63 := by
        rw [Int.natAbs_mul]
        exact Nat.mul_le_mul few (natAbs_le_of_fitsInt stepFits)
      have sum := Int.natAbs_add_le start (count * step)
      exact .inl (by omega)
    · exact .inr admitted
  · exact .inr admitted

theorem sumFloat_meets
    (narrow : p.Narrow admits)
    {count : Nat}
    (few : count ≤ 2 ^ 100) :
    Meets admits (fun _ => True) (sumFloat p.start (p.offset count)) := by
  obtain ⟨start, finish, step⟩ := p
  have startNarrow : start.Narrow admits := narrow.start
  have stepNarrow : step.Narrow admits := narrow.step
  have offsetFloat :
      Meets admits (fun _ => True)
        (offset ⟨start, finish, step⟩ count).toFloat := by
    cases step with
    | int step =>
        have zero : IsNarrow admits 0 := .inl (by decide)
        have small := small_sum zero stepNarrow few
        rw [Int.zero_add] at small
        exact toFloat_meets small
    | float size =>
        exact .ok trivial
  show Meets admits (fun _ => True)
    (sumFloat start (offset ⟨start, finish, step⟩ count))
  unfold sumFloat
  split
  next l r isOffset =>
    cases step with
    | int step =>
        obtain rfl : (count : Int) * step = r := Number.int.inj isOffset
        exact toFloat_meets (small_sum startNarrow stepNarrow few)
    | float size =>
        cases isOffset
  next =>
    exact startNarrow.toFloat.bind fun _ _ =>
      offsetFloat.bind fun _ _ => .pure trivial

/-- The value after so many steps has a float where one is needed, and it fits
unless it is past the end. -/
theorem Narrow.value
    (narrow : p.Narrow admits)
    {count : Nat}
    (few : count ≤ 2 ^ 100) :
    Meets admits (fun v => p.isPast v = false → v.Narrow admits)
      (p.value count) := by
  have sum := sumFloat_meets narrow few
  obtain ⟨start, finish, step⟩ := p
  obtain ⟨startNarrow, finishNarrow, stepNarrow⟩ := narrow
  unfold Progression.value
  dsimp only
  split
  next first last size =>
    exact .ok (isNarrow_of_within startNarrow finishNarrow count)
  next =>
    exact sum.bind fun _ _ => finishNarrow.toFloat.bind fun _ _ =>
      stepNarrow.toFloat.bind fun _ _ => .pure fun _ => trivial

end Script.Progression

end GridScript

namespace GridScript.Script

/-!
## Places that stay within the number formats

What is read at a place inside a value whose integers fit is such a value, and
so is what writing one there makes of it. The elements of a value and the bounds
of a counting loop fit as well.
-/

variable {admits : Breach → Prop}

theorem position_contained (length : Nat) (index : Value) :
    Contained admits (fun _ => True) (position length index) := by
  unfold position
  dsimp only
  repeat' split
  all_goals first
    | exact .ok trivial
    | exact .fail _

theorem readAt_contained
    {v : Value}
    (narrow : v.Narrow admits)
    (path : List Value) :
    Contained admits (Value.Narrow admits) (readAt v path) := by
  fun_induction readAt v path with
  | case1 v =>
      exact .ok narrow
  | case2 items index path inductionHypothesis =>
      exact (position_contained _ _).bind fun i _ =>
        inductionHypothesis i (Value.Narrow.getD (Value.narrow_array.mp narrow) i)
  | case3 =>
      exact .fail _

theorem writeAt_contained
    {v new : Value}
    (narrow : v.Narrow admits)
    (newNarrow : new.Narrow admits)
    (path : List Value) :
    Contained admits (Value.Narrow admits) (writeAt v path new) := by
  induction path generalizing v with
  | nil =>
      unfold writeAt
      exact .ok newNarrow
  | cons index path inductionHypothesis =>
      unfold writeAt
      split
      next items =>
        have each := Value.narrow_array.mp narrow
        refine (position_contained _ _).bind fun i _ =>
          (inductionHypothesis (Value.Narrow.getD each i)).bind fun inner fits =>
            .pure (.array fun w member => ?_)
        rcases List.mem_or_eq_of_mem_set member with inItems | rfl
        · exact each w inItems
        · exact fits
      next =>
        exact .fail _

theorem elementOf_contained
    {container : Value}
    (narrow : container.Narrow admits)
    (book : Book)
    (index : Value) :
    Contained admits (Value.Narrow admits) (elementOf book container index) := by
  have place (length : Nat) :
      Contained admits (fun _ => True) (operation (position length index)) :=
    operation_contained (position_contained length index)
  unfold elementOf
  split
  · exact (place _).bind fun i _ =>
      .pure (Value.Narrow.getD (Value.narrow_array.mp narrow) i)
  · exact (place _).bind fun _ _ => .pure (.string _)
  · exact (onSheet_contained (book.resolve_contained _)).bind fun _ _ =>
      (place _).bind fun _ _ => .pure (narrow_cells _)
  · exact .fail _

theorem elements_contained
    {collection : Value}
    (narrow : collection.Narrow admits)
    (book : Book) :
    Contained admits (fun items => ∀ v ∈ items, v.Narrow admits)
      (elements book collection) := by
  unfold elements
  split
  · exact .ok (Value.narrow_array.mp narrow)
  · refine .ok fun v member => ?_
    obtain ⟨c, -, rfl⟩ := List.mem_map.mp member
    exact .string _
  · refine (onSheet_contained (book.resolve_contained _)).bind fun sheet _ =>
      .pure fun v member => ?_
    obtain ⟨row, -, rfl⟩ := List.mem_map.mp member
    exact narrow_cells row
  · exact .fail _

/-! ## Bounds of loops -/

/-- A bound of a counting loop, which must be a number. -/
def numberBound (v : Value) : Attempt Number :=
  match v.number? with
  | some n => .ok n
  | none => fail (.operation (kindError .loopBound v))

theorem ofBounds_contained
    {start finish step : Value}
    (startNarrow : start.Narrow admits)
    (finishNarrow : finish.Narrow admits)
    (stepNarrow : step.Narrow admits) :
    Contained admits (Progression.Narrow admits)
      (Progression.ofBounds start finish step) := by
  have bound (v : Value) (narrow : v.Narrow admits) :
      Contained admits (Number.Narrow admits) (numberBound v) := by
    unfold numberBound
    split
    next n isNumber =>
      exact .ok (narrow.number isNumber)
    next =>
      exact .fail _
  refine (bound start startNarrow).bind fun _ first =>
    (bound finish finishNarrow).bind
    fun _ last => (bound step stepNarrow).bind fun _ size => ?_
  dsimp only
  split
  · exact .fail _
  · exact .pure ⟨first, last, size⟩

end GridScript.Script
