import GridScript.Proofs.Value.Containment
import GridScript.Script.Builtin.Call
import GridScript.Script.Builtin.Math
import GridScript.Script.Builtin.Text

namespace GridScript

/-!
# Functions of values that stay within the number formats

Applied to values whose integers fit, the numeric functions, the functions on
texts and the lookups give such values again. Means and roundings have breaches
of their own, and so have counts, which no memory makes large enough.
-/

open GridScript.Number

variable {admits : Breach → Prop}

/-! ## Exact sums -/

theorem RunningSum.add_meets
    (admitted : admits .overflow)
    (sum : RunningSum)
    (x : Float) :
    Meets admits (fun _ => True) (sum.add x) := by
  unfold RunningSum.add
  split
  · exact .ok trivial
  · exact .ok trivial
  · exact .ok trivial
  · dsimp only
    split
    · exact .error admitted
    · exact .ok trivial

theorem RunningSum.total_meets
    (admitted : admits .opposedInfinities)
    (sum : RunningSum) :
    Meets admits (fun _ => True) sum.total := by
  unfold RunningSum.total
  repeat' split
  all_goals first
    | exact .error admitted
    | exact .ok trivial

theorem exactSum_meets
    (overflows : admits .overflow)
    (opposes : admits .opposedInfinities)
    (xs : List Float) :
    Meets admits (fun _ => True) (exactSum xs) :=
  (Meets.foldlM xs trivial fun x _ sum _ =>
    RunningSum.add_meets overflows sum x).bind
    fun sum _ => RunningSum.total_meets opposes sum

namespace Script

/-! ## Arguments -/

theorem checkArity_contained
    (name : String)
    (arity : Arity)
    (arguments : List Value) :
    Contained admits (fun _ => True) (checkArity name arity arguments) := by
  unfold checkArity
  split
  · exact .ok trivial
  · exact .fail _

theorem intArgument_contained (name : String) (v : Value) (what : String) :
    Contained admits (fun _ => True) (intArgument name v what) := by
  unfold intArgument
  split
  · exact .ok trivial
  · split
    · exact .ok trivial
    · exact .fail _
  · exact .fail _

theorem stringArgument_contained (name : String) (v : Value) (what : String) :
    Contained admits (fun _ => True) (stringArgument name v what) := by
  unfold stringArgument
  split
  · exact .ok trivial
  · exact .fail _

theorem numberArgument_contained
    {v : Value}
    (narrow : v.Narrow admits)
    (name what : String) :
    Contained admits (Number.Narrow admits) (numberArgument name v what) := by
  unfold numberArgument
  split
  next n isNumber =>
    exact .ok (narrow.number isNumber)
  next =>
    exact .fail _

section Functions

variable {arguments : List Value}
variable (narrow : ∀ v ∈ arguments, v.Narrow admits)

include narrow

theorem narrow_argument (i : Nat) : (argument arguments i).Narrow admits :=
  Value.Narrow.getD narrow i

/-! ## Numeric functions -/

omit narrow in
mutual

theorem narrow_leaves :
    {v : Value} → v.Narrow admits → ∀ leaf ∈ leaves v, leaf.Narrow admits
  | .array _, .array each, leaf, member => narrow_leavesOf each leaf member
  | .null, narrow, _, member => (List.mem_singleton.mp member) ▸ narrow
  | .bool _, narrow, _, member => (List.mem_singleton.mp member) ▸ narrow
  | .int _, narrow, _, member => (List.mem_singleton.mp member) ▸ narrow
  | .float _, narrow, _, member => (List.mem_singleton.mp member) ▸ narrow
  | .string _, narrow, _, member => (List.mem_singleton.mp member) ▸ narrow
  | .sheet _, narrow, _, member => (List.mem_singleton.mp member) ▸ narrow
  | .error _, narrow, _, member => (List.mem_singleton.mp member) ▸ narrow

theorem narrow_leavesOf :
    {items : List Value} → (∀ v ∈ items, v.Narrow admits) →
      ∀ leaf ∈ leavesOf items, leaf.Narrow admits
  | [], _, _, member => nomatch member
  | v :: rest, each, leaf, member => by
      rcases List.mem_append.mp member with inFirst | inRest
      · exact narrow_leaves (each v (by simp)) leaf inFirst
      · exact narrow_leavesOf (fun w inItems => each w (by simp [inItems]))
          leaf inRest

end

omit narrow in
theorem aggregateNumbers_contained
    (name : String)
    {values : List Value}
    (narrow : ∀ v ∈ values, v.Narrow admits) :
    Contained admits (fun numbers => ∀ n ∈ numbers, n.Narrow admits)
      (aggregateNumbers name values) := by
  fun_induction aggregateNumbers name values with
  | case1 =>
      exact .ok (by simp)
  | case2 rest inductionHypothesis =>
      exact inductionHypothesis fun v member => narrow v (by simp [member])
  | case3 v rest notNull n isNumber inductionHypothesis =>
      refine (inductionHypothesis fun w member => narrow w (by simp [member])).bind
        fun numbers each => .pure ?_
      intro m member
      rcases List.mem_cons.mp member with rfl | inRest
      · exact (narrow v (by simp)).number isNumber
      · exact each m inRest
  | case4 =>
      exact .fail _

theorem numbersIn_contained (name : String) :
    Contained admits (fun numbers => ∀ n ∈ numbers, n.Narrow admits)
      (numbersIn name arguments) :=
  (checkArity_contained name _ arguments).bind fun _ _ =>
    aggregateNumbers_contained name (narrow_leavesOf narrow)

omit narrow in
theorem combineNumbers_contained
    (operator : Operator)
    {start : Int}
    (fits : fitsInt start = true)
    {numbers : List Number}
    (each : ∀ n ∈ numbers, n.Narrow admits) :
    Contained admits (Value.Narrow admits)
      (combineNumbers operator start numbers) :=
  Meets.foldlM numbers (.int (.inl fits)) fun n member _ total =>
    applyBinary_contained total (.of_number (each n member)) operator

omit narrow in
theorem mean_contained
    (overflows : admits .overflow)
    (opposes : admits .opposedInfinities)
    {numbers : List Number}
    (each : ∀ n ∈ numbers, n.Narrow admits) :
    Contained admits (Value.Narrow admits) (mean numbers) := by
  unfold mean
  split
  · exact .pure .null
  · exact (Meets.liftBreach (toFloats_meets each)).bind fun floats _ =>
      (Meets.liftBreach (exactSum_meets overflows opposes floats)).bind fun _ _ =>
        .pure (.float _)

omit narrow in
theorem narrow_extreme
    (beats : Ordering → Bool)
    {numbers : List Number}
    (each : ∀ n ∈ numbers, n.Narrow admits) :
    (extreme beats numbers).Narrow admits := by
  cases numbers with
  | nil =>
      exact .null
  | cons first rest =>
      -- The best number so far is one of the numbers.
      have best (start : Number) (fits : start.Narrow admits) :
          (rest.foldl (fun best n => if beats (n.order best) then n else best)
            start).Narrow
            admits := by
        refine List.foldlRecOn rest _ fits fun best narrow n member => ?_
        split
        · exact each n (by simp [member])
        · exact narrow
      exact .of_number (best first (each first (by simp)))

omit narrow in
theorem wholeBy_contained
    (rule : Float → Option Int)
    (undefinedFor : Float → ComputationError)
    (n : Number) :
    Contained admits (Value.Narrow admits) (wholeBy rule undefinedFor n) := by
  unfold wholeBy
  split
  · exact checkedValue_contained _
  · split
    · exact checkedValue_contained _
    · exact .fail _

omit narrow in
theorem squareRoot_contained
    {n : Number}
    (narrow : n.Narrow admits) :
    Contained admits (Value.Narrow admits) (squareRoot n) := by
  unfold squareRoot
  split
  · exact .fail _
  · exact (Meets.liftBreach narrow.toFloat).bind fun _ _ => .pure (.float _)

/-- The breaches that a numeric function comes to. -/
def MathFunction.MayBreach : MathFunction → Breach → Prop
  | .average, b => b = .overflow ∨ b = .opposedInfinities
  | .round, b => b = .decimalOverflow
  | .count, b => b = .overflow
  | _, _ => False

theorem callMath_contained
    {function : MathFunction}
    (admitted : ∀ b, function.MayBreach b → admits b) :
    Contained admits (Value.Narrow admits) (callMath function arguments) := by
  have first := narrow_argument narrow 0
  have second := narrow_argument narrow 1
  cases function with
  | abs =>
      refine (checkArity_contained _ _ _).bind fun _ _ =>
        (numberArgument_contained first _ _).bind fun n _ => ?_
      split
      · exact checkedValue_contained _
      · exact .pure (.float _)
  | sum =>
      exact (numbersIn_contained narrow _).bind fun _ each =>
        combineNumbers_contained .add (by decide) each
  | product =>
      exact (numbersIn_contained narrow _).bind fun _ each =>
        combineNumbers_contained .mul (by decide) each
  | average =>
      exact (numbersIn_contained narrow _).bind fun _ each =>
        mean_contained (admitted _ (.inl rfl)) (admitted _ (.inr rfl)) each
  | minimum | maximum =>
      exact (numbersIn_contained narrow _).bind fun _ each =>
        .pure (narrow_extreme _ each)
  | count =>
      exact .pure (.int (.inr (admitted _ rfl)))
  | round =>
      refine (checkArity_contained _ _ _).bind fun _ _ =>
        (numberArgument_contained first _ _).bind fun n fits => ?_
      have rounded (digits : Int) :
          Contained admits (Value.Narrow admits)
            (do return (← liftBreach (roundHalfAway n digits)).value :
              Outcome OperationError Value) :=
        (Meets.liftBreach (roundHalfAway_meets (fun _ => admitted _ rfl) fits)).bind
          fun _ kept => .pure (.of_number kept)
      split
      · exact (intArgument_contained _ _ _).bind fun digits _ => rounded digits
      · exact rounded 0
  | floor | ceiling =>
      exact (checkArity_contained _ _ _).bind fun _ _ =>
        (numberArgument_contained first _ _).bind fun n _ => wholeBy_contained _ _ n
  | squareRoot =>
      exact (checkArity_contained _ _ _).bind fun _ _ =>
        (numberArgument_contained first _ _).bind fun _ fits =>
          squareRoot_contained fits
  | power =>
      exact (checkArity_contained _ _ _).bind fun _ _ =>
        (numberArgument_contained first _ _).bind fun _ base =>
          (numberArgument_contained second _ _).bind fun _ exponent =>
            applyBinary_contained (.of_number base) (.of_number exponent) .pow

/-! ## Functions on texts -/

omit narrow in
theorem countArgument_contained (name : String) (v : Value) (what : String) :
    Contained admits (fun _ => True) (countArgument name v what) := by
  refine (intArgument_contained name v what).bind fun n _ => ?_
  split
  · exact .fail _
  · exact .pure trivial

omit narrow in
theorem startArgument_contained (name : String) (v : Value) :
    Contained admits (fun _ => True) (startArgument name v) := by
  refine (intArgument_contained name v _).bind fun n _ => ?_
  split
  · exact .fail _
  · exact .pure trivial

omit narrow in
theorem toInt_contained
    {v : Value}
    (narrow : v.Narrow admits) :
    Contained admits (Value.Narrow admits) (toInt v) := by
  have cut (x : Float) : Contained admits (Value.Narrow admits) (intOfFloat x) := by
    unfold intOfFloat
    split
    · exact checkedValue_contained _
    · exact .fail _
  unfold toInt
  split
  next b =>
    exact .ok (.int (.inl (by cases b <;> decide)))
  next =>
    exact .ok narrow
  next x =>
    exact cut x
  next s =>
    split
    · exact checkedValue_contained _
    · split
      · exact cut _
      · exact .fail _
  next =>
    exact .fail _

omit narrow in
theorem toFloatValue_contained
    {v : Value}
    (narrow : v.Narrow admits) :
    Contained admits (Value.Narrow admits) (toFloatValue v) := by
  unfold toFloatValue
  split
  next =>
    exact .ok (.float _)
  next i =>
    have fits : (Number.int i).Narrow admits := narrow.number rfl
    exact .liftBreach (fits.toFloat.map fun x _ => .float x)
  next =>
    exact .ok narrow
  next =>
    split
    · exact .ok (.float _)
    · exact .fail _
  next =>
    exact .fail _

omit narrow in
theorem narrow_texts (texts : List String) :
    (Value.array (texts.map .string)).Narrow admits := by
  refine .array fun v member => ?_
  obtain ⟨text, -, rfl⟩ := List.mem_map.mp member
  exact .string text

/-- The breaches that a function on texts comes to. -/
def TextFunction.MayBreach : TextFunction → Breach → Prop
  | .instr, b => b = .overflow
  | _, _ => False

theorem callText_contained
    {function : TextFunction}
    (admitted : ∀ b, function.MayBreach b → admits b) :
    Contained admits (Value.Narrow admits) (callText function arguments) := by
  have first := narrow_argument narrow 0
  cases function with
  | str =>
      exact (checkArity_contained _ _ _).bind fun _ _ => .pure (.string _)
  | int =>
      exact (checkArity_contained _ _ _).bind fun _ _ => toInt_contained first
  | float =>
      exact (checkArity_contained _ _ _).bind fun _ _ =>
        toFloatValue_contained first
  | upper | lower | trim =>
      exact (checkArity_contained _ _ _).bind fun _ _ =>
        (stringArgument_contained _ _ _).bind fun _ _ => .pure (.string _)
  | left | right =>
      exact (checkArity_contained _ _ _).bind fun _ _ =>
        (stringArgument_contained _ _ _).bind fun _ _ =>
          (countArgument_contained _ _ _).bind fun _ _ => .pure (.string _)
  | mid =>
      refine (checkArity_contained _ _ _).bind fun _ _ =>
        (stringArgument_contained _ _ _).bind fun _ _ =>
          (startArgument_contained _ _).bind fun _ _ => ?_
      split
      · exact (countArgument_contained _ _ _).bind fun _ _ => .pure (.string _)
      · exact .pure (.string _)
  | concat =>
      exact .pure (.string _)
  | replace =>
      refine (checkArity_contained _ _ _).bind fun _ _ =>
        (stringArgument_contained _ _ _).bind fun _ _ =>
          (stringArgument_contained _ _ _).bind fun _ _ =>
            (stringArgument_contained _ _ _).bind fun _ _ => ?_
      split
      · exact .fail _
      · exact .pure (.string _)
  | split =>
      exact (checkArity_contained _ _ _).bind fun _ _ =>
        (stringArgument_contained _ _ _).bind fun _ _ =>
          (stringArgument_contained _ _ _).bind fun _ _ => .pure (narrow_texts _)
  | join =>
      refine (checkArity_contained _ _ _).bind fun _ _ => ?_
      split
      · split
        · exact (stringArgument_contained _ _ _).bind fun _ _ => .pure (.string _)
        · exact .pure (.string _)
      · exact .fail _
  | contains =>
      refine (checkArity_contained _ _ _).bind fun _ _ => ?_
      split
      · exact .pure (.bool _)
      · exact (stringArgument_contained _ _ _).bind fun _ _ =>
          (stringArgument_contained _ _ _).bind fun _ _ => .pure (.bool _)
  | instr =>
      have place (i : Nat) : (Value.int i).Narrow admits :=
        .int (.inr (admitted _ rfl))
      refine (checkArity_contained _ _ _).bind fun _ _ =>
        (stringArgument_contained _ _ _).bind fun _ _ =>
          (stringArgument_contained _ _ _).bind fun _ _ => ?_
      split
      · exact (startArgument_contained _ _).bind fun _ _ => .pure (place _)
      · exact .pure (place _)

/-! ## Lookups -/

omit narrow in
theorem requireTable_meets
    {v : Value}
    (narrow : v.Narrow admits)
    (function : String) :
    Meets (fun _ => True) (fun rows => ∀ row ∈ rows, ∀ w ∈ row, w.Narrow admits)
      (Lookup.requireTable function v) := by
  unfold Lookup.requireTable
  split
  next rows isTable =>
    exact .ok (Value.narrow_table narrow isTable)
  next =>
    exact .error trivial

omit narrow in
theorem requireVector_meets
    {v : Value}
    (narrow : v.Narrow admits)
    (function what : String) :
    Meets (fun _ => True) (fun items => ∀ w ∈ items, w.Narrow admits)
      (Lookup.requireVector function v what) := by
  unfold Lookup.requireVector
  split
  · split
    · exact .error trivial
    · exact .ok (Value.narrow_array.mp narrow)
  · exact .error trivial

omit narrow in
theorem narrow_rowAt
    {rows : List (List Value)}
    (each : ∀ row ∈ rows, ∀ v ∈ row, v.Narrow admits)
    (i : Nat) :
    ∀ v ∈ Lookup.rowAt rows i, v.Narrow admits := by
  unfold Lookup.rowAt
  rw [List.getD_eq_getElem?_getD]
  cases found : rows[i]? with
  | none =>
      exact nofun
  | some row =>
      exact each row (List.mem_of_getElem? found)

omit narrow in
/-- An element of a row of a table. -/
theorem narrow_entry
    {rows : List (List Value)}
    (each : ∀ row ∈ rows, ∀ v ∈ row, v.Narrow admits)
    (i j : Nat) :
    (Lookup.element (Lookup.rowAt rows i) j).Narrow admits :=
  Value.Narrow.getD (narrow_rowAt each i) j

omit narrow in
theorem index_meets
    {array : Value}
    (narrow : array.Narrow admits)
    (row : Value)
    (column : Option Value) :
    Meets (fun _ => True) (Value.Narrow admits)
      (Lookup.index array row column) := by
  unfold Lookup.index
  split
  · refine (requireTable_meets narrow _).bind fun rows each =>
      (Meets.any _).bind fun _ _ =>
        (Meets.any _).bind fun i _ => ?_
    split
    · refine .pure ?_
      split
      · exact narrow_entry each i 0
      · exact .array (narrow_rowAt each i)
    · exact (Meets.any _).bind fun _ _ => (Meets.any _).bind fun j _ =>
        .pure (narrow_entry each i j)
  · refine (requireVector_meets narrow _ _).bind fun values each =>
      (Meets.any _).bind fun _ _ => ?_
    have element (position : Int) :
        Meets (fun _ => True) (Value.Narrow admits)
          (Lookup.offset "index" "position" position values.length >>= fun i =>
            pure (Lookup.element values i)) :=
      (Meets.any _).bind fun i _ => .pure (Value.Narrow.getD each i)
    split
    · exact element _
    · exact (Meets.any _).bind fun _ _ => (Meets.any _).bind fun _ _ => element _

omit narrow in
theorem matchPosition_meets
    (admitted : admits .overflow)
    (key array mode : Value) :
    Meets (fun _ => True) (Value.Narrow admits)
      (Lookup.matchPosition key array mode) :=
  ⟨fun _ => Value.narrow_of_admits admitted _, fun _ => trivial⟩

omit narrow in
theorem xlookup_meets
    {results : Value}
    {otherwise : Option Value}
    (narrow : results.Narrow admits)
    (otherwiseNarrow : ∀ v, otherwise = some v → v.Narrow admits)
    (key keys : Value) :
    Meets (fun _ => True) (Value.Narrow admits)
      (Lookup.xlookup key keys results otherwise) := by
  refine (Meets.any _).bind fun candidates _ => ?_
  split
  next aligned =>
    split
    · exact .error trivial
    · split
      · exact .pure (Value.Narrow.getD (Value.narrow_array.mp narrow) _)
      next v _ =>
        exact .pure (otherwiseNarrow v rfl)
      · exact .error trivial
  next =>
    exact .error trivial

/-- The breaches that a lookup comes to. -/
def LookupFunction.MayBreach : LookupFunction → Breach → Prop
  | .matchPosition, b => b = .overflow
  | _, _ => False

theorem callLookup_contained
    {function : LookupFunction}
    (admitted : ∀ b, function.MayBreach b → admits b) :
    Contained admits (Value.Narrow admits) (callLookup function arguments) := by
  have first := narrow_argument narrow 0
  have second := narrow_argument narrow 1
  have third := narrow_argument narrow 2
  cases function with
  | vlookup =>
      refine (checkArity_contained _ _ _).bind fun _ _ => .liftError ?_
      exact (requireTable_meets second _).bind fun rows each =>
        (Meets.any _).bind fun _ _ =>
          (Meets.any _).bind fun j _ => (Meets.any _).bind fun _ _ =>
            (Meets.any _).bind fun hit _ => .pure (narrow_entry each hit j)
  | hlookup =>
      refine (checkArity_contained _ _ _).bind fun _ _ => .liftError ?_
      exact (requireTable_meets second _).bind fun rows each =>
        (Meets.any _).bind fun _ _ =>
          (Meets.any _).bind fun i _ => (Meets.any _).bind fun _ _ =>
            (Meets.any _).bind fun hit _ => .pure (narrow_entry each i hit)
  | index =>
      exact (checkArity_contained _ _ _).bind fun _ _ =>
        .liftError (index_meets first _ _)
  | matchPosition =>
      exact (checkArity_contained _ _ _).bind fun _ _ =>
        .liftError (matchPosition_meets (admitted _ rfl) _ _ _)
  | xlookup =>
      refine (checkArity_contained _ _ _).bind fun _ _ =>
        .liftError (xlookup_meets third (fun v given => ?_) _ _)
      exact narrow v (List.mem_of_getElem? given)

end Functions

end Script

end GridScript
