import GridScript.Proofs.Containment
import GridScript.Proofs.Number.Conversion

namespace GridScript

/-!
# Operators that stay within the number formats

The operators breach the range of floats only, and not even that as
long as the integers that they meet fit 64 bits; then the integers that
they give fit as well.
-/

open GridScript.Number

variable {admits : Breach → Prop}

/-! ## Integers that fit -/

/-- An integer fits 64 bits, unless breaches of the range of floats are admitted. -/
def IsNarrow (admits : Breach → Prop) (i : Int) : Prop :=
  fitsInt i = true ∨ admits .overflow

/-- A number is a float or an integer that fits. -/
def Number.Narrow (admits : Breach → Prop) : Number → Prop
  | .int i => IsNarrow admits i
  | .float _ => True

/-- All integers in a value fit. -/
inductive Value.Narrow (admits : Breach → Prop) : Value → Prop where
  | null : Narrow admits .null
  | bool (b : Bool) : Narrow admits (.bool b)
  | int {i : Int} (fits : IsNarrow admits i) : Narrow admits (.int i)
  | float (x : Float) : Narrow admits (.float x)
  | string (s : String) : Narrow admits (.string s)
  | array
      {items : List Value}
      (each : ∀ v ∈ items, Narrow admits v) :
      Narrow admits (.array items)
  | sheet (ref : SheetRef) : Narrow admits (.sheet ref)
  | error (tag : ErrorTag) : Narrow admits (.error tag)

theorem fitsInt_iff {i : Int} :
    fitsInt i = true ↔ -(2 ^ 63) ≤ i ∧ i ≤ 2 ^ 63 - 1 := by
  unfold fitsInt
  rw [Bool.and_eq_true, decide_eq_true_iff, decide_eq_true_iff]
  rfl

theorem natAbs_le_of_fitsInt
    {i : Int}
    (fits : fitsInt i = true) :
    i.natAbs ≤ 2 ^ 63 := by
  have bounds := fitsInt_iff.mp fits
  omega

/-- An integer of fewer than 200 binary digits has a float, and any other
breaches the range. -/
theorem toFloat_meets
    {i : Int}
    (small : i.natAbs < 2 ^ 200 ∨ admits .overflow) :
    Meets admits (fun _ => True) (Number.int i).toFloat := by
  unfold Number.toFloat
  rcases small with small | admitted
  · obtain ⟨x, found⟩ := ofInt?_isSome small
    simp only [found]
    exact .ok trivial
  · dsimp only
    split
    · exact .ok trivial
    · exact .error admitted

theorem Number.Narrow.toFloat
    {n : Number}
    (narrow : n.Narrow admits) :
    Meets admits (fun _ => True) n.toFloat := by
  cases n with
  | float x =>
      exact .ok trivial
  | int i =>
      exact toFloat_meets (narrow.imp_left fun fits =>
        Nat.lt_of_le_of_lt (natAbs_le_of_fitsInt fits) (by decide))

theorem toFloats_meets
    {numbers : List Number}
    (narrow : ∀ n ∈ numbers, n.Narrow admits) :
    Meets admits (fun _ => True) (numbers.mapM Number.toFloat) := by
  have each (n : Number) (member : n ∈ numbers) :
      Meets admits (fun _ => True) n.toFloat :=
    (narrow n member).toFloat
  exact (Meets.mapM numbers each).mono fun _ _ => trivial

namespace Value

/-- Admitting breaches only loosens what is asked of integers. -/
theorem Narrow.mono
    {more : Breach → Prop}
    {v : Value}
    (narrow : v.Narrow admits)
    (weaker : admits .overflow → more .overflow) :
    v.Narrow more := by
  induction narrow with
  | null =>
      exact .null
  | bool b =>
      exact .bool b
  | int fits =>
      exact .int (fits.imp_right weaker)
  | float x =>
      exact .float x
  | string s =>
      exact .string s
  | array _ inductionHypothesis =>
      exact .array inductionHypothesis
  | sheet ref =>
      exact .sheet ref
  | error tag =>
      exact .error tag

theorem narrow_int {i : Int} : (Value.int i).Narrow admits ↔ IsNarrow admits i :=
  ⟨fun | .int fits => fits, .int⟩

theorem narrow_array {items : List Value} :
    (Value.array items).Narrow admits ↔ ∀ v ∈ items, v.Narrow admits :=
  ⟨fun | .array each => each, .array⟩

theorem Narrow.number
    {v : Value}
    {n : Number}
    (narrow : v.Narrow admits)
    (isNumber : v.number? = some n) :
    n.Narrow admits := by
  cases narrow <;> cases isNumber
  · assumption
  · trivial

theorem Narrow.of_number
    {n : Number}
    (narrow : n.Narrow admits) :
    n.value.Narrow admits := by
  cases n with
  | int i =>
      exact .int narrow
  | float x =>
      exact .float x

/-- Where breaches of the range of floats are admitted nothing is
asked of integers. -/
theorem narrow_of_admits
    (admitted : admits .overflow) :
    (v : Value) → v.Narrow admits
  | .null => .null
  | .bool b => .bool b
  | .int _ => .int (.inr admitted)
  | .float x => .float x
  | .string s => .string s
  | .array items => .array fun v _ => narrow_of_admits admitted v
  | .sheet ref => .sheet ref
  | .error tag => .error tag

theorem narrow_rows
    {items : List Value}
    {rows : List (List Value)}
    (each : ∀ v ∈ items, v.Narrow admits)
    (are : rows? items = some rows) :
    ∀ row ∈ rows, ∀ v ∈ row, v.Narrow admits := by
  induction items generalizing rows with
  | nil =>
      obtain rfl : [] = rows := Option.some.inj are
      exact nofun
  | cons first rest inductionHypothesis =>
      unfold rows? at are inductionHypothesis
      rw [List.mapM_cons] at are
      obtain ⟨row, isRow, are⟩ := Option.bind_eq_some_iff.mp are
      obtain ⟨more, areMore, are⟩ := Option.bind_eq_some_iff.mp are
      obtain rfl : row :: more = rows := Option.some.inj are
      intro held member
      rcases List.mem_cons.mp member with rfl | inMore
      · cases first with
        | array items =>
            obtain rfl : items = held := Option.some.inj isRow
            exact narrow_array.mp (each _ (by simp))
        | _ =>
            cases isRow
      · exact inductionHypothesis (fun v inRest => each v (by simp [inRest]))
          areMore held inMore

theorem narrow_table
    {v : Value}
    {rows : List (List Value)}
    (narrow : v.Narrow admits)
    (isTable : v.table? = some rows) :
    ∀ row ∈ rows, ∀ w ∈ row, w.Narrow admits := by
  unfold table? at isTable
  split at isTable
  next items =>
    split at isTable
    next first rest are =>
      split at isTable
      next =>
        obtain rfl : first :: rest = rows := Option.some.inj isTable
        exact narrow_rows (narrow_array.mp narrow) are
      next =>
        cases isTable
    next =>
      cases isTable
  next =>
    cases isTable

theorem Narrow.getD
    {items : List Value}
    (each : ∀ v ∈ items, v.Narrow admits)
    (i : Nat) :
    (items.getD i .null).Narrow admits := by
  rw [List.getD_eq_getElem?_getD]
  cases found : items[i]? with
  | none =>
      exact .null
  | some v =>
      exact each v (List.mem_of_getElem? found)

end Value

/-! ## Operators -/

theorem checkedValue_contained (i : Int) :
    Contained admits (Value.Narrow admits) (checkedValue i) := by
  unfold checkedValue checkInt
  split
  next fits =>
    exact .ok (.int (.inl fits))
  next =>
    exact .fail _

/-- A remainder is no further from zero than what was divided. -/
theorem fitsInt_tmod
    {l : Int}
    (fits : fitsInt l = true)
    (r : Int) :
    fitsInt (l.tmod r) = true := by
  have smaller : (l.tmod r).natAbs ≤ l.natAbs := by
    rw [Int.natAbs_tmod]
    exact Nat.mod_le _ _
  have sign : 0 ≤ l → 0 ≤ l.tmod r := fun positive => Int.tmod_nonneg r positive
  have opposite : l ≤ 0 → l.tmod r ≤ 0 := by
    intro negative
    have mirrored := Int.tmod_nonneg r (Int.neg_nonneg_of_nonpos negative)
    rw [Int.neg_tmod] at mirrored
    omega
  rw [fitsInt_iff] at fits ⊢
  omega

theorem orderingValues_contained
    (holds : Ordering → Bool)
    (left right : Value) :
    Contained admits (Value.Narrow admits) (orderingValues holds left right) :=
  (Meets.liftError (Meets.any _)).bind fun _ _ => .pure (.bool _)

section Binary

variable {left right : Value}

variable (leftNarrow : left.Narrow admits) (rightNarrow : right.Narrow admits)

include leftNarrow rightNarrow

theorem numberOperands_contained (operator : Operator) :
    Contained admits (fun pair => pair.1.Narrow admits ∧ pair.2.Narrow admits)
      (numberOperands operator left right) := by
  unfold numberOperands
  split
  next leftNumber rightNumber =>
    exact .ok ⟨leftNarrow.number leftNumber, rightNarrow.number rightNumber⟩
  next =>
    exact .fail _

theorem arithmetic_contained
    (operator : Operator)
    (onInts : Int → Int → Int)
    (onFloats : Float → Float → Float) :
    Contained admits (Value.Narrow admits)
      (arithmetic operator onInts onFloats left right) := by
  refine (numberOperands_contained leftNarrow rightNarrow operator).bind
    fun pair narrow => ?_
  split
  · exact checkedValue_contained _
  · exact (Meets.liftBreach narrow.1.toFloat).bind fun x _ =>
      (Meets.liftBreach narrow.2.toFloat).bind fun y _ => .pure (.float _)

theorem addValues_contained :
    Contained admits (Value.Narrow admits) (addValues left right) := by
  unfold addValues
  split
  · exact .ok (.string _)
  · exact .ok (.string _)
  · refine .ok (.array fun v member => ?_)
    rcases List.mem_append.mp member with inLeft | inRight
    · exact Value.narrow_array.mp leftNarrow v inLeft
    · exact Value.narrow_array.mp rightNarrow v inRight
  · exact arithmetic_contained leftNarrow rightNarrow _ _ _

theorem divideValues_contained :
    Contained admits (Value.Narrow admits) (divideValues left right) := by
  refine (numberOperands_contained leftNarrow rightNarrow .div).bind
    fun (l, r) narrow => ?_
  dsimp only
  split
  · exact .fail _
  · split
    · exact checkedValue_contained _
    · exact (Meets.liftBreach narrow.1.toFloat).bind fun x _ =>
        (Meets.liftBreach narrow.2.toFloat).bind fun y _ => .pure (.float _)

theorem moduloValues_contained :
    Contained admits (Value.Narrow admits) (moduloValues left right) := by
  unfold moduloValues
  split
  · split
    · exact .fail _
    · have fits := Value.narrow_int.mp leftNarrow
      exact .ok (.int (fits.imp_left fun fits => fitsInt_tmod fits _))
  · exact .fail _

/-- Operands without floats make an error of the power, not a breach. -/
theorem powerValues_contained :
    Contained admits (Value.Narrow admits) (powerValues left right) := by
  refine (numberOperands_contained leftNarrow rightNarrow .pow).bind
    fun (l, r) narrow => ?_
  dsimp only
  -- Every way through is an error of the family, a checked integer or a float.
  repeat' split
  all_goals first
    | exact .fail _
    | exact checkedValue_contained _
    | exact .ok (.float _)

theorem applyBinary_contained (operator : Operator) :
    Contained admits (Value.Narrow admits) (applyBinary operator left right) := by
  cases operator with
  | add =>
      exact addValues_contained leftNarrow rightNarrow
  | sub | mul =>
      exact arithmetic_contained leftNarrow rightNarrow _ _ _
  | div =>
      exact divideValues_contained leftNarrow rightNarrow
  | mod =>
      exact moduloValues_contained leftNarrow rightNarrow
  | pow =>
      exact powerValues_contained leftNarrow rightNarrow
  | concat =>
      exact .ok (.string _)
  | equal | notEqual =>
      exact .liftError ((Meets.any _).map fun same _ => .bool _)
  | less | lessEqual | greater | greaterEqual =>
      exact orderingValues_contained _ left right

end Binary

theorem applyUnary_contained
    {operand : Value}
    (narrow : operand.Narrow admits)
    (operator : UnaryOperator) :
    Contained admits (Value.Narrow admits) (applyUnary operator operand) := by
  unfold applyUnary
  split
  · exact .ok (.bool _)
  · exact checkedValue_contained _
  · exact .ok (.float _)
  · exact .fail _

/-! ## Rounding -/

/-- Rounding leaves the decimals only at a place beyond their exponents. -/
theorem roundFloat_meets
    {places : Int}
    (admitted : places < -maxExponent → admits .decimalOverflow)
    (x : Float) :
    Meets admits (fun _ => True) (roundFloat x places) := by
  unfold roundFloat
  split
  · exact .ok trivial
  · dsimp only
    split
    · exact .ok trivial
    · split
      next beyond =>
        exact .error (admitted (by omega))
      next =>
        split <;> exact .ok trivial

theorem roundHalfAway_meets
    {n : Number}
    {places : Int}
    (admitted : places < -maxExponent → admits .decimalOverflow)
    (narrow : n.Narrow admits) :
    Meets admits (Number.Narrow admits) (roundHalfAway n places) := by
  unfold roundHalfAway
  split
  · split
    · exact .ok narrow
    · exact narrow.toFloat.bind fun x _ =>
        (roundFloat_meets admitted x).bind fun _ _ => .pure trivial
  · exact (roundFloat_meets admitted _).bind fun _ _ => .pure trivial

end GridScript
