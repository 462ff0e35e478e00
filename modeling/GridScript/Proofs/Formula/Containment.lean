import GridScript.Formula.SheetReference
import GridScript.Proofs.Parsing.Invariant
import GridScript.Proofs.Sheet.Containment

namespace GridScript.Formula

/-!
# What formulas breach

The integers of formulas are bounded by the number of their digits alone, and a
number of characters may be infinite. So formulas breach the range of floats,
the number of digits that are read and the range of decimals, and nothing else.
A breach is traced back to where it starts: at a reference that the resolver
breaches on, at an integer beyond 64 bits that meets an operator or is added,
averaged or rounded, or at a count of characters or of places that is no finite
number or too low.
-/

open GridScript.Number
open GridScript.Parsing

/-- The breaches that formulas come to. -/
def MayBreach : Breach → Prop
  | .overflow | .undefinedInteger | .longInteger _ | .decimalOverflow => True
  | _ => False

variable {admits : Breach → Prop}

section Reading

variable (admitted : ∀ b, MayBreach b → admits b)

include admitted

/-! ## Reading -/

theorem numberLiteral_meets (token : Token Terminal) :
    Meets admits (fun _ => True) (numberLiteral token) := by
  unfold numberLiteral
  dsimp only
  split
  · exact .ok trivial
  · split
    · exact .ok trivial
    · exact .error (admitted _ trivial)
    · exact .ok trivial

theorem handsOn_language :
    language.HandsOn (fun _ => True) (fun _ => True) admits where
  read _ := trivial
  finish _ := trivial
  leaf _ := trivial
  build rule parts _ := by
    unfold language buildPhrase
    dsimp only
    split
    · exact numberLiteral_meets admitted _
    · exact .ok trivial

theorem parse_contained (text : String) :
    Contained admits (fun _ => True) (parse text) := by
  unfold parse
  dsimp only
  split
  · exact .fail _
  · split
    next e parsed =>
      exact .ok trivial
    next =>
      exact .fail _
    next b parsed =>
      exact .breach
        ((Language.parse_meets (handsOn_language admitted) parsed).of_error rfl)
    next =>
      exact .fail _
    next =>
      exact .fail _

theorem narrow (v : Value) : v.Narrow admits :=
  Value.narrow_of_admits (admitted .overflow trivial) v

end Reading

/-! ## Operators -/

/-- An integer in the value does not fit 64 bits. -/
def IsWide (v : Value) : Prop :=
  ¬ v.Narrow fun _ => False

/-- The value is narrow where the breaches are admitted that it
is the reason for. -/
theorem narrow_unless_wide
    {v : Value}
    (admitted : IsWide v → admits .overflow) :
    v.Narrow admits := by
  by_cases narrow : v.Narrow fun _ => False
  · exact narrow.mono False.elim
  · exact Value.narrow_of_admits (admitted narrow) v

theorem narrow_fillBlank
    {v : Value}
    (narrow : v.Narrow admits)
    (other : Value) :
    (fillBlank v other).Narrow admits := by
  unfold fillBlank
  split
  · exact .string _
  · exact .int (.inl (by decide))
  · exact narrow

theorem narrow_blankText
    {v : Value}
    (narrow : v.Narrow admits) :
    (blankText v).Narrow admits := by
  unfold blankText
  split
  · exact .string _
  · exact narrow

/-- Operators breach on wide operands only. -/
theorem applyOperator_narrow
    {left right : Value}
    (leftNarrow : left.Narrow admits)
    (rightNarrow : right.Narrow admits)
    (operator : GridScript.Operator) :
    Contained admits (fun _ => True) (applyOperator operator left right) := by
  have applies {l r : Value} (lNarrow : l.Narrow admits) (rNarrow : r.Narrow admits)
      (operator : GridScript.Operator) :
      Contained admits (fun _ => True) (guarded (applyBinary operator l r)) :=
    ((applyBinary_contained lNarrow rNarrow operator).mapError _).mono fun _ _ =>
      trivial
  have filled (operator : GridScript.Operator) :
      Contained admits (fun _ => True)
        (guarded
          (applyBinary operator (fillBlank left right) (fillBlank right left))) :=
    applies (narrow_fillBlank leftNarrow _) (narrow_fillBlank rightNarrow _)
      operator
  unfold applyOperator
  split
  · exact .fail _
  · split
    · exact applies (narrow_blankText leftNarrow) (narrow_blankText rightNarrow) _
    · dsimp only
      split
      · exact .fail _
      · exact filled _
    · exact filled _

/-- Signs breach on wide operands only. -/
theorem applySign_narrow
    {v : Value}
    (narrow : v.Narrow admits)
    (sign : Sign) :
    Contained admits (fun _ => True) (applySign sign v) := by
  have checked
      {operand : Value}
      {applied : Evaluated}
      (contained : Contained admits (fun _ => True) applied) :
      Contained admits (fun _ => True)
        (if !operand.isNumber then fail (.signOf sign operand) else applied) := by
    split
    · exact .fail _
    · exact contained
  have signs
      {operand : Value}
      (operandNarrow : operand.Narrow admits)
      (notNull : operand ≠ .null) :
      Contained admits (fun _ => True) (applySign sign operand) := by
    unfold applySign
    split
    · exact (notNull rfl).elim
    · cases sign with
      | minus =>
          exact
            checked (((applyUnary_contained operandNarrow .negate).mapError _).mono
            fun _ _ => trivial)
      | plus =>
          exact checked (.ok trivial)
      | percent =>
          exact checked
            (((applyBinary_contained operandNarrow (.float 100) .div).mapError
              _).mono
            fun _ _ => trivial)
  cases v with
  | null =>
      have zero : (Value.int 0).Narrow admits := .int (.inl (by decide))
      have asZero : applySign sign .null = applySign sign (.int 0) := rfl
      rw [asZero]
      exact signs zero (by simp)
  | _ =>
      exact signs narrow (by simp)

/-! ## Functions -/

mutual

theorem narrow_flatten :
    {v : Value} → v.Narrow admits → ∀ leaf ∈ flatten v, leaf.Narrow admits
  | .array _, .array each, leaf, member => narrow_flattenAll each leaf member
  | .null, narrow, _, member => (List.mem_singleton.mp member) ▸ narrow
  | .bool _, narrow, _, member => (List.mem_singleton.mp member) ▸ narrow
  | .int _, narrow, _, member => (List.mem_singleton.mp member) ▸ narrow
  | .float _, narrow, _, member => (List.mem_singleton.mp member) ▸ narrow
  | .string _, narrow, _, member => (List.mem_singleton.mp member) ▸ narrow
  | .sheet _, narrow, _, member => (List.mem_singleton.mp member) ▸ narrow
  | .error _, narrow, _, member => (List.mem_singleton.mp member) ▸ narrow

theorem narrow_flattenAll :
    {items : List Value} → (∀ v ∈ items, v.Narrow admits) →
      ∀ leaf ∈ flattenAll items, leaf.Narrow admits
  | [], _, _, member => nomatch member
  | v :: rest, each, leaf, member => by
      rcases List.mem_append.mp member with inFirst | inRest
      · exact narrow_flatten (each v (by simp)) leaf inFirst
      · exact narrow_flattenAll (fun w inItems => each w (by simp [inItems]))
          leaf inRest

end

theorem narrow_numbersOf
    {values : List Value}
    (each : ∀ v ∈ values, v.Narrow admits) :
    ∀ n ∈ numbersOf values, n.Narrow admits := by
  intro n member
  obtain ⟨v, isValue, isNumber⟩ := List.mem_filterMap.mp member
  exact (each v isValue).number isNumber

/-- A sum breaches on wide numbers only. -/
theorem sumOf_narrow
    {values : List Value}
    (each : ∀ v ∈ values, v.Narrow admits) :
    Contained admits (fun _ => True) (sumOf values) := by
  have sums : Contained admits (Value.Narrow admits) (sumOf values) :=
    Meets.foldlM (numbersOf values) (.int (.inl (by decide)))
      fun n member total totalNarrow =>
        (applyBinary_contained totalNarrow
          (.of_number (narrow_numbersOf each n member)) .add).mapError _
  exact sums.mono fun _ _ => trivial

/-- A mean breaches on wide numbers only. -/
theorem averageOf_narrow
    {values : List Value}
    (each : ∀ v ∈ values, v.Narrow admits) :
    Contained admits (fun _ => True) (averageOf values) := by
  unfold averageOf
  dsimp only
  split
  · exact .fail _
  · exact (Meets.liftBreach (toFloats_meets (narrow_numbersOf each))).bind
      fun _ _ => .pure trivial

/-- The breach of a number of characters or of places that is no finite number. -/
def cutBreach (x : Float) : Breach :=
  if x.isNaN then .undefinedInteger else .overflow

/-- Only floats that are not finite cannot be cut to an integer. -/
theorem truncated_meets
    {n : Number}
    (counts : ∀ x, n = .float x → truncate? x = none → admits (cutBreach x)) :
    Contained admits (fun _ => True) (truncated n) := by
  cases n with
  | int i =>
      exact .ok trivial
  | float x =>
      unfold truncated
      dsimp only
      split
      next =>
        exact .ok trivial
      next infinite =>
        exact .breach (counts x rfl infinite)

theorem characterCount_meets
    {given : Option Value}
    (counts :
      ∀ x, given = some (.float x) → truncate? x = none → admits (cutBreach x))
    (function : Function) :
    Contained admits (fun _ => True) (characterCount function given) := by
  unfold characterCount
  split
  · exact .ok trivial
  next v =>
    split
    · exact .fail _
    next n isNumber =>
      split
      · exact .fail _
      · refine Meets.map (truncated_meets fun x isFloat => counts x ?_) fun _ _ =>
          trivial
        subst isFloat
        cases v <;> cases isNumber
        rfl

theorem roundOf_meets
    {arguments : List Value}
    (each : ∀ v ∈ arguments, v.Narrow admits)
    (counts : ∀ x, .float x ∈ arguments → truncate? x = none → admits (cutBreach x))
    (decimals :
      ∀ v ∈ arguments, ∀ n, v.number? = some n →
      ∀ places, truncated n = .ok places →
      places < -maxExponent → admits .decimalOverflow) :
    Contained admits (fun _ => True) (roundOf arguments) := by
  have rounds {v : Value} (member : v ∈ arguments) {n : Number}
    (isNumber : v.number? = some n)
      {places : Int} (inside : places < -maxExponent → admits .decimalOverflow) :
      Contained admits (fun _ => True)
        ((liftBreach (roundHalfAway n places)).map Number.value : Evaluated) :=
    (Meets.liftBreach
      (roundHalfAway_meets inside ((each v member).number isNumber))).map
      fun _ _ => trivial
  unfold roundOf
  split
  next n one =>
    obtain ⟨v, rfl, isNumber⟩ := List.map_eq_singleton_iff.mp one
    exact rounds (List.mem_singleton_self v) isNumber fun beyond =>
      absurd beyond (by decide)
  next n digits two =>
    obtain ⟨v, rest, rfl, isNumber, more⟩ := List.map_eq_cons_iff.mp two
    obtain ⟨w, rfl, areDigits⟩ := List.map_eq_singleton_iff.mp more
    have contained : Contained admits (fun _ => True) (truncated digits) := by
      refine truncated_meets fun x isFloat => counts x ?_
      subst isFloat
      cases w <;> cases areDigits
      simp
    exact (contained.weaken fun _ => id).bind fun places cut =>
      rounds List.mem_cons_self isNumber
        (decimals w (by simp) digits areDigits places cut)
  next =>
    exact .fail _

theorem looked_contained
    (function : Function)
    (result : Except OperationError Value) :
    Contained admits (fun _ => True) (looked function result) := by
  unfold looked
  split
  · exact .ok trivial
  · exact .fail _

theorem checkCount_contained (function : Function) (count : Nat) :
    Contained admits (fun _ => True) (checkCount function count) := by
  unfold checkCount
  split
  · exact .ok trivial
  · exact .fail _

/-- What a function breaches on. -/
theorem applyEager_meets
    {function : Function}
    {arguments : List Value}
    (each : function ∈ [.sum, .average, .round] → ∀ v ∈ arguments, v.Narrow admits)
    (counts : function ∈ [.left, .right, .round] →
      ∀ x, .float x ∈ arguments → truncate? x = none → admits (cutBreach x))
    (decimals :
      function = .round → ∀ v ∈ arguments, ∀ n, v.number? = some n → ∀ places,
      truncated n = .ok places → places < -maxExponent → admits .decimalOverflow) :
    Contained admits (fun _ => True) (applyEager function arguments) := by
  cases function with
  | sum =>
      exact sumOf_narrow (each (by simp))
  | average =>
      exact averageOf_narrow (each (by simp))
  | absolute =>
      unfold applyEager absoluteOf
      dsimp only
      split
      · exact .ok trivial
      · exact .ok trivial
      · exact .fail _
  | round =>
      exact roundOf_meets (each (by simp)) (counts (by simp)) (decimals rfl)
  | left | right =>
      refine (characterCount_meets (fun x given => counts (by simp) x ?_) _).bind
        fun _ _ => .pure trivial
      exact List.mem_of_getElem? given
  | vlookup | hlookup | index | matchPosition | xlookup =>
      exact looked_contained _ _
  | _ =>
      exact .ok trivial

/-! ## Expressions -/

/-- A breach that an expression comes to starts in one of its parts. -/
inductive Originates
    (context : Context)
    (resolve : Resolver) : Expression → Breach → Prop where
  /-- The resolver breaches. -/
  | reference
      {r b}
      (breaches : resolve r = breach b) :
      Originates context resolve (.reference r) b
  /-- A sign is applied to a wide value. -/
  | signed
      {sign operand v}
      (has : operand.evaluate context resolve = .ok v)
      (wide : IsWide v) :
      Originates context resolve (.signed sign operand) .overflow
  /-- An operator is applied to a wide value. -/
  | binary {operator left right l r}
      (leftHas : left.evaluate context resolve = .ok l)
      (rightHas : right.evaluate context resolve = .ok r)
      (wide : IsWide l ∨ IsWide r) :
      Originates context resolve (.binary operator left right) .overflow
  /-- A wide value is made a float, to be added, averaged or rounded. -/
  | converted {name function arguments argument v}
      (named : Function.ofName? name = some function)
      (converts : function ∈ [.sum, .average, .round])
      (member : argument ∈ arguments)
      (has : argument.evaluate context resolve = .ok v)
      (wide : IsWide v) :
      Originates context resolve (.call name arguments) .overflow
  /-- A count of characters or of places is infinite or undefined. -/
  | counted {name function arguments argument x}
      (named : Function.ofName? name = some function)
      (counts : function ∈ [.left, .right, .round])
      (member : argument ∈ arguments)
      (has : argument.evaluate context resolve = .ok (.float x))
      (infinite : truncate? x = none) :
      Originates context resolve (.call name arguments) (cutBreach x)
  /-- A number is rounded at a place beyond the exponents of decimals. -/
  | rounded {name arguments argument v n places}
      (named : Function.ofName? name = some .round)
      (member : argument ∈ arguments)
      (has : argument.evaluate context resolve = .ok v)
      (isNumber : v.number? = some n)
      (cut : truncated n = .ok places)
      (beyond : places < -maxExponent) :
      Originates context resolve (.call name arguments) .decimalOverflow
  | inOperand {sign operand b} (origin : Originates context resolve operand b) :
      Originates context resolve (.signed sign operand) b
  | inLeft {operator left right b} (origin : Originates context resolve left b) :
      Originates context resolve (.binary operator left right) b
  | inRight {operator left right b} (origin : Originates context resolve right b) :
      Originates context resolve (.binary operator left right) b
  | inArgument {name arguments argument b} (member : argument ∈ arguments)
      (origin : Originates context resolve argument b) :
      Originates context resolve (.call name arguments) b

section Expressions

variable {context : Context} {resolve : Resolver}

theorem evaluateAll_eq_map
    (context : Context)
    (resolve : Resolver)
    (arguments : List Expression) :
    Expression.evaluateAll context resolve arguments
      = arguments.map (Expression.evaluate context resolve) := by
  induction arguments with
  | nil =>
      rfl
  | cons e rest inductionHypothesis =>
      rw [Expression.evaluateAll, inductionHypothesis, List.map_cons]

/-- The conditional functions give what one of their arguments gave, or an
answer of their own. -/
theorem conditional_contained
    {function : Function}
    {results : List Evaluated}
    (each : ∀ result ∈ results, Contained admits (fun _ => True) result)
    {chosen : Evaluated}
    (isChosen : conditional? function results = some chosen) :
    Contained admits (fun _ => True) chosen := by
  have asks (holds : Evaluated → Bool) (result : Evaluated)
      (contained : Contained admits (fun _ => True) result) :
      Contained admits (fun _ => True) (inquire holds result) := by
    unfold inquire
    split
    · exact .breach (contained.of_error rfl)
    · exact .ok trivial
  unfold conditional? at isChosen
  split at isChosen <;> cases isChosen
  next condition yes rest =>
    refine (each condition (by simp)).bind fun v _ => ?_
    split
    · exact each yes (by simp)
    · cases rest with
      | nil =>
          exact .ok trivial
      | cons no rest =>
          exact each no (by simp)
  next result =>
    exact asks _ _ (each result (by simp))
  next result =>
    exact asks _ _ (each result (by simp))
  next result fallback =>
    split
    · exact each fallback (by simp)
    · exact each result (by simp)
  next result fallback =>
    split
    · exact each fallback (by simp)
    · exact each result (by simp)

/-- A call breaches on its arguments, or one of them breaches. -/
theorem call_originates
    {name : String}
    {function : Function}
    {arguments : List Expression}
    (named : Function.ofName? name = some function)
    (each : ∀ argument ∈ arguments,
      Contained (Originates context resolve argument) (fun _ => True)
        (argument.evaluate context resolve)) :
    Contained (Originates context resolve (.call name arguments)) (fun _ => True)
      (applyFunction function
        (Expression.evaluateAll context resolve arguments)) := by
  have results : ∀ result ∈ Expression.evaluateAll context resolve arguments,
      Contained (Originates context resolve (.call name arguments))
        (fun v => ∃ argument ∈ arguments, argument.evaluate context resolve = .ok v)
        result := by
    intro result member
    rw [evaluateAll_eq_map] at member
    obtain ⟨argument, isArgument, rfl⟩ := List.mem_map.mp member
    exact ((each argument isArgument).weaken fun b => .inArgument isArgument).mono
      fun v has => ⟨argument, isArgument, has⟩
  unfold applyFunction
  split
  · refine (checkCount_contained function _).bind fun _ _ => ?_
    cases isChosen :
      conditional? function (Expression.evaluateAll context resolve arguments) with
    | none =>
        exact .ok trivial
    | some chosen =>
        exact conditional_contained
          (fun result member => (results result member).mono fun _ _ => trivial)
          isChosen
  · refine (Meets.mapM _ results).bind fun given areGiven =>
      (checkCount_contained function _).bind fun _ _ => applyEager_meets ?_ ?_ ?_
    · intro converts
      have narrow :
          ∀ v ∈ given,
            v.Narrow (Originates context resolve (.call name arguments)) := by
        intro v isGiven
        obtain ⟨argument, isArgument, has⟩ := areGiven v isGiven
        exact narrow_unless_wide (.converted named converts isArgument has)
      split
      · exact narrow_flattenAll narrow
      · exact narrow
    · intro counts x member infinite
      have notAggregate : function.isAggregate = false := by
        simp only [List.mem_cons, List.not_mem_nil, or_false] at counts
        rcases counts with rfl | rfl | rfl <;> rfl
      rw [if_neg (by simp [notAggregate])] at member
      obtain ⟨argument, isArgument, has⟩ := areGiven _ member
      exact .counted named counts isArgument has infinite
    · rintro rfl v member n isNumber places cut beyond
      obtain ⟨argument, isArgument, has⟩ := areGiven v member
      exact .rounded named isArgument has isNumber cut beyond

mutual

/-- Every breach of an expression originates in it. -/
theorem evaluate_originates :
    (e : Expression) →
      Contained (Originates context resolve e) (fun _ => True)
        (e.evaluate context resolve)
  | .literal l => .ok trivial
  | .reference r => by
      refine ⟨fun _ => trivial, fun {failure} failed => ?_⟩
      cases failure with
      | error e =>
          trivial
      | breach b =>
          exact .reference failed
  | .name n => by
      show Contained _ (fun _ => True) (lookupName context n)
      unfold lookupName
      split
      · exact .ok trivial
      · exact .fail _
  | .signed sign operand =>
      ((evaluate_originates operand).weaken fun b => .inOperand).bind fun v has =>
        applySign_narrow (narrow_unless_wide (.signed has)) sign
  | .binary operator left right =>
      ((evaluate_originates left).weaken fun b => .inLeft).bind fun l leftHas =>
        ((evaluate_originates right).weaken fun b => .inRight).bind
          fun r rightHas =>
            applyOperator_narrow
              (narrow_unless_wide fun wide => .binary leftHas rightHas (.inl wide))
              (narrow_unless_wide fun wide => .binary leftHas rightHas (.inr wide))
              operator
  | .call name arguments => by
      unfold Expression.evaluate
      split
      next function named =>
        exact call_originates named (evaluateAll_originates arguments)
      next =>
        exact .fail _

theorem evaluateAll_originates :
    (arguments : List Expression) → ∀ argument ∈ arguments,
      Contained (Originates context resolve argument) (fun _ => True)
        (argument.evaluate context resolve)
  | [], _, member => nomatch member
  | e :: rest, argument, member => by
      rcases List.mem_cons.mp member with isFirst | inRest
      · rw [isFirst]
        exact evaluate_originates e
      · exact evaluateAll_originates rest argument inRest

end

end Expressions

/-- A resolver breaches no more than formulas may. -/
def Resolver.Contained (admits : Breach → Prop) (resolve : Resolver) : Prop :=
  ∀ reference, GridScript.Contained admits (fun _ => True) (resolve reference)

/-- Formulas breach no more than formulas may. -/
theorem Originates.admitted
    {context : Context}
    {resolve : Resolver}
    {e : Expression}
    {b : Breach}
    (origin : Originates context resolve e b)
    (admitted : ∀ b, MayBreach b → admits b)
    (resolved : resolve.Contained admits) :
    admits b := by
  induction origin with
  | reference breaches =>
      exact (resolved _).of_error breaches
  | signed | binary | converted | rounded =>
      exact admitted _ trivial
  | counted =>
      unfold cutBreach
      split <;> exact admitted _ trivial
  | inOperand _ inductionHypothesis | inLeft _ inductionHypothesis
  | inRight _ inductionHypothesis
    | inArgument _ _ inductionHypothesis =>
      exact inductionHypothesis

theorem Expression.evaluate_contained
    (admitted : ∀ b, MayBreach b → admits b)
    (context : Context)
    {resolve : Resolver}
    (resolved : resolve.Contained admits)
    (e : Expression) :
    GridScript.Contained admits (fun _ => True) (e.evaluate context resolve) :=
  ((evaluate_originates e).weaken fun _ origin =>
    origin.admitted admitted resolved).mono
    fun _ _ => trivial

/-! ## Sheets -/

theorem resolverOn_contained
    (long : AdmitsLongRows admits)
    (current : Sheet)
    (book : Option Book) :
    (resolverOn current book).Contained admits := by
  have target (name : Option String) :
      GridScript.Contained admits (fun _ => True)
        (targetSheet current book name) := by
    unfold targetSheet
    repeat' split
    all_goals first
      | exact .ok trivial
      | exact .fail _
  have value (place : String) (cell : Cell) :
      GridScript.Contained admits (fun _ => True) (cellValue place cell) := by
    cases cell with
    | error tag =>
        exact .fail _
    | _ =>
        exact .ok trivial
  intro reference
  cases reference with
  | cell name address =>
      exact ((Address.parse_contained long address).mapError _).bind fun (_, _) _ =>
        (target name).bind fun sheet _ =>
          ((sheet.get_contained _ _).mapError _).bind fun cell _ =>
            value address cell
  | range name start finish =>
      refine (target name).bind fun sheet _ =>
        ((Address.parseBlock_contained long start finish).mapError _).bind
          fun block _ =>
            ((sheet.checkBlock_contained block).mapError _).bind fun _ _ => ?_
      exact (Meets.mapM _ fun _ _ => (Meets.mapM _ fun _ _ =>
        ((sheet.get_contained _ _).mapError _).bind fun cell _ => value _ cell).mono
          fun _ _ => trivial).bind fun _ _ => .pure trivial

/-- A formula against a sheet of a book, or against none. -/
theorem evaluate_contained
    (admitted : ∀ b, MayBreach b → admits b)
    (context : Context)
    {resolver : Option Resolver}
    (resolved : ∀ resolve, resolver = some resolve → resolve.Contained admits)
    (text : String) :
    GridScript.Contained admits (fun _ => True)
      (evaluate context resolver text) := by
  refine ((parse_contained admitted text).mapError _).bind fun e _ => ?_
  refine (Expression.evaluate_contained admitted context ?_ e).mapError _
  cases resolver with
  | none =>
      exact fun _ => .fail _
  | some resolve =>
      exact resolved resolve rfl

end GridScript.Formula
