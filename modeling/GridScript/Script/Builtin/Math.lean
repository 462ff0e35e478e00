import GridScript.Script.Builtin.Arguments
import GridScript.Script.Builtin.Catalogue
import GridScript.Value.Rounding

namespace GridScript.Script

/-!
# Numeric functions

The aggregates take values and arrays, which they read item by item at every
depth; nulls are passed over. Results that are integers must fit 64 bits.
-/

open GridScript.Number

mutual

/-- The values inside an argument; only arrays hold others. -/
def leaves : Value → List Value
  | .array items => leavesOf items
  | v => [v]

/-- The values inside some arguments. -/
def leavesOf : List Value → List Value
  | [] => []
  | v :: rest => leaves v ++ leavesOf rest

end

/-- The numbers of an aggregate; nulls are passed over and other
values are errors. -/
def aggregateNumbers
    (name : String) : List Value → Outcome OperationError (List Number)
  | [] => .ok []
  | .null :: rest => aggregateNumbers name rest
  | v :: rest =>
      match v.number? with
      | some n => do return n :: (← aggregateNumbers name rest)
      | none => fail (typeFound name .numbers v)

/-- The arguments of an aggregate, of which there is at least one, as numbers. -/
def numbersIn
    (name : String)
    (arguments : List Value) : Outcome OperationError (List Number) := do
  checkArity name (.atLeast 1) arguments
  aggregateNumbers name (leavesOf arguments)

/-- Numbers combined from left to right by an operator. -/
def combineNumbers
    (operator : Operator)
    (start : Int)
    (numbers : List Number) : Outcome OperationError Value :=
  numbers.foldlM (fun total n => applyBinary operator total n.value) (.int start)

/-- The mean of some numbers; null if there are none. -/
def mean (numbers : List Number) : Outcome OperationError Value := do
  if numbers.isEmpty then return .null
  let floats ← liftBreach (numbers.mapM Number.toFloat)
  let total ← liftBreach (exactSum floats)
  return .float (total / Float.ofNat numbers.length)

/-- The first number that no other beats; null if there is none. -/
def extreme (beats : Ordering → Bool) : List Number → Value
  | [] => .null
  | first :: rest =>
    (rest.foldl (fun best n => if beats (n.order best) then n else best)
      first).value

/-- A number cut to an integer by a rule for floats. -/
def wholeBy
    (rule : Float → Option Int)
    (undefinedFor : Float → ComputationError)
    (n : Number) : Outcome OperationError Value :=
  match n with
  | .int i => checkedValue i
  | .float x =>
      match rule x with
      | some i => checkedValue i
      | none => fail (.computation (undefinedFor x))

/-- The square root of a number that is not negative. -/
def squareRoot (n : Number) : Outcome OperationError Value :=
  if n.less (.int 0) then fail (.computation (.rootOfNegative n))
  else do return .float (← liftBreach n.toFloat).sqrt

/-- A numeric function applied to its arguments. -/
def callMath
    (function : MathFunction)
    (arguments : List Value) : Outcome OperationError Value := do
  let first := argument arguments 0
  let second := argument arguments 1
  match function with
  | .abs =>
      checkArity "abs" (.exactly 1) arguments
      match ← numberArgument "abs" first "argument" with
      | .int i => checkedValue i.natAbs
      | .float x => return .float x.abs
  | .sum => combineNumbers .add 0 (← numbersIn "sum" arguments)
  | .average => mean (← numbersIn "avg" arguments)
  | .minimum => return extreme (· == .lt) (← numbersIn "min" arguments)
  | .maximum => return extreme (· == .gt) (← numbersIn "max" arguments)
  | .count => return .int ((leavesOf arguments).filter Value.isNumber).length
  | .product => combineNumbers .mul 1 (← numbersIn "product" arguments)
  | .round =>
      checkArity "round" (.between 1 2) arguments
      let n ← numberArgument "round" first "value"
      let digits ←
        if arguments.length = 2 then intArgument "round" second "digit count"
        else pure 0
      return (← liftBreach (roundHalfAway n digits)).value
  | .floor =>
      checkArity "floor" (.exactly 1) arguments
      wholeBy floor? .floorOf (← numberArgument "floor" first "argument")
  | .ceiling =>
      checkArity "ceil" (.exactly 1) arguments
      wholeBy ceiling? .ceilingOf (← numberArgument "ceil" first "argument")
  | .squareRoot =>
      checkArity "sqrt" (.exactly 1) arguments
      squareRoot (← numberArgument "sqrt" first "argument")
  | .power =>
      checkArity "pow" (.exactly 2) arguments
      let base ← numberArgument "pow" first "base"
      let exponent ← numberArgument "pow" second "exponent"
      applyBinary .pow base.value exponent.value

end GridScript.Script
