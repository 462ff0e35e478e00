import GridScript.Formula.Failure
import GridScript.Lookup
import GridScript.Number.Exact
import GridScript.Text.Case

namespace GridScript.Formula

/-!
# Functions of formulas

A function is applied to the results of its arguments, because the
conditional functions choose among them: they pass over an argument that
failed unless it is the one they choose. All other functions fail with the
first argument that failed.
-/

open GridScript.Number
open GridScript.Text

/-- The result of a formula. -/
abbrev Evaluated := Outcome EvalError Value

/-- The functions of formulas. -/
inductive Function where
  | sum
  | average
  | minimum
  | maximum
  | count
  | countFilled
  | absolute
  | round
  | conditional
  | and
  | or
  | not
  | isError
  | isNotAvailable
  | ifError
  | ifNotAvailable
  | concat
  | concatenate
  | length
  | upper
  | lower
  | left
  | right
  | vlookup
  | hlookup
  | index
  | matchPosition
  | xlookup
  deriving Repr, DecidableEq

namespace Function

/-- The name of a function. -/
def name : Function → String
  | sum => "SUM"
  | average => "AVERAGE"
  | minimum => "MIN"
  | maximum => "MAX"
  | count => "COUNT"
  | countFilled => "COUNTA"
  | absolute => "ABS"
  | round => "ROUND"
  | conditional => "IF"
  | and => "AND"
  | or => "OR"
  | not => "NOT"
  | isError => "ISERROR"
  | isNotAvailable => "ISNA"
  | ifError => "IFERROR"
  | ifNotAvailable => "IFNA"
  | concat => "CONCAT"
  | concatenate => "CONCATENATE"
  | length => "LEN"
  | upper => "UPPER"
  | lower => "LOWER"
  | left => "LEFT"
  | right => "RIGHT"
  | vlookup => "VLOOKUP"
  | hlookup => "HLOOKUP"
  | index => "INDEX"
  | matchPosition => "MATCH"
  | xlookup => "XLOOKUP"

/-- Every function. -/
def all : List Function :=
  [sum, average, minimum, maximum, count, countFilled, absolute, round, conditional,
    and, or, not, isError, isNotAvailable, ifError, ifNotAvailable, concat,
    concatenate, length, upper, lower, left, right, vlookup, hlookup, index,
    matchPosition, xlookup]

/-- The function with a name. -/
def ofName? (name : String) : Option Function :=
  all.find? fun function => function.name == name

/-- The numbers of arguments that a function accepts. -/
def arity : Function → Arity
  | sum | average | minimum | maximum | and | or => .atLeast 1
  | count | countFilled | concat | concatenate => .atLeast 0
  | absolute | not | isError | isNotAvailable | length | upper | lower => .exactly 1
  | ifError | ifNotAvailable => .exactly 2
  | round | left | right => .between 1 2
  | conditional | index | matchPosition => .between 2 3
  | vlookup | hlookup | xlookup => .between 3 4

/-- The arguments of a function, as the message about their number names them. -/
def outline : Function → String
  | index => " (range, row [, col])"
  | matchPosition => " (value, range [, type])"
  | xlookup => " (value, lookup_range, return_range [, if_not_found])"
  | _ => ""

/-- The function takes all values of its arguments, those of ranges one by one. -/
def isAggregate : Function → Bool
  | sum | average | minimum | maximum | count | countFilled => true
  | _ => false

end Function

/-- The names of all functions, sorted. -/
def functionNames : List String :=
  (Function.all.map Function.name).mergeSort fun a b => decide (a ≤ b)

/-- Fail in a function. -/
def faultIn (function : Function) (fault : FunctionFault) : Outcome EvalError α :=
  fail (.function function.name fault)

/-- The number of arguments must be accepted. -/
def checkCount (function : Function) (count : Nat) : Outcome EvalError Unit :=
  if function.arity.accepts count then .ok ()
  else faultIn function (.arity function.arity function.outline)

mutual

/-- The values of a range, row by row; any other value stands for itself. -/
def flatten : Value → List Value
  | .array items => flattenAll items
  | v => [v]

/-- The values of some arguments. -/
def flattenAll : List Value → List Value
  | [] => []
  | v :: rest => flatten v ++ flattenAll rest

end

/-- The numbers among some values. -/
def numbersOf (values : List Value) : List Number :=
  values.filterMap Value.number?

/-- An operator of values inside a formula. -/
def guarded (result : Outcome OperationError α) : Outcome EvalError α :=
  Outcome.mapError .operation result

/-- Sum of the numbers. -/
def sumOf (values : List Value) : Evaluated :=
  (numbersOf values).foldlM
    (fun total n => guarded (applyBinary .add total n.value)) (.int 0)

/-- Mean of the numbers; they are added as floats from left to right. -/
def averageOf (values : List Value) : Evaluated := do
  let numbers := numbersOf values
  if numbers.isEmpty then faultIn .average .averageOfNothing
  else
    let floats ← liftBreach (numbers.mapM Number.toFloat)
    return .float (floats.foldl (· + ·) 0 / Float.ofNat numbers.length)

/-- The first number that no other is better than; zero if there is none. -/
def bestOf (better : Number → Number → Bool) (values : List Value) : Value :=
  match numbersOf values with
  | [] => .int 0
  | first :: rest =>
      (rest.foldl (fun best n => if better n best then n else best) first).value

/-- The value counts as filled. -/
def isFilled : Value → Bool
  | .null => false
  | .string s => !s.isEmpty
  | _ => true

/-- The value without its sign. -/
def absoluteOf (v : Value) : Evaluated :=
  match v with
  | .int i => .ok (.int i.natAbs)
  | .float x => .ok (.float x.abs)
  | v => faultIn .absolute (.absOf v)

/-- A number without its fraction. -/
def truncated : Number → Outcome EvalError Int
  | .int i => .ok i
  | .float x =>
      match truncate? x with
      | some i => .ok i
      | none => breach (if x.isNaN then .undefinedInteger else .overflow)

/-- A number rounded to so many places. -/
def roundOf (arguments : List Value) : Evaluated :=
  match arguments.map Value.number? with
  | [some n] => (liftBreach (roundHalfAway n 0)).map Number.value
  | [some n, some digits] => do
      let places ← truncated digits
      (liftBreach (roundHalfAway n places)).map Number.value
  | _ => faultIn .round .roundOf

mutual

/-- The text of a value; a blank has none, and a range has the
texts of its values. -/
def textOf : Value → String
  | .null => ""
  | .array items => textsOf items
  | v => v.display

/-- The texts of some values, one after another. -/
def textsOf : List Value → String
  | [] => ""
  | v :: rest => textOf v ++ textsOf rest

end

/-- A number of characters; one if it is not given. -/
def characterCount (function : Function) : Option Value → Outcome EvalError Nat
  | none => .ok 1
  | some v =>
      match v.number? with
      | none => faultIn function .characterCount
      | some n =>
          if n.less (.int 0) then faultIn function .characterCount
          else (truncated n).map Int.toNat

/-- The last `n` characters of a text; a larger number counts
from the start again. -/
def lastCharacters (n : Nat) (cs : List Char) : List Char :=
  if n ≤ cs.length then cs.drop (cs.length - n) else cs.drop (2 * cs.length - n)

/-- A lookup inside a formula. -/
def looked
    (function : Function)
    (result : Except OperationError Value) : Evaluated :=
  match result with
  | .ok v => .ok v
  | .error error => faultIn function (.lookup error)

/-- A range of one row or one column as an array; any other value as it is. -/
def collapse (v : Value) : Value :=
  match v with
  | .array items =>
      match Value.rows? items with
      | some [row] => .array row
      | some rows =>
          if !rows.isEmpty && rows.all (·.length == 1) then .array rows.flatten
          else v
      | none => v
  | v => v

/-- A lookup that is exact only if its last argument is given and false. -/
def isExact (sorted : Option Value) : Value :=
  .bool (!(sorted.map Value.isTruthy).getD true)

/-- A function applied to as many values as it accepts. -/
def applyEager (function : Function) (arguments : List Value) : Evaluated :=
  let first := arguments.getD 0 .null
  let second := arguments.getD 1 .null
  let third := arguments.getD 2 .null
  match function with
  | .sum => sumOf arguments
  | .average => averageOf arguments
  | .minimum => .ok (bestOf Number.less arguments)
  | .maximum => .ok (bestOf (fun n best => best.less n) arguments)
  | .count => .ok (.int (numbersOf arguments).length)
  | .countFilled => .ok (.int (arguments.filter isFilled).length)
  | .absolute => absoluteOf first
  | .round => roundOf arguments
  | .and =>
      .ok (.bool (((flattenAll arguments).filter isPresent).all Value.isTruthy))
  | .or =>
      .ok (.bool (((flattenAll arguments).filter isPresent).any Value.isTruthy))
  | .not => .ok (.bool !first.isTruthy)
  | .concat | .concatenate => .ok (.string (textsOf arguments))
  | .length => .ok (.int (textOf first).length)
  | .upper => .ok (.string (Text.upper (textOf first)))
  | .lower => .ok (.string (Text.lower (textOf first)))
  | .left => do
      let n ← characterCount .left arguments[1]?
      return .string (String.ofList ((textOf first).toList.take n))
  | .right => do
      let n ← characterCount .right arguments[1]?
      return .string (String.ofList (lastCharacters n (textOf first).toList))
  | .vlookup =>
      looked .vlookup (Lookup.vlookup first second third (isExact arguments[3]?))
  | .hlookup =>
      looked .hlookup (Lookup.hlookup first second third (isExact arguments[3]?))
  | .index => looked .index (Lookup.index first second arguments[2]?)
  | .matchPosition =>
      looked .matchPosition
        (Lookup.matchPosition first (collapse second) (arguments.getD 2 (.int 1)))
  | .xlookup =>
      looked .xlookup
        (Lookup.xlookup first (collapse second) (collapse third) arguments[3]?)
  | .conditional | .isError | .isNotAvailable | .ifError | .ifNotAvailable =>
      .ok .null
where
  /-- The value is not blank. -/
  isPresent : Value → Bool
    | .null => false
    | _ => true

/-- A failed result of the family. -/
def evalError? : Evaluated → Option EvalError
  | .error (.error e) => some e
  | _ => none

/-- A result that failed because something is not available. -/
def isMissing (result : Evaluated) : Bool :=
  match evalError? result with
  | some e => e.tag == .notAvailable
  | none => false

/-- A question about a result; breaches pass through. -/
def inquire (holds : Evaluated → Bool) (result : Evaluated) : Evaluated :=
  match result with
  | .error (.breach b) => breach b
  | result => .ok (.bool (holds result))

/-- The result of a conditional function; none for the functions that take
values. -/
def conditional?
    (function : Function)
    (results : List Evaluated) : Option Evaluated :=
  match function, results with
  | .conditional, condition :: yes :: rest =>
      some <| do
        if (← condition).isTruthy then yes else rest.headD (.ok (.bool false))
  | .isError, [result] => some (inquire (fun r => (evalError? r).isSome) result)
  | .isNotAvailable, [result] => some (inquire isMissing result)
  | .ifError, [result, fallback] =>
      some (if (evalError? result).isSome then fallback else result)
  | .ifNotAvailable, [result, fallback] =>
      some (if isMissing result then fallback else result)
  | _, _ => none

/-- The function chooses among the results of its arguments. -/
def Function.isConditional : Function → Bool
  | conditional | isError | isNotAvailable | ifError | ifNotAvailable => true
  | _ => false

/-- Apply a function to the results of its arguments. -/
def applyFunction (function : Function) (results : List Evaluated) : Evaluated := do
  if function.isConditional then
    checkCount function results.length
    (conditional? function results).getD (.ok .null)
  else
    let given ← results.mapM id
    let arguments := if function.isAggregate then flattenAll given else given
    checkCount function arguments.length
    applyEager function arguments

end GridScript.Formula
