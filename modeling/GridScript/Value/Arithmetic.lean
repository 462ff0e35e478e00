import GridScript.Value.Display
import GridScript.Value.Order
import GridScript.Value.Rounding

namespace GridScript

/-!
# Operators

The operators that scripts and formulas share. Integers are computed exactly and
the result must fit 64 bits; as soon as one operand is a float the other becomes
one. `+` joins texts and arrays, `&` always joins display texts.
-/

open GridScript.Number
open GridScript.Text

/-- The operators that evaluate both operands. -/
inductive Operator where
  | add
  | sub
  | mul
  | div
  | mod
  | pow
  | concat
  | equal
  | notEqual
  | less
  | lessEqual
  | greater
  | greaterEqual
  deriving Repr, DecidableEq

namespace Operator

/-- The sign of an operator. -/
def sign : Operator → String
  | add => "+"
  | sub => "-"
  | mul => "*"
  | div => "/"
  | mod => "mod"
  | pow => "^"
  | concat => "&"
  | equal => "="
  | notEqual => "<>"
  | less => "<"
  | lessEqual => "<="
  | greater => ">"
  | greaterEqual => ">="

/-- Every operator. -/
def all : List Operator :=
  [add, sub, mul, div, mod, pow, concat, equal, notEqual, less, lessEqual, greater,
    greaterEqual]

/-- The operator with a sign. -/
def ofSign? (sign : String) : Option Operator :=
  all.find? fun operator => operator.sign == sign

end Operator

/-- The unary operators. -/
inductive UnaryOperator where
  | negate
  | not
  deriving Repr, DecidableEq

/-- The sign of a unary operator. -/
def UnaryOperator.sign : UnaryOperator → String
  | negate => "-"
  | not => "not"

/-- The unary operator with a sign. -/
def UnaryOperator.ofSign? (sign : String) : Option UnaryOperator :=
  [negate, not].find? fun operator => operator.sign == sign

/-- The least 64-bit integer. -/
def minInt : Int := -(2 ^ 63)

/-- The greatest 64-bit integer. -/
def maxInt : Int := 2 ^ 63 - 1

/-- The integer fits 64 bits. -/
def fitsInt (i : Int) : Bool :=
  minInt ≤ i && i ≤ maxInt

/-- An integer that fits 64 bits. -/
def checkInt (i : Int) : Outcome OperationError Int :=
  if fitsInt i then .ok i else fail (.computation .integerOverflow)

/-- A checked integer as a value. -/
def checkedValue (i : Int) : Outcome OperationError Value :=
  (checkInt i).map .int

/-- A result that can only breach the number formats. -/
def liftBreach : Except Breach α → Outcome E α
  | .ok a => .ok a
  | .error b => breach b

/-- A result that can only fail inside its family. -/
def liftError : Except E α → Outcome E α
  | .ok a => .ok a
  | .error e => fail e

/-- The two operands as numbers. -/
def numberOperands
    (operator : Operator)
    (left right : Value) : Outcome OperationError (Number × Number) :=
  match left.number?, right.number? with
  | some l, some r => .ok (l, r)
  | _, _ => fail (kindError2 (.apply operator.sign) left right)

/-- An operation on two numbers, exact on integers. -/
def arithmetic
    (operator : Operator)
    (onInts : Int → Int → Int)
    (onFloats : Float → Float → Float)
    (left right : Value) : Outcome OperationError Value := do
  match ← numberOperands operator left right with
  | (.int l, .int r) => checkedValue (onInts l r)
  | (l, r) =>
      let x ← liftBreach l.toFloat
      let y ← liftBreach r.toFloat
      return .float (onFloats x y)

/-- Sum of numbers, or texts or arrays joined; a text on one side makes both
texts. -/
def addValues (left right : Value) : Outcome OperationError Value :=
  match left, right with
  | .string l, r => .ok (.string (l ++ r.display))
  | l, .string r => .ok (.string (l.display ++ r))
  | .array l, .array r => .ok (.array (l ++ r))
  | l, r => arithmetic .add (· + ·) (· + ·) l r

/-- Quotient of numbers; integers divide toward zero. -/
def divideValues (left right : Value) : Outcome OperationError Value := do
  let (l, r) ← numberOperands .div left right
  if r.isZero then fail (.computation .divisionByZero)
  else
    match l, r with
    | .int a, .int b => checkedValue (a.tdiv b)
    | l, r =>
        let x ← liftBreach l.toFloat
        let y ← liftBreach r.toFloat
        return .float (x / y)

/-- Remainder of integers, with the sign of the left operand. -/
def moduloValues (left right : Value) : Outcome OperationError Value :=
  match left, right with
  | .int l, .int r =>
      if r = 0 then fail (.computation .moduloByZero) else .ok (.int (l.tmod r))
  | l, r => fail (kindError2 .modulo l r)

/-- The float is an odd integer. -/
def isOddInteger (x : Float) : Bool :=
  match whole? x with
  | some i => i.natAbs % 2 == 1
  | none => false

/-- A float raised to a float; the undefined cases of finite operands are errors. -/
def powerFloat (x y : Float) : Except PowerError Float :=
  if x.isFinite && y.isFinite then
    let r := Float.pow x y
    if r.isFinite then .ok r
    else if r.isNaN then .error .domain
    else if x == 0 then .error .domain
    else .error .range
  else if x.isNaN then .ok (if y == 0 then 1 else x)
  else if y.isNaN then .ok (if x == 1 then 1 else y)
  else if x.isInf then
    if y > 0 then .ok (if isOddInteger y then x else x.abs)
    else if y == 0 then .ok 1
    else .ok (if isOddInteger y && x < 0 then -0.0 else 0)
  else if x.abs == 1 then .ok 1
  else if y > 0 && x.abs > 1 then .ok y
  else if y < 0 && x.abs < 1 then .ok (-y)
  else .ok 0

/-- An integer power; powers of -1, 0 and 1 depend on the parity of
the exponent alone. -/
def intPower (base : Int) (exponent : Nat) : Int :=
  if base.natAbs ≤ 1 && exponent > 2 then base ^ (exponent % 2 + 2)
  else base ^ exponent

/-- Power of numbers; exact on integers with an exponent that is not negative. -/
def powerValues (left right : Value) : Outcome OperationError Value := do
  let (l, r) ← numberOperands .pow left right
  let invalid (reason : PowerError) : Outcome OperationError Value :=
    fail (.computation (.power left.display right.display reason))
  let onFloats : Outcome OperationError Value :=
    match l.toFloat, r.toFloat with
    | .ok x, .ok y =>
        match powerFloat x y with
        | .ok z => .ok (.float z)
        | .error reason => invalid reason
    | _, _ => invalid .operandRange
  match l, r with
  | .int a, .int b =>
      if b < 0 then onFloats
      else if a.natAbs > 1 && b > 64 then fail (.computation .integerOverflow)
      else checkedValue (intPower a b.toNat)
  | _, _ => onFloats

/-- An ordering operator decided from the order of its operands. -/
def orderingValues
    (holds : Ordering → Bool)
    (left right : Value) : Outcome OperationError Value := do
  let o ← liftError (left.compareValues right)
  return .bool (holds o)

/-- Apply an operator to the values of its operands. -/
def applyBinary
    (operator : Operator)
    (left right : Value) : Outcome OperationError Value :=
  match operator with
  | .add => addValues left right
  | .sub => arithmetic .sub (· - ·) (· - ·) left right
  | .mul => arithmetic .mul (· * ·) (· * ·) left right
  | .div => divideValues left right
  | .mod => moduloValues left right
  | .pow => powerValues left right
  | .concat => .ok (.string (left.display ++ right.display))
  | .equal => liftError ((left.strictEqual right).map .bool)
  | .notEqual => liftError ((left.strictEqual right).map fun same => .bool !same)
  | .less => orderingValues (· == .lt) left right
  | .lessEqual => orderingValues (· != .gt) left right
  | .greater => orderingValues (· == .gt) left right
  | .greaterEqual => orderingValues (· != .lt) left right

/-- Apply a unary operator to the value of its operand. -/
def applyUnary
    (operator : UnaryOperator)
    (operand : Value) : Outcome OperationError Value :=
  match operator, operand with
  | .not, v => .ok (.bool !v.isTruthy)
  | .negate, .int i => checkedValue (-i)
  | .negate, .float x => .ok (.float (-x))
  | .negate, v => fail (kindError .negate v)

end GridScript
