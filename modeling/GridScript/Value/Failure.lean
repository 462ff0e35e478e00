import GridScript.Number.FloatText
import GridScript.Text.Quoted
import GridScript.Value.Basic

namespace GridScript

/-!
# Failures of operations on values

An operation fails because of the kinds of its operands, its arguments, a bound,
an unsuccessful search, or the computation itself. Each cause has one
constructor, and `OperationError.message` gives its wording. A `Breach` is a
limit of the number formats that no operation accounts for.
-/

open GridScript.Number
open GridScript.Text

/-- Limits of number conversion that lie outside the error families. -/
inductive Breach where
  /-- An integer or result beyond the range of floats, or an integer
  cut from an infinity. -/
  | overflow
  /-- An integer cut from the undefined float. -/
  | undefinedInteger
  /-- An integer text with more digits than are read. -/
  | longInteger (digits : Nat)
  /-- An integer with more digits than are written. -/
  | longNumeral
  /-- An integer of a script with more digits than are read. -/
  | longLiteral
  /-- A decimal place beyond the range of exponents. -/
  | decimalOverflow
  /-- A decimal with more digits than are computed. -/
  | decimalPrecision
  /-- Infinities of both signs in one sum. -/
  | opposedInfinities
  deriving Repr, DecidableEq

/-- The wording of a breach; a breach of a range has none. -/
def Breach.message? : Breach → Option String
  | undefinedInteger => some "cannot convert float NaN to integer"
  | longInteger digits =>
      some ("Exceeds the limit (4300 digits) for integer string conversion: " ++
        s!"value has {digits} digits; " ++
        "use sys.set_int_max_str_digits() to increase the limit")
  | longNumeral =>
      some ("Exceeds the limit (4300 digits) for integer string conversion; " ++
        "use sys.set_int_max_str_digits() to increase the limit")
  | opposedInfinities => some "-inf + inf in fsum"
  | _ => none

/-- An error of a family, or a breach. -/
inductive Failure (E : Type) where
  | error (e : E)
  | breach (b : Breach)
  deriving Repr

/-- A failure with its error carried into another family. -/
def Failure.map (f : E → F) : Failure E → Failure F
  | .error e => .error (f e)
  | .breach b => .breach b

/-- Kinds of operands that do not fit. -/
inductive KindError where
  /-- An error cell where a type has to be named. -/
  | errorCell
  | compare (left right : TypeName)
  | order (left right : TypeName)
  | apply (operator : String) (left right : TypeName)
  | modulo (left right : TypeName)
  | negate (operand : TypeName)
  | indexKind (index : TypeName)
  | assignInto (container : TypeName)
  | indexInto (container : TypeName)
  | iterate (collection : TypeName)
  | loopBound (bound : TypeName)
  deriving Repr, DecidableEq

/-- The wording of a kind error. -/
def KindError.message : KindError → String
  | errorCell => "Unsupported value of Python type CellError"
  | compare left right => s!"Cannot compare {left.text} with {right.text}"
  | order left right => s!"Cannot order {left.text} against {right.text}"
  | apply operator left right =>
      s!"Cannot apply '{operator}' to {left.text} and {right.text}"
  | modulo left right =>
      s!"Modulo requires integer operands, got {left.text} and {right.text}"
  | negate operand => s!"Cannot negate {operand.text}"
  | indexKind index => s!"Index must be an int, got {index.text}"
  | assignInto container => s!"Cannot assign into {container.text}"
  | indexInto container => s!"Cannot index {container.text}"
  | iterate collection => s!"Cannot iterate over {collection.text}"
  | loopBound bound => s!"for loop bounds must be numbers, got {bound.text}"

/-- A number of arguments that a function accepts. -/
inductive Arity where
  | exactly (n : Nat)
  | atLeast (n : Nat)
  | between (low high : Nat)
  deriving Repr, DecidableEq

/-- A plural ending. -/
def pluralEnding (n : Nat) : String :=
  if n = 1 then "" else "s"

/-- The wording of an accepted number of arguments. -/
def Arity.text : Arity → String
  | exactly n => s!"{n} argument{pluralEnding n}"
  | atLeast n => s!"at least {n} argument{pluralEnding n}"
  | between low high => s!"{low} to {high} arguments"

/-- What a function expects of its arguments. -/
inductive Expectation where
  | arity (arity : Arity)
  /-- At least so many arguments before the rest parameter of a script function. -/
  | leading (n : Nat)
  | integer (what : String)
  | number (what : String)
  | string (what : String)
  | nonNegative (what : String)
  | table
  | vector (what : String)
  | matchType
  | alignedResults
  | sized
  | arrayOrSheet
  | nonzeroStep
  | rangeLength (limit : Nat)
  | sheetOrName
  | grid
  | columnNames
  | rowValues
  | numbers
  | finiteNumber
  | numericText
  | convertible
  | startPosition
  | searchText
  | array
  deriving Repr, DecidableEq

/-- The wording of an expectation. -/
def Expectation.text : Expectation → String
  | arity a => a.text
  | leading n => s!"at least {n} arguments"
  | integer what => s!"an integer {what}"
  | number what => s!"a number {what}"
  | string what => s!"a string {what}"
  | nonNegative what => s!"a non-negative {what}"
  | table => "a rectangular 2-D array as table"
  | vector what => s!"a 1-D array as {what}"
  | matchType => "match_type 0, 1 or -1"
  | alignedResults => "return_array with the same length as lookup_array"
  | sized => "a string, array or sheet"
  | arrayOrSheet => "an array or sheet"
  | nonzeroStep => "a nonzero step"
  | rangeLength limit => s!"at most {limit} elements"
  | sheetOrName => "a sheet or sheet name"
  | grid => "a 2-D array"
  | columnNames => "an array of column names"
  | rowValues => "an array of values"
  | numbers => "numbers"
  | finiteNumber => "a finite number"
  | numericText => "numeric text"
  | convertible => "a number, bool or string"
  | startPosition => "a start position of at least 1"
  | searchText => "a non-empty search text"
  | array => "an array"

/-- What was found instead of the expected argument. -/
inductive Finding where
  | count (n : Nat)
  | type (t : TypeName)
  | int (i : Int)
  | float (x : Float)
  | inconvertible (text : String)
  deriving Repr

/-- The wording of a finding. -/
def Finding.text : Finding → String
  | count n => s!"got {n}"
  | type t => s!"got {t.text}"
  | int i => "got " ++ intText i
  | float x => "got " ++ floatText x
  | inconvertible text => "cannot convert " ++ quoted text

/-- A position outside its extent. -/
inductive BoundsError where
  /-- A 1-based position of a lookup function. -/
  | lookup (function what : String) (position : Int) (extent : Nat)
  /-- An index of an array, text or sheet. -/
  | index (position : Int) (length : Nat)
  deriving Repr, DecidableEq

/-- The wording of a bounds error. -/
def BoundsError.message : BoundsError → String
  | lookup function what position extent =>
      s!"{function} {what} " ++ intText position ++ s!" is outside 1..{extent}"
  | .index position length =>
      "Index " ++ intText position ++ s!" out of bounds for length {length}"

/-- Why a power has no value. -/
inductive PowerError where
  | domain
  | range
  | operandRange
  deriving Repr, DecidableEq

/-- The wording of a power error. -/
def PowerError.message : PowerError → String
  | domain => "math domain error"
  | range => "math range error"
  | operandRange => "int too large to convert to float"

/-- A computation without a result. -/
inductive ComputationError where
  | integerOverflow
  | divisionByZero
  | moduloByZero
  | power (base exponent : String) (reason : PowerError)
  | floorOf (x : Float)
  | ceilingOf (x : Float)
  | rootOfNegative (n : Number)
  deriving Repr

/-- The text of a number that reads back. -/
def Number.text : Number → String
  | .int i => intText i
  | .float x => floatText x

/-- The wording of a computation error. -/
def ComputationError.message : ComputationError → String
  | integerOverflow => "Integer overflow"
  | divisionByZero => "Division by zero"
  | moduloByZero => "Modulo by zero"
  | power base exponent reason =>
      s!"Invalid power {base}^{exponent}: {reason.message}"
  | floorOf x => s!"floor() of {floatText x}"
  | ceilingOf x => s!"ceil() of {floatText x}"
  | rootOfNegative n => s!"sqrt() of negative number {n.text}"

/-- The errors of operations on values. -/
inductive OperationError where
  | kind (e : KindError)
  | arguments (function : String) (expected : Expectation) (found : Option Finding)
  | notFound (function key : String)
  | bounds (e : BoundsError)
  | computation (e : ComputationError)
  deriving Repr

namespace OperationError

/-- The wording of an operation error. -/
def message : OperationError → String
  | kind e => e.message
  | arguments function expected none => s!"{function}() expects {expected.text}"
  | arguments function expected (some found) =>
      s!"{function}() expects {expected.text}: {found.text}"
  | notFound function key => s!"{function}: {quoted key} not found"
  | bounds e => e.message
  | computation e => e.message

end OperationError

/-- A result that may fail with an error of the family `E`. -/
abbrev Outcome (E α : Type) := Except (Failure E) α

/-- Fail with an error of the family. -/
def fail (e : E) : Outcome E α :=
  .error (.error e)

/-- Fail with a breach. -/
def breach (b : Breach) : Outcome E α :=
  .error (.breach b)

/-- A result with its error carried into another family. -/
def Outcome.mapError (f : E → F) : Outcome E α → Outcome F α
  | .ok a => .ok a
  | .error e => .error (e.map f)

/-- The kind error about one value. -/
def kindError (make : TypeName → KindError) (v : Value) : OperationError :=
  match v.typeName? with
  | some t => .kind (make t)
  | none => .kind .errorCell

/-- The kind error about two values. -/
def kindError2
    (make : TypeName → TypeName → KindError)
    (left right : Value) : OperationError :=
  match left.typeName?, right.typeName? with
  | some l, some r => .kind (make l r)
  | _, _ => .kind .errorCell

/-- The argument error that names the type of the argument found. -/
def typeFound
    (function : String)
    (expected : Expectation)
    (v : Value) : OperationError :=
  match v.typeName? with
  | some t => .arguments function expected (some (.type t))
  | none => .kind .errorCell

end GridScript
