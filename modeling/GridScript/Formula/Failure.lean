import GridScript.Formula.Expression
import GridScript.Formula.Terminal
import GridScript.Sheet.Failure
import GridScript.Text.Search

namespace GridScript.Formula

/-!
# Failures of formulas

A text may be no formula, and a formula may have no value. The failure of an
evaluation has the tag of the error that a cell with the formula would show.
-/

open GridScript.Parsing
open GridScript.Text

/-- What is wrong with a formula text. -/
inductive ParseFault where
  | empty
  | token (token : Token Terminal)
  | character (c : Char) (place : Place)
  deriving Repr, DecidableEq

/-- The first line of a text. -/
def firstLine (text : String) : String :=
  String.ofList ((splitLines text.toList).headD [])

/-- The wording of a fault. -/
def ParseFault.message : ParseFault → String
  | empty => "empty formula"
  | token t =>
      "Unexpected token Token(" ++ quoted t.kind.label ++ ", " ++ quoted t.string ++
        s!") at line {t.place.line}, column {t.place.column}."
  | character c place =>
      firstLine ("No terminal matches '" ++ String.singleton c ++
        "' in the current parser context, " ++
        s!"at line {place.line} col {place.column}")

/-- A fault with its position in the text. -/
structure ParseError where
  fault : ParseFault
  position : Nat
  deriving Repr, DecidableEq

/-- The wording of a fault with its position. -/
def ParseError.message (error : ParseError) : String :=
  "Formula parse error: " ++ error.fault.message ++
    s!" (at position {error.position})"

/-- A number of arguments that a function of formulas requires. -/
inductive Arity where
  | exactly (n : Nat)
  | atLeast (n : Nat)
  | between (low high : Nat)
  deriving Repr, DecidableEq

/-- A number of arguments is accepted. -/
def Arity.accepts (arity : Arity) (count : Nat) : Bool :=
  match arity with
  | exactly n => count == n
  | atLeast n => n ≤ count
  | between low high => low ≤ count && count ≤ high

/-- The wording of a required number of arguments. -/
def Arity.text : Arity → String
  | exactly n => s!"exactly {n} argument{pluralEnding n}"
  | atLeast n => s!"at least {n} argument{pluralEnding n}"
  | between low high => s!"{low}-{high} arguments"

/-- Why a function has no value. -/
inductive FunctionFault where
  | unknown
  /-- A wrong number of arguments; the outline names them. -/
  | arity (required : Arity) (outline : String)
  | averageOfNothing
  | absOf (v : Value)
  | roundOf
  | characterCount
  | lookup (error : OperationError)
  deriving Repr

/-- The wording of a fault of a function. -/
def FunctionFault.message (function : String) : FunctionFault → String
  | unknown => "Unknown function: " ++ quoted function
  | arity required outline => s!"{function} requires {required.text}{outline}"
  | averageOfNothing => "AVERAGE of no numbers"
  | absOf v => "ABS requires a number, got " ++ v.shown
  | roundOf => "ROUND requires numeric arguments"
  | characterCount => s!"{function} requires a non-negative character count"
  | lookup error => s!"{function}: {error.message}"

/-- The tag of a failed lookup: a bad position is a bad reference, a key
may be not available. -/
def lookupTag : OperationError → ErrorTag
  | .bounds _ => .reference
  | .notFound .. => .notAvailable
  | _ => .value

/-- The tag of a fault of a function. -/
def FunctionFault.tag : FunctionFault → ErrorTag
  | unknown => .name
  | averageOfNothing => .divisionByZero
  | lookup error => lookupTag error
  | _ => .value

/-- Why a formula has no value. -/
inductive EvalError where
  | signOf (sign : Sign) (v : Value)
  | rangeOperand (operator : Operator)
  | divisionByZero
  | operation (error : OperationError)
  | unknownReference (name : String) (available : List String)
  | unresolved (reference : Reference) (error : SheetError)
  /-- The cell at a place holds an error. -/
  | errorCell (place : String) (tag : ErrorTag)
  | function (name : String) (fault : FunctionFault)
  deriving Repr

namespace EvalError

/-- The wording of a failed evaluation. -/
def message : EvalError → String
  | signOf sign v => "Cannot apply unary " ++ quoted sign.text ++ " to " ++ v.shown
  | rangeOperand operator =>
      "A range cannot be used with operator " ++ quoted operator.sign
  | divisionByZero => "Division by zero in formula"
  | operation error => error.message
  | unknownReference name available =>
      let hint :=
        if available.isEmpty then "" else ". Available: " ++ shownNames available
      "Unknown reference: " ++ quoted name ++ hint
  | unresolved reference error =>
      "Cannot resolve " ++ reference.text ++ ": " ++ error.message
  | errorCell place tag => s!"{place} holds {tag.text}"
  | function name fault => fault.message name

/-- The tag that a cell with the formula would show. -/
def tag : EvalError → ErrorTag
  | signOf .. => .value
  | rangeOperand _ => .value
  | divisionByZero => .divisionByZero
  | operation (.computation _) => .number
  | operation _ => .value
  | unknownReference .. => .reference
  | unresolved .. => .reference
  | errorCell _ tag => tag
  | function _ fault => fault.tag

/-- The kind of a failed evaluation, as reports of errors name it. -/
def kindText : EvalError → String
  | unknownReference .. => "FormulaRefError"
  | function .. => "FormulaFunctionError"
  | _ => "FormulaEvalError"

end EvalError

/-- The errors of formulas. -/
inductive Error where
  | parse (error : ParseError)
  | evaluation (error : EvalError)
  deriving Repr

/-- The wording of an error of a formula. -/
def Error.message : Error → String
  | parse error => error.message
  | evaluation error => error.message

/-- The kind of an error of a formula, as reports of errors name it. -/
def Error.kindText : Error → String
  | parse _ => "FormulaParseError"
  | evaluation error => error.kindText

end GridScript.Formula
