import GridScript.Format.Code
import GridScript.Formula.SheetReference
import GridScript.Script.Builtin.Catalogue
import GridScript.Script.Host

namespace GridScript.Script

/-!
# Core functions

Output, inspection of values, ranges, formats and formulas. None of
them changes the book.
-/

/-- The greatest number of elements of a range. -/
def maxRangeLength : Nat := 10000000

/-- The number of integers from `start` up or down to `stop`, which is left out. -/
def rangeLength (start stop step : Int) : Nat :=
  if step > 0 then
    if start < stop then (stop - start - 1).toNat / step.toNat + 1 else 0
  else if stop < start then (start - stop - 1).toNat / (-step).toNat + 1
  else 0

/-- The integers of a range. -/
def rangeItems (start stop step : Int) : List Value :=
  (List.range (rangeLength start stop step)).map fun (i : Nat) =>
    Value.int (start + (i : Int) * step)

/-- The bounds and the step of a range. -/
def rangeBounds : List Int → Int × Int × Int
  | [stop] => (0, stop, 1)
  | [start, stop] => (start, stop, 1)
  | start :: stop :: step :: _ => (start, stop, step)
  | [] => (0, 0, 1)

/-- The array of a range. -/
def makeRange (arguments : List Value) : Outcome OperationError Value := do
  checkArity "range" (.between 1 3) arguments
  let bounds ← arguments.mapM fun v => intArgument "range" v "bound"
  let (start, stop, step) := rangeBounds bounds
  if step = 0 then fail (.arguments "range" .nonzeroStep none)
  else
    let length := rangeLength start stop step
    if length > maxInt then breach .overflow
    else if length > maxRangeLength then
      fail (.arguments "range" (.rangeLength maxRangeLength) none)
    else return .array (rangeItems start stop step)

/-- The number of characters, items or rows of a value. -/
def lengthOf (book : Book) (v : Value) : Attempt Value :=
  match v with
  | .string s => .ok (.int s.length)
  | .array items => .ok (.int items.length)
  | .sheet ref => do
      let sheet ← onSheet (book.resolve ref)
      return .int sheet.rowCount
  | v => fail (.operation (typeFound "len" .sized v))

/-- The indices of an array, or the column names of a sheet. -/
def keysOf (book : Book) (v : Value) : Attempt Value := do
  match v with
  | .array items =>
      return .array
        ((List.range items.length).map fun (i : Nat) => Value.int (i : Int))
  | .sheet _ | .string _ =>
      let sheet ← resolveSheet book "keys" v
      match sheet.columnNames with
      | some names => return arrayOfTexts names
      | none => fail (.sheet .columnsNotNamed)
  | v => fail (.operation (typeFound "keys" .arrayOrSheet v))

/-- An array itself, or the rows of a sheet. -/
def valuesOf (book : Book) (v : Value) : Attempt Value := do
  match v with
  | .array items => return .array items
  | .sheet _ | .string _ =>
      let sheet ← resolveSheet book "values" v
      return arrayOfRows sheet.rows
  | v => fail (.operation (typeFound "values" .arrayOrSheet v))

/-- The value of a formula, against a sheet of the book if one is given. -/
def evaluateFormula
    (text : String)
    (sheet : Option Sheet)
    (book : Book) : Attempt Value :=
  let resolver := sheet.map fun current => Formula.resolverOn current (some book)
  Outcome.mapError .formula (Formula.evaluate [] resolver text)

/-- The value of a formula text, and of a sheet if a second argument names one. -/
def callFormula (book : Book) (arguments : List Value) : Attempt Value := do
  operation (checkArity "eval_formula" (.between 1 2) arguments)
  let text ← operation
    (stringArgument "eval_formula" (argument arguments 0) "formula")
  let sheet ←
    match arguments[1]? with
    | some v => (resolveSheet book "eval_formula" v).map some
    | none => pure none
  evaluateFormula text sheet book

/-- The event that a capability is not available. -/
def unsupportedEvent (site : CallSite) (feature : String) : Log.Event :=
  Log.event .warning .unsupportedFeature (some site.run)
    s!"{feature}() is not supported"
    [("feature", .string feature), ("line", .int site.line)]
    (some "unsupported_feature")

/-- A core function applied to its arguments. -/
def callCore (function : CoreFunction) (site : CallSite) (arguments : List Value) :
    HostChange Value := do
  let book ← Change.look Host.book
  let first := argument arguments 0
  match function with
  | .print =>
      modify (·.print (" ".intercalate (arguments.map Value.display) ++ "\n"))
      return .null
  | .length =>
      operation (checkArity "len" (.exactly 1) arguments)
      lengthOf book first
  | .typeOf =>
      operation (checkArity "type" (.exactly 1) arguments)
      match first.typeName? with
      | some type => return .string type.text
      | none => Change.stop (.operation (.kind .errorCell))
  | .isNull =>
      operation (checkArity "isnull" (.exactly 1) arguments)
      return .bool (first.typeName? == some .null)
  | .isArray =>
      operation (checkArity "isarray" (.exactly 1) arguments)
      return .bool first.isArray
  | .keys =>
      operation (checkArity "keys" (.exactly 1) arguments)
      keysOf book first
  | .values =>
      operation (checkArity "values" (.exactly 1) arguments)
      valuesOf book first
  | .range => operation (makeRange arguments)
  | .format =>
      operation (checkArity "format" (.exactly 2) arguments)
      let code ← operation
        (stringArgument "format" (argument arguments 1) "format code")
      return .string (Format.formatValue first code)
  | .evalFormula => callFormula book arguments
  | .unsupported feature =>
      leaveEvent (unsupportedEvent site feature)
      Change.stop (.unsupported feature)

end GridScript.Script
