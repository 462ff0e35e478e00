import GridScript.Book.Basic
import GridScript.Formula.Evaluation

namespace GridScript.Formula

/-!
# References to sheets

References without a sheet name read the current sheet; others read the sheets
of its book. A cell that holds an error fails with that error.
-/

/-- A failed access to a sheet inside a formula. -/
def unresolvedIn
    (reference : Reference)
    (result : Outcome SheetError α) : Outcome EvalError α :=
  Outcome.mapError (.unresolved reference) result

/-- The sheet that a reference reads. -/
def targetSheet
    (current : Sheet)
    (book : Option Book) : Option String → Outcome EvalError Sheet
  | none => .ok current
  | some name =>
      if name = current.name then .ok current
      else
        match book with
        | none => fail (.unknownReference name [current.name])
        | some book =>
            match book.find? name with
            | some sheet => .ok sheet
            | none => fail (.unknownReference name book.sheetNames)

/-- The value of a cell at a place. -/
def cellValue (place : String) : Cell → Evaluated
  | .error tag => fail (.errorCell place tag)
  | cell => .ok cell.toValue

/-- The answers of a sheet and, if it has one, of its book. -/
def resolverOn (current : Sheet) (book : Option Book) : Resolver
  | .cell name address => do
      let reference := Reference.cell name address
      let (row, column) ← unresolvedIn reference (Address.parse address)
      let sheet ← targetSheet current book name
      cellValue address (← unresolvedIn reference (sheet.get row column))
  | .range name start finish => do
      let reference := Reference.range name start finish
      let sheet ← targetSheet current book name
      let block ← unresolvedIn reference (Address.parseBlock start finish)
      unresolvedIn reference (sheet.checkBlock block)
      let rows ← block.rows.mapM fun (row : Nat) =>
        block.columns.mapM fun (column : Nat) => do
          cellValue (start ++ ":" ++ finish)
            (← unresolvedIn reference (sheet.get row column))
      return .array (rows.map .array)

end GridScript.Formula
