import GridScript.Book.Basic

namespace GridScript.Book

/-!
# Consolidation

All sheets of a book stacked into one new sheet. If the first sheet has column
names, the new sheet has them, and other sheets with column names are aligned by
name; otherwise all sheets have the width of the first.
-/

/-- The sheet onto which the sheets are stacked. -/
def stackBase (name : String) (first : Sheet) : Outcome SheetError Sheet :=
  match first.columnNames with
  | some names => Sheet.ofGrid [names.map .string] name true 0
  | none => .ok (Sheet.empty name)

/-- Stack one more sheet. -/
def stackOne (first sheet : Sheet) : SheetChange Unit := do
  Change.require (first.columnNames = none → sheet.width = first.width)
    (.columnCount first.width sheet.width)
  Sheet.append sheet

/-- All sheets stacked into one, in order. -/
def consolidate (book : Book) (name : String) : Outcome SheetError Sheet :=
  match book.sheets with
  | [] => .ok (Sheet.empty name)
  | first :: rest => do
      let base ← stackBase name first
      Change.made base ((first :: rest).forM (stackOne first))

end GridScript.Book
