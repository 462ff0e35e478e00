import GridScript.Sheet.Naming

namespace GridScript.Sheet

/-!
# Records

A record gives values by column names. A sheet of records has the columns of all
records, in the order in which they first appear.
-/

/-- The names of some records, each once, in the order of their first places. -/
def recordNames (records : List (List (String × α))) : List String :=
  (records.flatMap fun record => record.map Prod.fst).eraseDups

/-- The sheet of some records. A name that a record lacks has an empty cell. -/
def ofRecords
    (records : List (List (String × Value)))
    (name : String) : Outcome SheetError Sheet :=
  let names := recordNames records
  let rows :=
    records.map fun record => names.map fun key => (record.lookup key).getD .null
  ofGrid (names.map Value.string :: rows) name true 0

/-- The rows as records. -/
def records (sheet : Sheet) : Outcome SheetError (List (List (String × Cell))) :=
  match sheet.columnNames with
  | none => fail .columnsNotNamed
  | some names => .ok (sheet.rows.map fun row => names.zip row)

end GridScript.Sheet
