import GridScript.Proofs.Sheet.Invariant

namespace GridScript.Sheet

/-!
# Edits of sheets

A sheet starts empty, from a grid or from records, and edits change it in place.
Whatever they are and however they end, what the sheet answers agrees
throughout, and an edit that fails has changed nothing.
-/

/-!
## Sheets that edits reach

A sheet starts empty, from a grid or from records. Edits change it in place,
whether they succeed or fail, and other sheets are derived from it. What such a
sheet answers about its rows, its columns and their names agrees throughout.
-/

/-- An edit of a sheet in place. -/
inductive Edit where
  | set (row column : Int) (v : Value)
  | setAddress (address : String) (v : Value)
  | setByName (row : Int) (name : String) (v : Value)
  | nameColumnsByRow (index : Int)
  | setColumnNames (names : List String)
  | nameRowsByColumn (index : Int)
  | appendRow (values : List Value)
  | insertRow (index : Int) (values : List Value)
  | deleteRow (index : Int)
  | appendColumn (values : List Value) (name : Option String)
  | deleteColumn (index : Int)
  | removeEmptyRows

/-- The sheet that an edit leaves behind, whether it succeeds or fails. -/
def edited (sheet : Sheet) : Edit → Sheet
  | .set row column v => (set row column v sheet).state
  | .setAddress address v => (setAddress address v sheet).state
  | .setByName row name v => (setByName row name v sheet).state
  | .nameColumnsByRow index => (nameColumnsByRow index sheet).state
  | .setColumnNames names => (setColumnNames names sheet).state
  | .nameRowsByColumn index => (nameRowsByColumn index sheet).state
  | .appendRow values => (appendRow values sheet).state
  | .insertRow index values => (insertRow index values sheet).state
  | .deleteRow index => (deleteRow index sheet).state
  | .appendColumn values name => (appendColumn values name sheet).state
  | .deleteColumn index => (deleteColumn index sheet).state
  | .removeEmptyRows => (removeEmptyRows sheet).state

/-- The sheets that can be made by reading, editing and deriving sheets. -/
inductive Reachable : Sheet → Prop where
  | empty (name : String) : Reachable (Sheet.empty name)
  | ofGrid
      {sheet : Sheet}
      (grid : List (List Value))
      (name : String)
      (header : Bool)
      (columns : Nat)
      (made : ofGrid grid name header columns = .ok sheet) :
      Reachable sheet
  | ofRecords
      {sheet : Sheet}
      (records : List (List (String × Value)))
      (name : String)
      (made : ofRecords records name = .ok sheet) :
      Reachable sheet
  | edit
      {sheet : Sheet}
      (reachable : Reachable sheet)
      (edit : Edit) :
      Reachable (sheet.edited edit)
  | append
      {sheet other : Sheet}
      (reachable : Reachable sheet)
      (otherReachable : Reachable other) :
      Reachable (append other sheet).state
  | copy
      {sheet : Sheet}
      (reachable : Reachable sheet)
      (name : String) :
      Reachable (sheet.rename name)
  | transpose
      {sheet : Sheet}
      (reachable : Reachable sheet) :
      Reachable sheet.transpose
  | selectColumns
      {sheet result : Sheet}
      (reachable : Reachable sheet)
      (names : List String)
      (made : sheet.selectColumns names = .ok result) :
      Reachable result
  | removeColumns
      {sheet result : Sheet}
      (reachable : Reachable sheet)
      (names : List String)
      (made : sheet.removeColumns names = .ok result) :
      Reachable result
  | join
      {left right result : Sheet}
      (leftReachable : Reachable left)
      (rightReachable : Reachable right)
      (leftOn rightOn : String)
      (kind : JoinKind)
      (made : left.join right leftOn rightOn kind = .ok result) :
      Reachable result

/-- No edit breaks a well-formed sheet. -/
theorem WellFormed.edited
    {sheet : Sheet}
    (wellFormed : sheet.WellFormed)
    (edit : Edit) :
    (sheet.edited edit).WellFormed := by
  cases edit with
  | set row column v =>
      exact wellFormed.set row column v
  | setAddress address v =>
      exact wellFormed.setAddress address v
  | setByName row name v =>
      exact wellFormed.setByName row name v
  | nameColumnsByRow index =>
      exact wellFormed.nameColumnsByRow index
  | setColumnNames names =>
      exact wellFormed.setColumnNames names
  | nameRowsByColumn index =>
      exact wellFormed.nameRowsByColumn index
  | appendRow values =>
      exact wellFormed.appendRow values
  | insertRow index values =>
      exact wellFormed.insertRow index values
  | deleteRow index =>
      exact wellFormed.deleteRow index
  | appendColumn values name =>
      exact wellFormed.appendColumn values name
  | deleteColumn index =>
      exact wellFormed.deleteColumn index
  | removeEmptyRows =>
      exact wellFormed.removeEmptyRows

theorem Reachable.wellFormed
    {sheet : Sheet}
    (reachable : sheet.Reachable) :
    sheet.WellFormed := by
  induction reachable with
  | empty name =>
      exact .empty name
  | ofGrid grid name header columns made =>
      exact .ofGrid made
  | ofRecords records name made =>
      exact .ofRecords made
  | edit _ edit wellFormed =>
      exact wellFormed.edited edit
  | append _ _ wellFormed otherWellFormed =>
      exact wellFormed.append otherWellFormed
  | copy _ name wellFormed =>
      exact wellFormed.rename name
  | transpose _ _ =>
      exact .transpose
  | selectColumns _ names made _ =>
      exact .selectColumns made
  | removeColumns _ names made _ =>
      exact .removeColumns made
  | join _ _ leftOn rightOn kind made _ _ =>
      exact .join made

/-- What a sheet answers about its rows, its columns and their names agrees. -/
structure Consistent (sheet : Sheet) : Prop where
  rectangular : ∀ row ∈ sheet.rows, row.length = sheet.width
  columnCount : ∀ names, sheet.columnNames = some names → names.length = sheet.width
  columnsDiffer : ∀ names, sheet.columnNames = some names → names.Nodup
  columnPosition :
    ∀ names,
      sheet.columnNames = some names →
        ∀ (i : Nat) (inRange : i < names.length),
          sheet.columnPosition names[i] = .ok i
  rowPosition :
    ∀ names,
      sheet.rowNames = some names →
        ∀ name ∈ names, ∃ i < sheet.rowCount, sheet.rowPosition name = .ok i
  rowsDiffer :
    ∀ first second i,
      sheet.rowPosition first = .ok i → sheet.rowPosition second = .ok i →
        first = second

theorem rowPosition_eq_ok
    {sheet : Sheet}
    {name : String}
    {i : Nat} :
    sheet.rowPosition name = .ok i ↔
      ∃ index, sheet.rowIndex = some index ∧ index.lookup name = some i := by
  unfold rowPosition
  cases sheet.rowIndex with
  | none =>
      simp [fail]
  | some index =>
      cases found : index.lookup name with
      | none =>
          simp [fail, found]
      | some position =>
          simp [found]

/-- The names of the rows are the names in the index, in another order. -/
theorem mem_rowNames
    {sheet : Sheet}
    {names : List String}
    (held : sheet.rowNames = some names)
    {name : String}
    (member : name ∈ names) :
    ∃ index i, sheet.rowIndex = some index ∧ index.lookup name = some i := by
  obtain ⟨index, isIndex, rfl⟩ := Option.map_eq_some_iff.mp held
  obtain ⟨entry, sorted, rfl⟩ := List.mem_map.mp member
  have inIndex : entry.1 ∈ NameIndex.names index :=
    List.mem_map.mpr ⟨entry, List.mem_mergeSort.mp sorted, rfl⟩
  obtain ⟨i, found⟩ := Option.isSome_iff_exists.mp (NameIndex.has_iff.mpr inIndex)
  exact ⟨index, i, isIndex, found⟩

theorem WellFormed.consistent
    {sheet : Sheet}
    (wellFormed : sheet.WellFormed) :
    sheet.Consistent where
  rectangular := wellFormed.rectangular
  columnCount names held := (wellFormed.columnNames_eq held).1
  columnsDiffer names held := (wellFormed.columnNames_eq held).2.1
  columnPosition names held i inRange := by
    obtain ⟨_, nodup, stored⟩ := wellFormed.columnNames_eq held
    unfold Sheet.columnPosition
    rw [stored]
    simp [lookup_zipIdx nodup inRange 0]
  rowPosition names held name member := by
    obtain ⟨index, i, isIndex, found⟩ := mem_rowNames held member
    exact ⟨i, (wellFormed.rows index isIndex).lookup_lt found,
      rowPosition_eq_ok.mpr ⟨index, isIndex, found⟩⟩
  rowsDiffer first second i firstFound secondFound := by
    obtain ⟨index, isIndex, firstLooked⟩ := rowPosition_eq_ok.mp firstFound
    obtain ⟨other, isOther, secondLooked⟩ := rowPosition_eq_ok.mp secondFound
    rw [isIndex] at isOther
    cases isOther
    exact (wellFormed.rows index isIndex).lookup_injective firstLooked secondLooked

/--
Every sheet that can be made is consistent, whatever edits were made of it and
of the sheets that it was made from, and whether they succeeded or failed.
-/
theorem consistent_of_reachable
    {sheet : Sheet}
    (reachable : sheet.Reachable) :
    sheet.Consistent :=
  reachable.wellFormed.consistent

/-- Two records. -/
def people : List (List (String × Value)) :=
  [[("name", .string "ada"), ("born", .string "1815")],
    [("name", .string "emmy"), ("born", .string "1882")]]

/-- The sheet of the two records. -/
def peopleSheet : Sheet :=
  { name := "people"
    rows := [[.text "ada", .text "1815"], [.text "emmy", .text "1882"]]
    width := 2
    columnNames := some ["name", "born"]
    columnIndex := some [("name", 0), ("born", 1)]
    rowIndex := none }

/-- The sheet stays consistent when its rows are named and a row is deleted
that it does not have. -/
theorem consistent_of_reachable_people :
    ofRecords people "people" = .ok peopleSheet ∧
      ((peopleSheet.edited (.nameRowsByColumn 0)).edited (.deleteRow 7)).rowPosition
          "emmy" =
        .ok 1 ∧
      ((peopleSheet.edited (.nameRowsByColumn 0)).edited
        (.deleteRow 7)).Consistent := by
  have made : ofRecords people "people" = .ok peopleSheet := rfl
  have reachable : peopleSheet.Reachable := .ofRecords people "people" made
  exact ⟨made, rfl, consistent_of_reachable ((reachable.edit _).edit _)⟩

/-!
## Failed edits leave sheets alone

An edit that fails has changed nothing: neither the cells nor the width, and
neither the names of columns and rows nor their positions. So edits can be made
in place, without a copy to go back to.
-/

/-- A change of a sheet in place: an edit, or the rows of another
sheet stacked below. -/
inductive Operation where
  | edit (made : Edit)
  | append (other : Sheet)

/-- The change that an edit makes, without its result. -/
def Edit.change : Edit → SheetChange Unit
  | .set row column v => Sheet.set row column v
  | .setAddress address v => Sheet.setAddress address v
  | .setByName row name v => Sheet.setByName row name v
  | .nameColumnsByRow index => Sheet.nameColumnsByRow index
  | .setColumnNames names => Sheet.setColumnNames names
  | .nameRowsByColumn index => Sheet.nameRowsByColumn index
  | .appendRow values => Sheet.appendRow values
  | .insertRow index values => Sheet.insertRow index values
  | .deleteRow index => do let _ ← Sheet.deleteRow index
  | .appendColumn values name => Sheet.appendColumn values name
  | .deleteColumn index => do let _ ← Sheet.deleteColumn index
  | .removeEmptyRows => do let _ ← Sheet.removeEmptyRows

/-- The change that an operation makes, without its result. -/
def Operation.change : Operation → SheetChange Unit
  | .edit made => made.change
  | .append other => Sheet.append other

/-- An action that commits still does when its result is dropped. -/
theorem commits_dropped
    {action : SheetChange α}
    {sheet : Sheet}
    {post : α → Sheet → Prop}
    (commits : Commits action sheet post) :
    Commits (do let _ ← action : SheetChange Unit) sheet fun _ _ => True :=
  commits.write fun _ _ _ => .pure trivial

/-- An edit that fails has changed nothing. -/
theorem Edit.unchanged
    {sheet after : Sheet}
    {failure : Failure SheetError}
    (edit : Edit)
    (failed : edit.change sheet = .error failure after) :
    after = sheet := by
  cases edit with
  | set row column v =>
      exact (set_commits row column v sheet).unchanged failed
  | setAddress address v =>
      exact (setAddress_commits address v sheet).unchanged failed
  | setByName row name v =>
      exact (setByName_commits row name v sheet).unchanged failed
  | nameColumnsByRow index =>
      exact (nameColumnsByRow_commits index sheet).unchanged failed
  | setColumnNames names =>
      exact (setColumnNames_commits names sheet).unchanged failed
  | nameRowsByColumn index =>
      exact (nameRowsByColumn_commits index sheet).unchanged failed
  | appendRow values =>
      exact (appendRow_commits values sheet).unchanged failed
  | insertRow index values =>
      exact (insertRow_commits index values sheet).unchanged failed
  | deleteRow index =>
      exact (commits_dropped (deleteRow_commits index sheet)).unchanged failed
  | appendColumn values name =>
      exact (appendColumn_commits values name sheet).unchanged failed
  | deleteColumn index =>
      exact (commits_dropped (deleteColumn_commits index sheet)).unchanged failed
  | removeEmptyRows =>
      exact (commits_dropped (removeEmptyRows_commits sheet)).unchanged failed

/--
An operation that fails leaves the sheet exactly as it was.

This holds for every sheet and all arguments: whatever an operation checks, it
checks before its first change.
-/
theorem failed_operation_keeps_sheet
    {sheet after : Sheet}
    {failure : Failure SheetError}
    (operation : Operation)
    (failed : operation.change sheet = .error failure after) :
    after = sheet := by
  cases operation with
  | edit made =>
      exact made.unchanged failed
  | append other =>
      exact (append_commits other sheet).unchanged failed

/-- A sheet with a column that the sheet of people does not have. -/
def addressSheet : Sheet :=
  { name := "addresses"
    rows := [[.text "ada", .text "London"]]
    width := 2
    columnNames := some ["name", "city"]
    columnIndex := some [("name", 0), ("city", 1)]
    rowIndex := none }

/-- The names of rows survive a sheet that cannot be stacked for
its second column. -/
theorem failed_operation_keeps_sheet_people :
    ∃ after,
      (Operation.append addressSheet).change
          (peopleSheet.edited (.nameRowsByColumn 0)) =
        .error (.error (.columnNotFound "city")) after ∧
      after = peopleSheet.edited (.nameRowsByColumn 0) ∧
      after.rowPosition "emmy" = .ok 1 := by
  have failed :
      (Operation.append addressSheet).change
          (peopleSheet.edited (.nameRowsByColumn 0)) =
        .error (.error (.columnNotFound "city"))
          (peopleSheet.edited (.nameRowsByColumn 0)) := rfl
  exact ⟨_, failed, failed_operation_keeps_sheet _ failed, rfl⟩

end GridScript.Sheet
