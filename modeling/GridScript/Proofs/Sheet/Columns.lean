import GridScript.Proofs.Sheet.Reachable
import Mathlib.Data.List.Dedup

namespace GridScript.Sheet

/-!
# Columns by name

Columns are selected and removed by their names. A selection looks up the
position of each name, takes the cells there from every row and names the new
columns, and a removal selects the names that are left. Where columns have no
names, none are left: removing nothing then removes everything.
-/

/-- The columns in order, each with its name, if columns are
named, and its cells. -/
def columns (sheet : Sheet) : List (Option String × List Cell) :=
  (List.range sheet.width).map fun j =>
    (sheet.columnNames.bind (·[j]?), sheet.columnAt j)

/-- The column of a name, given the names of all columns. -/
def columnOf
    (sheet : Sheet)
    (all : List String)
    (name : String) : Option String × List Cell :=
  (some name, sheet.columnAt (all.idxOf name))

/-- The sheet of some of the named columns. -/
def selected (sheet : Sheet) (all names : List String) : Sheet where
  name := sheet.name
  rows :=
  sheet.rows.map fun row => names.map fun name => row.getD (all.idxOf name) .empty
  width := names.length
  columnNames := some names
  columnIndex := some names.zipIdx
  rowIndex := none

/-- A row that the sheet has can be read. -/
theorem row_eq_ok
    {sheet : Sheet}
    {i : Nat}
    {row : List Cell}
    (held : sheet.rows[i]? = some row) :
    sheet.row i = .ok row := by
  have inRange : i < sheet.rowCount := (List.getElem?_eq_some_iff.mp held).1
  simp only [Sheet.row, checkRow, position?_of_lt inRange]
  show Except.ok (sheet.rows.getD i []) = _
  rw [List.getD_eq_getElem?_getD, held, Option.getD_some]

/-- The cell of a row in a column that is found by its name can be read. -/
theorem getByName_eq_ok
    {sheet : Sheet}
    {column : String}
    {i j : Nat}
    {row : List Cell}
    (found : sheet.columnPosition column = .ok j)
    (inWidth : j < sheet.width)
    (held : sheet.rows[i]? = some row) :
    sheet.getByName i column = .ok (row.getD j .empty) := by
  have inRange : i < sheet.rowCount := (List.getElem?_eq_some_iff.mp held).1
  have checked : sheet.checkCell i j = .ok (i, j) := by
    simp only [checkCell, position?_of_lt inRange, position?_of_lt inWidth]
  have isRow : sheet.rows.getD i [] = row := by
    rw [List.getD_eq_getElem?_getD, held, Option.getD_some]
  rw [getByName, found]
  show sheet.get i j = _
  rw [get, checked]
  show Except.ok (sheet.cellAt i j) = _
  rw [cellAt, isRow]

/-- Names with positions can be selected if they differ. -/
theorem selectColumns_of_positions
    {sheet : Sheet}
    {all names : List String}
    (positions : names.mapM sheet.columnPosition = .ok (names.map all.idxOf))
    (nodup : names.Nodup) :
    sheet.selectColumns names = .ok (sheet.selected all names) := by
  let rows :=
    sheet.rows.map fun row => (names.map all.idxOf).map fun j => row.getD j .empty
  have width : (Sheet.ofCells rows sheet.name names.length).width = names.length :=
    (WellFormed.ofCells (by simp [rows]) sheet.name).2
  have named := withColumnNames_of_nodup nodup width.symm
  unfold selectColumns
  rw [positions]
  show (Sheet.ofCells rows sheet.name (names.map all.idxOf).length).withColumnNames
    names = _
  rw [List.length_map, named, Except.ok.injEq]
  simp only [storeColumns, selected, Sheet.mk.injEq, width, true_and]
  exact ⟨rfl, by simp [Sheet.ofCells, rows], rfl⟩

/-- A selection has all rows. -/
theorem rowCount_selected (sheet : Sheet) (all names : List String) :
    (sheet.selected all names).rowCount = sheet.rowCount := by
  simp [selected, rowCount]

/-- Where no column has a name, no name can be removed, and removing
none leaves no column. -/
theorem removeColumns_unnamed
    {sheet result : Sheet}
    {names : List String}
    (unnamed : sheet.columnNames = none)
    (unindexed : sheet.columnIndex = none)
    (removed : sheet.removeColumns names = .ok result) :
    names = [] ∧ result = sheet.selected [] [] := by
  cases names with
  | cons name rest =>
      obtain ⟨positions, found, -⟩ := Except.bind_eq_ok removed
      obtain ⟨j, position⟩ := Except.ok_of_mapM found name List.mem_cons_self
      rw [columnPosition, unindexed] at position
      cases position
  | nil =>
      have selects : sheet.removeColumns [] = sheet.selectColumns [] := by
        simp only [removeColumns, unnamed]
        rfl
      rw [selects, @selectColumns_of_positions sheet [] [] rfl List.nodup_nil]
        at removed
      exact ⟨rfl, (Except.ok.inj removed).symm⟩

namespace WellFormed

variable {sheet : Sheet} {all names : List String}
variable (wellFormed : sheet.WellFormed) (held : sheet.columnNames = some all)

include wellFormed held

/-- A name of a column is found at its position. -/
theorem columnPosition_of_mem
    {name : String}
    (member : name ∈ all) :
    sheet.columnPosition name = .ok (all.idxOf name) := by
  have inRange := List.idxOf_lt_length_of_mem member
  have found := wellFormed.consistent.columnPosition all held _ inRange
  rwa [List.getElem_idxOf] at found

/-- Names of columns are found at their positions. -/
theorem positions_eq (subset : names ⊆ all) :
    names.mapM sheet.columnPosition = .ok (names.map all.idxOf) :=
  Except.mapM_of_forall_ok fun _ member =>
    wellFormed.columnPosition_of_mem held (subset member)

/-- Only names of columns are found. -/
theorem mem_of_columnPosition
    {name : String}
    {j : Nat}
    (found : sheet.columnPosition name = .ok j) :
    name ∈ all := by
  obtain ⟨-, -, stored⟩ := wellFormed.columnNames_eq held
  simp only [columnPosition, stored] at found
  cases looked : all.zipIdx.lookup name with
  | none =>
      rw [looked] at found
      cases found
  | some position =>
      exact (List.mem_zipIdx (mem_of_lookup looked)).2.2 ▸ List.getElem_mem _

/-- Columns with names are the columns of those names. -/
theorem columns_eq : sheet.columns = all.map (sheet.columnOf all) := by
  obtain ⟨length, nodup, -⟩ := wellFormed.columnNames_eq held
  refine List.ext_getElem (by simp [Sheet.columns, length]) fun j _ inNames => ?_
  have inRange : j < all.length := by simpa using inNames
  simp [Sheet.columns, columnOf, held, nodup.idxOf_getElem, inRange]

/-- Different names of columns can be selected. -/
theorem selectColumns_eq
    (nodup : names.Nodup)
    (subset : names ⊆ all) :
    sheet.selectColumns names = .ok (sheet.selected all names) :=
  selectColumns_of_positions (wellFormed.positions_eq held subset) nodup

/-- The columns of a selection are those of the names. -/
theorem columns_selected
    (nodup : names.Nodup)
    (subset : names ⊆ all) :
    (sheet.selected all names).columns = names.map (sheet.columnOf all) := by
  have isWellFormed : (sheet.selected all names).WellFormed :=
    selectColumns (wellFormed.selectColumns_eq held nodup subset)
  rw [isWellFormed.columns_eq rfl]
  refine List.map_congr_left fun name member => ?_
  have inRange := List.idxOf_lt_length_of_mem member
  simp [columnOf, columnAt, selected, inRange]

/-- The names that are left when some names are removed. -/
theorem names_left :
    ((all.zipIdx.filter fun column => !(names.map all.idxOf).contains column.2).map
      Prod.fst)
      = all.filter fun name => !names.contains name := by
  obtain ⟨-, nodup, -⟩ := wellFormed.columnNames_eq held
  have same : ∀ column ∈ all.zipIdx,
      (!(names.map all.idxOf).contains column.2) = !names.contains column.1 := by
    rintro ⟨name, j⟩ member
    obtain ⟨-, inRange, isName⟩ := List.mem_zipIdx member
    simp only [Nat.zero_add, Nat.sub_zero] at inRange isName
    -- The position is that of a removed name exactly if its own name is removed.
    have removed : j ∈ names.map all.idxOf ↔ name ∈ names := by
      rw [List.mem_map, isName]
      constructor
      · rintro ⟨other, isRemoved, rfl⟩
        rwa [List.getElem_idxOf]
      · intro isRemoved
        exact ⟨_, isRemoved, nodup.idxOf_getElem j inRange⟩
    simp only [List.contains_eq_mem, removed]
  have passes : (fun column : String × Nat => !names.contains column.1)
      = (fun name => !names.contains name) ∘ Prod.fst := rfl
  rw [List.filter_congr same, passes, ← List.filter_map, List.zipIdx_map_fst]

/-- Names of columns can be removed, and the other columns are left. -/
theorem removeColumns_eq (subset : names ⊆ all) :
    sheet.removeColumns names
      = .ok (sheet.selected all (all.filter fun name => !names.contains name)) := by
  obtain ⟨-, nodup, -⟩ := wellFormed.columnNames_eq held
  unfold Sheet.removeColumns
  rw [wellFormed.positions_eq held subset, held]
  show sheet.selectColumns ((all.zipIdx.filter fun column =>
    !(names.map all.idxOf).contains column.2).map Prod.fst) = _
  rw [wellFormed.names_left held]
  exact wellFormed.selectColumns_eq held (nodup.filter _)
    (List.filter_subset_self _)

/-- Nothing but names of columns can be removed. -/
theorem subset_of_removeColumns
    {result : Sheet}
    (removed : sheet.removeColumns names = .ok result) :
    names ⊆ all := by
  obtain ⟨positions, found, -⟩ := Except.bind_eq_ok removed
  intro name member
  obtain ⟨j, position⟩ := Except.ok_of_mapM found name member
  exact wellFormed.mem_of_columnPosition held position

/-- All names select all cells. -/
theorem rows_selected_all : (sheet.selected all all).rows = sheet.rows := by
  obtain ⟨length, nodup, -⟩ := wellFormed.columnNames_eq held
  have cells : ∀ row ∈ sheet.rows,
      (all.map fun name => row.getD (all.idxOf name) .empty) = row := by
    intro row member
    have rowLength := (wellFormed.rectangular row member).trans length.symm
    refine List.ext_getElem (by simp [rowLength]) fun j inNames inRow => ?_
    have inRange : j < all.length := by simpa using inNames
    simp [nodup.idxOf_getElem, inRow]
  simp only [selected, List.map_congr_left cells, List.map_id']

end WellFormed

/-- The names that are left and the different names that are
removed are all names. -/
theorem length_left_add
    {all names : List String}
    (nodup : all.Nodup)
    (subset : names ⊆ all) :
    (all.filter fun name => !names.contains name).length + names.dedup.length =
      all.length := by
  have removed :
      (all.filter fun name => names.contains name).length = names.dedup.length := by
    refine List.Perm.length_eq ?_
    rw [List.perm_ext_iff_of_nodup (nodup.filter _) names.nodup_dedup]
    intro name
    simp only [List.mem_filter, List.contains_eq_mem, decide_eq_true_eq,
      List.mem_dedup]
    exact ⟨And.right, fun member => ⟨subset member, member⟩⟩
  rw [← removed, Nat.add_comm, ← List.length_eq_length_filter_add]

/-- Exactly the columns with the given names are missing, and nothing is
if no name is given. -/
structure Removes
    (sheet : Sheet)
    (names : List String)
    (result : Sheet) : Prop where
  columns :
    result.columns = sheet.columns.filter fun column =>
      column.1.all fun name => !names.contains name
  width : result.width + names.dedup.length = sheet.width
  unchanged : names = [] → result.rows = sheet.rows

/-- Names of columns are removed with their columns. -/
theorem WellFormed.removes
    {sheet result : Sheet}
    {all names : List String}
    (wellFormed : sheet.WellFormed)
    (held : sheet.columnNames = some all)
    (removed : sheet.removeColumns names = .ok result) :
    result.rowCount = sheet.rowCount ∧ sheet.Removes names result := by
  obtain ⟨length, nodup, -⟩ := wellFormed.columnNames_eq held
  have subset := wellFormed.subset_of_removeColumns held removed
  rw [wellFormed.removeColumns_eq held subset, Except.ok.injEq] at removed
  subst removed
  refine ⟨rowCount_selected .., ?_, ?_, ?_⟩
  · rw [wellFormed.columns_selected held (nodup.filter _)
        (List.filter_subset_self _),
      wellFormed.columns_eq held, List.filter_map]
    rfl
  · rw [← length]
    exact length_left_add nodup subset
  · rintro rfl
    simpa using wellFormed.rows_selected_all held

/-- Removing nothing from columns without names leaves none, and nothing
else can be removed. -/
theorem WellFormed.removes_unnamed
    {sheet result : Sheet}
    {names : List String}
    (wellFormed : sheet.WellFormed)
    (unnamed : sheet.columnNames = none)
    (removed : sheet.removeColumns names = .ok result) :
    result.rowCount = sheet.rowCount ∧
      (sheet.Removes names result ↔ sheet.width = 0) := by
  have unindexed : sheet.columnIndex = none := by
    have columns := wellFormed.columns
    rw [unnamed] at columns
    cases index : sheet.columnIndex with
    | none =>
        rfl
    | some positions =>
        rw [index] at columns
        cases columns
  obtain ⟨rfl, rfl⟩ := removeColumns_unnamed unnamed unindexed removed
  refine ⟨rowCount_selected .., fun removes => removes.width.symm,
    fun noColumns => ?_⟩
  refine ⟨by simp [Sheet.columns, selected, noColumns],
    by simp [selected, noColumns], fun _ => ?_⟩
  have cells : ∀ row ∈ sheet.rows, ([] : List Cell) = row := fun row member =>
    (List.length_eq_zero_iff.mp
      ((wellFormed.rectangular row member).trans noColumns)).symm
  simp only [selected, List.map_nil, List.map_congr_left cells, List.map_id']

/-- In every sheet that can be made: a removal keeps the rows and takes away
exactly the named columns, provided that columns have names or there are none.
Of a sheet with column names exactly those can be removed, any different ones
can be selected in any order, and all of them select the whole sheet. -/
theorem columns_by_name
    {sheet : Sheet}
    (reachable : sheet.Reachable) :
    (∀ names result, sheet.removeColumns names = .ok result →
      result.rowCount = sheet.rowCount ∧
        (sheet.Removes names result ↔ sheet.columnNames.isSome ∨ sheet.width = 0)) ∧
    ∀ all, sheet.columnNames = some all →
      (∀ names, (∃ result, sheet.removeColumns names = .ok result) ↔ names ⊆ all) ∧
      (∀ names : List String, names.Nodup → names ⊆ all →
        ∃ result, sheet.selectColumns names = .ok result ∧
          result.rowCount = sheet.rowCount ∧
          result.columns =
            names.map fun name => (some name, sheet.columnAt (all.idxOf name))) ∧
      ∃ result, sheet.selectColumns all = .ok result ∧
        result.columnNames = sheet.columnNames ∧ result.rows = sheet.rows := by
  have wellFormed := reachable.wellFormed
  refine ⟨fun names result removed => ?_, fun all held => ⟨fun names => ?_, ?_, ?_⟩⟩
  · cases held : sheet.columnNames with
    | none =>
        simpa using wellFormed.removes_unnamed held removed
    | some all =>
        have removes := wellFormed.removes held removed
        exact ⟨removes.1, fun _ => .inl rfl, fun _ => removes.2⟩
  · exact ⟨fun ⟨result, removed⟩ => wellFormed.subset_of_removeColumns held removed,
      fun subset => ⟨_, wellFormed.removeColumns_eq held subset⟩⟩
  · intro names nodup subset
    exact ⟨_, wellFormed.selectColumns_eq held nodup subset, rowCount_selected ..,
      wellFormed.columns_selected held nodup subset⟩
  · obtain ⟨-, nodup, -⟩ := wellFormed.columnNames_eq held
    exact ⟨_, wellFormed.selectColumns_eq held nodup (List.Subset.refl all),
      held.symm, wellFormed.rows_selected_all held⟩

/-- One of the two columns of a sheet is removed, though its name is given twice. -/
theorem columns_by_name_people :
    peopleSheet.Reachable ∧
      ∃ result, peopleSheet.removeColumns ["born", "born"] = .ok result ∧
        peopleSheet.Removes ["born", "born"] result := by
  have reachable : peopleSheet.Reachable := .ofRecords people "people" rfl
  obtain ⟨removes, selects⟩ := columns_by_name reachable
  obtain ⟨result, removed⟩ := ((selects _ rfl).1 ["born", "born"]).mpr (by decide)
  exact ⟨reachable, result, removed, (removes _ _ removed).2.mpr (.inl rfl)⟩

/-- Two cells without column names. -/
def plainPair : Sheet :=
  ⟨"Data", [[.text "a", .text "b"]], 2, none, none, none⟩

/-- Removing no column takes away both cells. -/
theorem removing_nothing_empties :
    ofGrid [[.string "a", .string "b"]] "Data" false 0 = .ok plainPair ∧
      plainPair.removeColumns [] = .ok ⟨"Data", [[]], 0, some [], some [], none⟩ :=
  ⟨rfl, rfl⟩

end GridScript.Sheet
