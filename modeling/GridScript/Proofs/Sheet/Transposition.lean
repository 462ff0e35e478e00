import GridScript.Proofs.Sheet.Blocks
import GridScript.Proofs.Sheet.Reachable
import GridScript.Sheet.Derive

namespace GridScript.Sheet

/-!
# Transposition

The width of a sheet is stored beside its rows, so a sheet without rows or
without columns has a shape that its rows alone do not show. Transposing swaps
rows and columns of every shape, and doing it twice gives the sheet back without
its names; the names of columns become its first row.
-/

variable {sheet : Sheet} {names : List String}

/-- Rows of cells under the name and with the width of a sheet, without names
of columns and rows. -/
def unnamed (sheet : Sheet) (rows : List (List Cell)) : Sheet :=
  ⟨sheet.name, rows, sheet.width, none, none, none⟩

/-- The rows of a rectangular sheet, cell by cell. -/
theorem rows_eq_map_range
    (rectangular : ∀ row ∈ sheet.rows, row.length = sheet.width) :
    sheet.rows =
      (List.range sheet.rowCount).map fun i =>
        (List.range sheet.width).map fun j => sheet.cellAt i j := by
  refine List.ext_getElem (by simp [rowCount]) fun i inRows _ => ?_
  have width := rectangular _ (List.getElem_mem inRows)
  refine List.ext_getElem (by simp [width]) fun j inRow _ => ?_
  simp [cellAt, inRows, inRow]

/-- Without names of columns the columns become the rows, each as long
as there were rows. -/
theorem transpose_of_unnamed
    (noNames : sheet.columnNames = none) :
    sheet.transpose =
      ⟨sheet.name, (List.range sheet.width).map sheet.columnAt, sheet.rowCount,
        none, none, none⟩ := by
  simp only [transpose, noNames, ofCells]
  cases sheet.width with
  | zero =>
      rfl
  | succ width =>
      simp [List.range_succ_eq_map, columnAt, rowCount]

/-- A cell of the transposed sheet. -/
theorem getD_columnAt
    {i : Nat}
    (inRows : i < sheet.rowCount)
    (j : Nat) :
    (sheet.columnAt j).getD i .empty = sheet.cellAt i j := by
  have inRows : i < sheet.rows.length := inRows
  simp [columnAt, cellAt, inRows]

section Unnamed

variable (noNames : sheet.columnNames = none)

include noNames

theorem rowCount_transpose : sheet.transpose.rowCount = sheet.width := by
  simp [transpose_of_unnamed noNames, rowCount]

theorem width_transpose : sheet.transpose.width = sheet.rowCount := by
  rw [transpose_of_unnamed noNames]

theorem get_transpose
    {i j : Nat}
    (inRows : i < sheet.rowCount)
    (inColumns : j < sheet.width) :
    sheet.transpose.get j i = sheet.get i j := by
  have isColumn : sheet.transpose.rows.getD j [] = sheet.columnAt j := by
    simp [transpose_of_unnamed noNames, inColumns]
  rw [get_of_lt (rowCount_transpose noNames ▸ inColumns)
      (width_transpose noNames ▸ inRows),
    get_of_lt inRows inColumns, cellAt, isColumn, getD_columnAt inRows]

/-- Transposing twice leaves the grid and the width as they were. -/
theorem transpose_transpose_of_unnamed
    (rectangular : ∀ row ∈ sheet.rows, row.length = sheet.width) :
    sheet.transpose.transpose = sheet.unnamed sheet.rows := by
  have rows :
      (List.range sheet.rowCount).map sheet.transpose.columnAt = sheet.rows := by
    rw [rows_eq_map_range rectangular]
    refine List.map_congr_left fun i inRange => ?_
    rw [columnAt, transpose_of_unnamed noNames, List.map_map]
    exact List.map_congr_left fun j _ => getD_columnAt (List.mem_range.mp inRange) j
  have noNamesAgain : sheet.transpose.columnNames = none := by
    rw [transpose_of_unnamed noNames]
  rw [transpose_of_unnamed noNamesAgain, rowCount_transpose noNames,
    width_transpose noNames, rows, transpose_of_unnamed noNames, unnamed]

end Unnamed

/-- Names of columns are transposed as a first row of texts is. -/
theorem transpose_of_named
    (length : names.length = sheet.width)
    (named : sheet.columnNames = some names) :
    sheet.transpose =
      (sheet.unnamed (names.map .text :: sheet.rows)).transpose := by
  have columns :
      (names.mapIdx fun j name => Cell.text name :: sheet.columnAt j) =
        (List.range sheet.width).map
          (sheet.unnamed (names.map .text :: sheet.rows)).columnAt := by
    refine List.ext_getElem (by simp [length]) fun j inNames _ => ?_
    have inRange : j < names.length := by simpa using inNames
    simp [columnAt, unnamed, inRange]
  simp only [transpose, named, columns]
  rfl

/--
Transposing a sheet without names of columns swaps its rows and its columns,
however many there are, and doing it twice gives its grid and its width back.
Names of columns come back as the first row.
-/
theorem transpose_involutive
    (consistent : sheet.Consistent) :
    (sheet.columnNames = none →
      sheet.transpose.rowCount = sheet.width ∧
        sheet.transpose.width = sheet.rowCount ∧
        (∀ row ∈ sheet.transpose.rows, row.length = sheet.rowCount) ∧
        (∀ i < sheet.rowCount, ∀ j < sheet.width,
          sheet.transpose.get j i = sheet.get i j) ∧
        sheet.transpose.transpose = sheet.unnamed sheet.rows) ∧
      ∀ names,
        sheet.columnNames = some names →
          sheet.transpose.transpose =
            sheet.unnamed (names.map .text :: sheet.rows) := by
  have rectangular := consistent.rectangular
  constructor
  · intro noNames
    have width := width_transpose noNames
    refine ⟨rowCount_transpose noNames, width, fun row member => ?_,
        fun i inRows j inColumns => ?_,
      transpose_transpose_of_unnamed noNames rectangular⟩
    · rw [WellFormed.transpose.rectangular row member, width]
    · exact get_transpose noNames inRows inColumns
  · intro names named
    have length := consistent.columnCount names named
    rw [transpose_of_named length named]
    refine transpose_transpose_of_unnamed rfl fun row member => ?_
    rcases List.mem_cons.mp member with rfl | inSheet
    · exact (List.length_map ..).trans length
    · exact rectangular row inSheet

/-- A sheet of three columns without rows. -/
def blank : Sheet :=
  ⟨"blank", [], 3, none, none, none⟩

/-- A sheet without rows becomes one without columns, and records keep
their names as a row. -/
theorem transpose_involutive_blank :
    blank.transpose.rowCount = 3 ∧
      blank.transpose.width = 0 ∧
      blank.transpose.transpose = blank ∧
      peopleSheet.transpose.transpose =
        peopleSheet.unnamed ([.text "name", .text "born"] :: peopleSheet.rows) := by
  have blankReachable : blank.Reachable := .ofGrid [] "blank" false 3 rfl
  have peopleReachable : peopleSheet.Reachable := .ofRecords people "people" rfl
  obtain ⟨swapped, -⟩ := transpose_involutive blankReachable.wellFormed.consistent
  obtain ⟨-, named⟩ := transpose_involutive peopleReachable.wellFormed.consistent
  obtain ⟨height, width, -, -, twice⟩ := swapped rfl
  exact ⟨height, width, twice, named _ rfl⟩

end GridScript.Sheet
