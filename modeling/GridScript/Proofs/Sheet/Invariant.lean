import GridScript.Proofs.Sheet.Edits
import GridScript.Sheet.Derive
import GridScript.Sheet.Record
import Mathlib.Data.List.GetD
import Mathlib.Data.List.InsertIdx

namespace GridScript.Sheet

/-!
# Edits keep sheets well formed

Every edit of a well-formed sheet leaves a well-formed sheet, whether
it succeeds or fails, and every sheet that is made from well-formed
sheets is well formed.
-/

/-- Columns without names fit every width. -/
theorem ColumnsFit.resize
    {width : Nat}
    {names : Option (List String)}
    {index : Option NameIndex}
    (fit : ColumnsFit width names index)
    {other : Nat}
    (free : names = none ∨ other = width) :
    ColumnsFit other names index := by
  rcases free with rfl | rfl
  · cases fit
    exact .unnamed
  · exact fit

/-- Names that could be indexed fit the width that they have. -/
theorem ColumnsFit.of_indexColumns
    {names : List String}
    {positions : NameIndex}
    {width : Nat}
    (indexed : indexColumns names = .ok positions)
    (length : names.length = width) :
    ColumnsFit width (some names) (some positions) := by
  obtain ⟨nodup, rfl⟩ := indexColumns_eq_ok indexed
  exact .named length nodup

/-- A sheet without columns has no rows and no column names. -/
theorem eq_of_isUnsized
    {sheet : Sheet}
    (unsized : sheet.isUnsized = true) :
    sheet.rows = [] ∧ sheet.columnNames = none := by
  simp only [isUnsized, Bool.and_eq_true, List.isEmpty_iff,
    Option.isNone_iff_eq_none] at unsized
  exact ⟨unsized.1.1, unsized.2⟩

namespace WellFormed

variable {sheet : Sheet} (wellFormed : sheet.WellFormed)

theorem empty (name : String) : (Sheet.empty name).WellFormed :=
  ⟨by simp [Sheet.empty], .unnamed, by simp [Sheet.empty]⟩

/-- Rows of one length make a well-formed sheet. -/
theorem ofCells
    {rows : List (List Cell)}
    {columns : Nat}
    (equal : ∀ row ∈ rows, row.length = columns)
    (name : String) :
    (Sheet.ofCells rows name columns).WellFormed ∧
      (Sheet.ofCells rows name columns).width = columns := by
  have width : (rows.head?.map List.length).getD columns = columns := by
    cases rows with
    | nil =>
        rfl
    | cons row rest =>
        simp [equal row (by simp)]
  refine ⟨⟨fun row member => ?_, .unnamed, by simp [Sheet.ofCells]⟩, width⟩
  exact (equal row member).trans width.symm

include wellFormed

/-- Other rows of one length make a well-formed sheet, when the
columns fit the length. -/
theorem withRows
    {rows : List (List Cell)}
    {width : Nat}
    (equal : ∀ row ∈ rows, row.length = width)
    (free : sheet.columnNames = none ∨ width = sheet.width) :
    ({ sheet.withRows rows with width := width } : Sheet).WellFormed :=
  ⟨equal, wellFormed.columns.resize free, by simp [Sheet.withRows]⟩

theorem withCell (i j : Nat) (cell : Cell) :
    (sheet.withCell i j cell).WellFormed := by
  refine ⟨?_, wellFormed.columns, ?_⟩
  · intro row member
    rcases List.mem_iff_getElem.mp member with ⟨k, inRange, rfl⟩
    have held : k < sheet.rows.length := by
      simpa [Sheet.withCell] using inRange
    have length := wellFormed.rectangular _ (List.getElem_mem held)
    simp only [Sheet.withCell, List.getElem_modify]
    split
    · simpa using length
    · exact length
  · intro index isIndex
    have places := wellFormed.rows index isIndex
    simpa [Sheet.withCell, rowCount] using places

theorem storeColumns
    {names : List String}
    {positions : NameIndex}
    (indexed : indexColumns names = .ok positions)
    (length : names.length = sheet.width) :
    (Sheet.storeColumns names positions sheet).WellFormed :=
  ⟨wellFormed.rectangular, .of_indexColumns indexed length, wellFormed.rows⟩

theorem rename (name : String) : (sheet.rename name).WellFormed :=
  ⟨wellFormed.rectangular, wellFormed.columns, wellFormed.rows⟩

/-- The names of the columns are as many as the sheet is wide, and differ. -/
theorem columnNames_eq
    {names : List String}
    (held : sheet.columnNames = some names) :
    names.length = sheet.width ∧ names.Nodup ∧
      sheet.columnIndex = some names.zipIdx := by
  have columns := wellFormed.columns
  rw [held] at columns
  cases index : sheet.columnIndex with
  | none =>
      rw [index] at columns
      cases columns
  | some positions =>
      rw [index] at columns
      cases columns with
      | named length nodup =>
          exact ⟨length, nodup, rfl⟩

/-- A new name takes the position after the others. -/
theorem columnsFit_append
    {names : List String}
    {new : String}
    (held : sheet.columnNames = some names)
    (fresh : (sheet.columnIndex.getD []).has new = false) :
    ColumnsFit (sheet.width + 1) (some (names ++ [new]))
      (some (sheet.columnIndex.getD [] ++ [(new, sheet.width)])) := by
  obtain ⟨length, nodup, stored⟩ := wellFormed.columnNames_eq held
  rw [stored, Option.getD_some] at fresh ⊢
  have apart : new ∉ names := by
    simpa [NameIndex.names] using NameIndex.has_eq_false_iff.mp fresh
  have shape : names.zipIdx ++ [(new, sheet.width)] = (names ++ [new]).zipIdx := by
    simp [List.zipIdx_append, length]
  rw [shape]
  exact .named (by simp [length])
    (nodup.append (List.nodup_singleton new) (by simpa using apart))

/-- A position that a column name has lies in the sheet. -/
theorem lookup_column_lt
    {name : String}
    {j : Nat}
    (found : (sheet.columnIndex.getD []).lookup name = some j) :
    j < sheet.width := by
  cases held : sheet.columnNames with
  | none =>
      have columns := wellFormed.columns
      rw [held] at columns
      cases index : sheet.columnIndex with
      | none =>
          simp [index] at found
      | some positions =>
          rw [index] at columns
          cases columns
  | some names =>
      obtain ⟨length, _, stored⟩ := wellFormed.columnNames_eq held
      rw [stored, Option.getD_some] at found
      obtain ⟨_, inRange, _⟩ := List.mem_zipIdx (mem_of_lookup found)
      simpa [length] using inRange

theorem set (row column : Int) (v : Value) :
    (Sheet.set row column v sheet).state.WellFormed :=
  (set_commits row column v sheet).state wellFormed fun _ _ fact => by
    obtain ⟨i, j, cell, rfl⟩ := fact
    exact wellFormed.withCell i j cell

theorem setAddress (address : String) (v : Value) :
    (Sheet.setAddress address v sheet).state.WellFormed :=
  (setAddress_commits address v sheet).state wellFormed fun _ _ fact => by
    obtain ⟨i, j, cell, rfl⟩ := fact
    exact wellFormed.withCell i j cell

theorem setByName (row : Int) (name : String) (v : Value) :
    (Sheet.setByName row name v sheet).state.WellFormed :=
  (setByName_commits row name v sheet).state wellFormed fun _ _ fact => by
    obtain ⟨i, j, cell, rfl⟩ := fact
    exact wellFormed.withCell i j cell

/-- The row that becomes the header is as long as the sheet is wide. -/
theorem nameColumnsByRow (index : Int) :
    (Sheet.nameColumnsByRow index sheet).state.WellFormed := by
  refine (nameColumnsByRow_commits index sheet).state wellFormed fun _ _ fact => ?_
  obtain ⟨i, positions, inRange, indexed, rfl⟩ := fact
  have header : (sheet.rows.getD i []).length = sheet.width := by
    rw [List.getD_eq_getElem _ _ inRange]
    exact wellFormed.rectangular _ (List.getElem_mem inRange)
  have remaining : (sheet.withRows (sheet.rows.eraseIdx i)).WellFormed :=
    wellFormed.withRows
      (fun row member =>
        wellFormed.rectangular row (List.mem_of_mem_eraseIdx member)) (.inr rfl)
  exact remaining.storeColumns indexed (by simpa [Sheet.withRows] using header)

theorem setColumnNames (names : List String) :
    (Sheet.setColumnNames names sheet).state.WellFormed :=
  (setColumnNames_commits names sheet).state wellFormed fun _ _ fact => by
    obtain ⟨positions, length, indexed, rfl⟩ := fact
    exact wellFormed.storeColumns indexed length

theorem nameRowsByColumn (index : Int) :
    (Sheet.nameRowsByColumn index sheet).state.WellFormed := by
  refine (nameRowsByColumn_commits index sheet).state wellFormed fun _ _ fact => ?_
  obtain ⟨cells, length, rfl⟩ := fact
  refine ⟨wellFormed.rectangular, wellFormed.columns, ?_⟩
  intro stored isStored
  cases isStored
  have places := places_addRowNames (NameIndex.Places.empty 0) cells
  simpa [length, rowCount] using places

/-- A new row is as long as the others, or is the first and sets the width. -/
theorem appendRow (values : List Value) :
    (Sheet.appendRow values sheet).state.WellFormed := by
  refine (appendRow_commits values sheet).state wellFormed fun _ _ fact => ?_
  obtain ⟨cells, fits, rfl⟩ := fact
  have rows (index : NameIndex) (held : sheet.rowIndex = some index) :
      index.Places (sheet.rows ++ [cells]).length :=
    (wellFormed.rows index held).mono (by simp [rowCount])
  rcases fits with unsized | sameWidth
  · obtain ⟨noRows, noNames⟩ := eq_of_isUnsized unsized
    exact ⟨by simp [noRows], wellFormed.columns.resize (.inl noNames), rows⟩
  · refine ⟨?_, wellFormed.columns.resize (.inr sameWidth), rows⟩
    intro row member
    rcases List.mem_append.mp member with old | new
    · exact (wellFormed.rectangular row old).trans sameWidth.symm
    · cases List.mem_singleton.mp new
      rfl

theorem insertRow (index : Int) (values : List Value) :
    (Sheet.insertRow index values sheet).state.WellFormed := by
  refine (insertRow_commits index values sheet).state wellFormed fun _ _ fact => ?_
  obtain ⟨cells, fits, rfl⟩ := fact
  rcases fits with unsized | sameWidth
  · obtain ⟨noRows, noNames⟩ := eq_of_isUnsized unsized
    refine wellFormed.withRows (fun row member => ?_) (.inl noNames)
    rw [noRows] at member
    rcases List.eq_or_mem_of_mem_insertIdx member with rfl | none
    · rfl
    · cases none
  · refine wellFormed.withRows (fun row member => ?_) (.inr sameWidth)
    rcases List.eq_or_mem_of_mem_insertIdx member with rfl | old
    · rfl
    · exact (wellFormed.rectangular row old).trans sameWidth.symm

theorem deleteRow (index : Int) :
    (Sheet.deleteRow index sheet).state.WellFormed :=
  (deleteRow_commits index sheet).state wellFormed fun _ _ fact => by
    obtain ⟨i, rfl⟩ := fact
    exact wellFormed.withRows
      (fun row member =>
        wellFormed.rectangular row (List.mem_of_mem_eraseIdx member)) (.inr rfl)

theorem removeEmptyRows : (Sheet.removeEmptyRows sheet).state.WellFormed := by
  refine (removeEmptyRows_commits sheet).state wellFormed fun _ _ fact => ?_
  rcases fact with rfl | rfl
  · exact wellFormed
  · exact wellFormed.withRows
      (fun row member => wellFormed.rectangular row (List.mem_filter.mp member).1)
      (.inr rfl)

/-- A row and its new cell are one longer than the row. -/
theorem appendColumn (values : List Value) (name : Option String) :
    (Sheet.appendColumn values name sheet).state.WellFormed := by
  refine (appendColumn_commits values name sheet).state wellFormed
    fun _ _ fact => ?_
  obtain ⟨cells, named, length, isNamed, rfl⟩ := fact
  have sameRows : named.rows = sheet.rows ∧ named.width = sheet.width ∧
      named.rowIndex = sheet.rowIndex := by
    rcases isNamed with ⟨_, rfl⟩ | ⟨names, new, _, _, rfl⟩
    · exact ⟨rfl, rfl, rfl⟩
    · exact ⟨rfl, rfl, rfl⟩
  obtain ⟨rows, width, rowIndex⟩ := sameRows
  refine ⟨?_, ?_, ?_⟩
  · intro row member
    rw [rows, width] at *
    obtain ⟨k, inRange, rfl⟩ := List.mem_iff_getElem.mp member
    have held : k < sheet.rows.length := by
      simp only [List.length_zipWith] at inRange
      exact (Nat.lt_min.mp inRange).1
    simp only [List.getElem_zipWith, List.length_append, List.length_singleton]
    rw [wellFormed.rectangular _ (List.getElem_mem held)]
  · rcases isNamed with ⟨unnamed, rfl⟩ | ⟨names, new, held, fresh, rfl⟩
    · exact wellFormed.columns.resize (.inl unnamed)
    · exact wellFormed.columnsFit_append held fresh
  · intro index isIndex
    have places := wellFormed.rows index (rowIndex ▸ isIndex)
    simpa [rowCount, rows, length] using places

/-- Cells and names are taken away at one position. -/
theorem deleteColumn (index : Int) :
    (Sheet.deleteColumn index sheet).state.WellFormed := by
  refine (deleteColumn_commits index sheet).state wellFormed fun _ _ fact => ?_
  obtain ⟨j, inRange, rfl⟩ := fact
  have shorter (row : List Cell) (member : row ∈ sheet.rows) :
      (row.eraseIdx j).length = sheet.width - 1 := by
    have length := wellFormed.rectangular row member
    rw [List.length_eraseIdx_of_lt (length ▸ inRange), length]
  have rectangular :
      ∀ row ∈ sheet.rows.map fun row => row.eraseIdx j,
      row.length = sheet.width - 1 := by
    intro row member
    obtain ⟨source, held, rfl⟩ := List.mem_map.mp member
    exact shorter source held
  have rows (index : NameIndex) (held : sheet.rowIndex = some index) :
      index.Places (sheet.rows.map fun row => row.eraseIdx j).length := by
    simpa [rowCount] using wellFormed.rows index held
  unfold dropColumnName
  split
  · rename_i unnamed
    exact ⟨rectangular, wellFormed.columns.resize (.inl unnamed), rows⟩
  · rename_i names held
    obtain ⟨length, nodup, _⟩ := wellFormed.columnNames_eq held
    refine ⟨rectangular, .named ?_ (nodup.sublist (List.eraseIdx_sublist ..)), rows⟩
    rw [List.length_eraseIdx_of_lt (length ▸ inRange), length]
    rfl

/-- Rows of another well-formed sheet are aligned by name or have the same width. -/
theorem append
    {other : Sheet}
    (otherWellFormed : other.WellFormed) :
    (Sheet.append other sheet).state.WellFormed := by
  refine (append_commits other sheet).state wellFormed fun _ after stacked => ?_
  cases stacked with
  | byName named _ _ =>
      obtain ⟨length, _, _⟩ := wellFormed.columnNames_eq named
      refine wellFormed.withRows (fun row member => ?_) (.inr rfl)
      rcases List.mem_append.mp member with old | new
      · exact wellFormed.rectangular row old
      · obtain ⟨source, _, rfl⟩ := List.mem_map.mp new
        simpa [alignRow] using length
  | byPosition _ fits =>
      by_cases sized : sheet.isSized = true
      · refine wellFormed.withRows (fun row member => ?_) (.inr (fits sized))
        rcases List.mem_append.mp member with old | new
        · exact (wellFormed.rectangular row old).trans (fits sized).symm
        · exact otherWellFormed.rectangular row new
      · simp only [isSized, Bool.or_eq_true, Bool.not_eq_true', not_or,
          Bool.not_eq_false, List.isEmpty_iff,
          Option.not_isSome_iff_eq_none] at sized
        obtain ⟨noRows, noNames⟩ := sized
        refine wellFormed.withRows (fun row member => ?_) (.inl noNames)
        exact otherWellFormed.rectangular row (by simpa [noRows] using member)

omit wellFormed

/-- Columns become rows, which are as long as there were rows. -/
theorem transpose : sheet.transpose.WellFormed := by
  unfold Sheet.transpose
  split
  · refine (ofCells (fun row member => ?_) sheet.name).1
    obtain ⟨j, inRange, rfl⟩ := List.mem_mapIdx.mp member
    simp [columnAt, rowCount]
  · refine (ofCells (fun row member => ?_) sheet.name).1
    obtain ⟨j, _, rfl⟩ := List.mem_map.mp member
    simp [columnAt, rowCount]

/-- What is made from a well-formed sheet is the state that the
change leaves behind. -/
theorem of_made
    {start made : Sheet}
    {change : SheetChange Unit}
    (keeps : (change start).state.WellFormed)
    (isMade : Change.made start change = .ok made) :
    made.WellFormed := by
  unfold Change.made at isMade
  split at isMade
  · rename_i ran
    cases isMade
    simpa [ran] using keeps
  · cases isMade

/-- Rows of one length with column names make a well-formed sheet. -/
theorem ofCells_withColumnNames
    {rows : List (List Cell)}
    {columns : Nat}
    {name : String}
    {names : List String}
    {result : Sheet}
    (equal : ∀ row ∈ rows, row.length = columns)
    (isResult :
      (Sheet.ofCells rows name columns).withColumnNames names = .ok result) :
    result.WellFormed :=
  of_made ((ofCells equal name).1.setColumnNames names) isResult

theorem selectColumns
    {names : List String}
    {result : Sheet}
    (isResult : sheet.selectColumns names = .ok result) :
    result.WellFormed := by
  unfold Sheet.selectColumns at isResult
  obtain ⟨positions, _, isResult⟩ := Except.bind_eq_ok isResult
  refine ofCells_withColumnNames (fun row member => ?_) isResult
  obtain ⟨source, _, rfl⟩ := List.mem_map.mp member
  simp

theorem removeColumns
    {names : List String}
    {result : Sheet}
    (isResult : sheet.removeColumns names = .ok result) :
    result.WellFormed := by
  unfold Sheet.removeColumns at isResult
  obtain ⟨dropped, _, isResult⟩ := Except.bind_eq_ok isResult
  exact selectColumns isResult

/-- Rows that are accepted make a well-formed sheet. -/
theorem ofRows
    {rows : List (List Cell)}
    {name : String}
    {columns : Nat}
    {result : Sheet}
    (isResult : Sheet.ofRows rows name columns = .ok result) :
    result.WellFormed := by
  unfold Sheet.ofRows at isResult
  simp only at isResult
  split at isResult
  · cases isResult
  · rename_i noneDiffers
    cases isResult
    refine ⟨fun row member => ?_, .unnamed, by simp [Sheet.ofCells]⟩
    simpa using List.find?_eq_none.mp noneDiffers row member

/-- What is joined has equally long rows, and as many column
names as they are long. -/
theorem join
    {left right result : Sheet}
    {leftOn rightOn : String}
    {kind : JoinKind}
    (isResult : left.join right leftOn rightOn kind = .ok result) :
    result.WellFormed := by
  unfold Sheet.join at isResult
  simp only at isResult
  split at isResult
  · split at isResult
    · cases isResult
    · cases isResult
    · obtain ⟨joined, made, isResult⟩ := Except.bind_eq_ok isResult
      exact of_made ((ofRows made).setColumnNames _) isResult
  · cases isResult

/-- A grid that makes a sheet has equally long rows. -/
theorem ofGrid
    {grid : List (List Value)}
    {name : String}
    {header : Bool}
    {columns : Nat}
    {result : Sheet}
    (isResult : Sheet.ofGrid grid name header columns = .ok result) :
    result.WellFormed := by
  unfold Sheet.ofGrid at isResult
  obtain ⟨rows, _, isResult⟩ := Except.bind_eq_ok isResult
  obtain ⟨sheet, accepted, isResult⟩ := Except.bind_eq_ok isResult
  have made := ofRows accepted
  split at isResult
  · exact of_made (made.nameColumnsByRow 0) isResult
  · cases isResult
    exact made

theorem ofRecords
    {records : List (List (String × Value))}
    {name : String}
    {result : Sheet}
    (isResult : Sheet.ofRecords records name = .ok result) :
    result.WellFormed :=
  ofGrid isResult

end WellFormed

end GridScript.Sheet
