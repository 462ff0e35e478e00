import GridScript.Proofs.Sheet.Edits
import GridScript.Proofs.Text.Rewriting
import Mathlib.Data.List.GetD

namespace GridScript

/-!
# Blocks of a sheet

The cells of a block are cut out of the rows. In a sheet whose rows are all as
long as it is wide they are the cells at the positions of the block, one by one.
A range of two addresses is the block between them, and one that reaches beyond
the sheet is refused.
-/

open GridScript.Text

/-- The items from a position on, one by one. -/
theorem drop_take_eq_map_range
    {α : Type}
    {items : List α}
    {start count : Nat}
    (inside : start + count ≤ items.length)
    (default : α) :
    (items.take (start + count)).drop start =
      (List.range count).map fun k => items.getD (start + k) default := by
  refine List.ext_getElem ?_ fun k inItems inRange => ?_
  · simp only [List.length_drop, List.length_take, List.length_map,
      List.length_range]
    omega
  · have held : start + k < items.length := by
      simp only [List.length_map, List.length_range] at inRange
      omega
    simp [held]

/-! ## Ranges -/

namespace Address

variable {start finish : String} {corner corner' : Nat × Nat}

/-- The block between two corners. -/
def between (corner corner' : Nat × Nat) : Block :=
  ⟨min corner.1 corner'.1, min corner.2 corner'.2, max corner.1 corner'.1,
    max corner.2 corner'.2⟩

theorem between_comm (corner corner' : Nat × Nat) :
    between corner corner' = between corner' corner := by
  simp only [between, Nat.min_comm, Nat.max_comm]

/-- Two addresses are the corners of a block. -/
theorem parseBlock_of_parse
    (starts : parse start = .ok corner)
    (finishes : parse finish = .ok corner') :
    parseBlock start finish = .ok (between corner corner') := by
  rw [parseBlock, starts, finishes]
  rfl

/-- Without a block the first address is bad, or the second one is. -/
theorem parse_of_parseBlock_error
    {failure : Failure SheetError}
    (bad : parseBlock start finish = .error failure) :
    parse start = .error failure ∨
      (∃ corner, parse start = .ok corner) ∧ parse finish = .error failure := by
  cases starts : parse start with
  | error other =>
      rw [parseBlock, starts] at bad
      cases bad
      exact .inl rfl
  | ok corner =>
      cases finishes : parse finish with
      | error other =>
          rw [parseBlock, starts, finishes] at bad
          cases bad
          exact .inr ⟨⟨corner, rfl⟩, rfl⟩
      | ok corner' =>
          rw [parseBlock_of_parse starts finishes] at bad
          cases bad

/-- A block has two addresses as its corners. -/
theorem parse_of_parseBlock
    {block : Block}
    (parsed : parseBlock start finish = .ok block) :
    ∃ corner corner', parse start = .ok corner ∧ parse finish = .ok corner' ∧
      block = between corner corner' := by
  obtain ⟨corner, starts, rest⟩ := Except.bind_eq_ok parsed
  obtain ⟨corner', finishes, rest⟩ := Except.bind_eq_ok rest
  cases rest
  exact ⟨corner, corner', starts, finishes, rfl⟩

/-- The corners of a block may be given in any order. -/
theorem parseBlock_comm
    (starts : parse start = .ok corner)
    (finishes : parse finish = .ok corner') :
    parseBlock finish start = parseBlock start finish := by
  rw [parseBlock_of_parse finishes starts, parseBlock_of_parse starts finishes,
    between_comm]

end Address

namespace Sheet

variable {sheet : Sheet} {block : Address.Block} {n m : Nat}

/-- A range of two addresses is the block between them. -/
theorem blockOf_pair
    {start finish : String}
    (plainStart : ':' ∉ start.toList)
    (someFinish : finish ≠ "") :
    blockOf (start ++ ":" ++ finish) = Address.parseBlock start finish := by
  have spelled :
      (start ++ ":" ++ finish).toList = start.toList ++ ':' :: finish.toList := by
    simp
  have someLetter : finish.toList ≠ [] := by
    simpa using someFinish
  obtain ⟨c, cs, letters⟩ := List.exists_cons_of_ne_nil someLetter
  rw [blockOf, spelled, cut?_append plainStart, letters]
  simp only [← letters, String.ofList_toList]

/-- A range is read from the block between its addresses. -/
theorem getRange_pair
    {start finish : String}
    (plainStart : ':' ∉ start.toList)
    (someFinish : finish ≠ "") :
    sheet.getRange (start ++ ":" ++ finish) =
      (Address.parseBlock start finish >>= fun block =>
        sheet.checkBlock block >>= fun _ => .ok (sheet.block block)) := by
  rw [getRange, blockOf_pair plainStart someFinish]
  rfl

/-! ## Cells of a block -/

/-- The cells of a row of a block with `m` columns. -/
def blockRow (sheet : Sheet) (block : Address.Block) (m i : Nat) : List Cell :=
  (List.range m).map fun j => sheet.cellAt (block.top + i) (block.left + j)

/-- A block of `n` rows and `m` columns lies in the sheet. -/
structure Spans (sheet : Sheet) (block : Address.Block) (n m : Nat) : Prop where
  rows : block.bottom + 1 = block.top + n
  columns : block.right + 1 = block.left + m
  inRows : block.bottom < sheet.rowCount
  inColumns : block.right < sheet.width

theorem checkCell_of_lt
    {row column : Nat}
    (inRows : row < sheet.rowCount)
    (inColumns : column < sheet.width) :
    sheet.checkCell row column = .ok (row, column) := by
  simp only [checkCell, position?_of_lt inRows, position?_of_lt inColumns]

theorem checkCell_of_outside
    {row column : Nat}
    (outside : ¬(row < sheet.rowCount ∧ column < sheet.width)) :
    sheet.checkCell row column =
      fail (.cellBounds row column sheet.rowCount sheet.width) := by
  by_cases inRows : row < sheet.rowCount
  · have beyond : ¬column < sheet.width :=
      fun inColumns => outside ⟨inRows, inColumns⟩
    simp only [checkCell, position?_of_lt inRows, position?_of_not_lt beyond]
  · simp only [checkCell, position?_of_not_lt inRows]

theorem get_of_lt
    {row column : Nat}
    (inRows : row < sheet.rowCount)
    (inColumns : column < sheet.width) :
    sheet.get row column = .ok (sheet.cellAt row column) := by
  rw [get, checkCell_of_lt inRows inColumns]
  rfl

/-- A block that reaches beyond the sheet is refused for the first of its
corners that does. -/
theorem checkBlock_of_outside
    (outside : ¬(block.bottom < sheet.rowCount ∧ block.right < sheet.width)) :
    ∃ corner : Nat × Nat,
      (corner = (block.top, block.left) ∨ corner = (block.bottom, block.right)) ∧
        sheet.checkBlock block =
          fail (.cellBounds corner.1 corner.2 sheet.rowCount sheet.width) := by
  by_cases first : block.top < sheet.rowCount ∧ block.left < sheet.width
  · refine ⟨(block.bottom, block.right), .inr rfl, ?_⟩
    rw [checkBlock, checkCell_of_lt first.1 first.2, checkCell_of_outside outside]
    rfl
  · refine ⟨(block.top, block.left), .inl rfl, ?_⟩
    rw [checkBlock, checkCell_of_outside first]
    rfl

/-- Cells that are `n` rows and `m` columns of a sheet from a position on. -/
structure IsBlock
    (sheet : Sheet)
    (top left n m : Nat)
    (cells : List (List Cell)) : Prop where
  height : cells.length = n
  width : ∀ row ∈ cells, row.length = m
  entry :
    ∀ i < n, ∀ j < m, ∃ row cell,
      cells[i]? = some row ∧ row[j]? = some cell ∧
        sheet.get (top + i : Nat) (left + j : Nat) = .ok cell

namespace Spans

variable (spans : sheet.Spans block n m)

include spans

/-- The rows of a block, cell by cell. -/
theorem block_eq
    (rectangular : ∀ row ∈ sheet.rows, row.length = sheet.width) :
    sheet.block block = (List.range n).map (sheet.blockRow block m) := by
  have inRows : block.top + n ≤ sheet.rows.length := spans.rows ▸ spans.inRows
  rw [Sheet.block, spans.rows, spans.columns, drop_take_eq_map_range inRows [],
    List.map_map]
  refine List.map_congr_left fun i member => ?_
  have inSheet : block.top + i < sheet.rows.length := by
    have below := List.mem_range.mp member
    omega
  have isRow : sheet.rows.getD (block.top + i) [] ∈ sheet.rows := by
    rw [List.getD_eq_getElem _ _ inSheet]
    exact List.getElem_mem inSheet
  have inRow : block.left + m ≤ (sheet.rows.getD (block.top + i) []).length := by
    rw [rectangular _ isRow, ← spans.columns]
    exact spans.inColumns
  exact drop_take_eq_map_range inRow .empty

/-- Both corners of the block lie in the sheet. -/
theorem checkBlock_eq
    (someRow : 1 ≤ n)
    (someColumn : 1 ≤ m) :
    sheet.checkBlock block = .ok () := by
  have inRows := spans.inRows
  have inColumns := spans.inColumns
  have rows := spans.rows
  have columns := spans.columns
  have top : block.top < sheet.rowCount := by omega
  have left : block.left < sheet.width := by omega
  rw [checkBlock, checkCell_of_lt top left, checkCell_of_lt inRows inColumns]
  rfl

theorem get_eq
    {i j : Nat}
    (rowBelow : i < n)
    (columnBelow : j < m) :
    sheet.get (block.top + i : Nat) (block.left + j : Nat) =
      .ok (sheet.cellAt (block.top + i) (block.left + j)) := by
  have inRows := spans.inRows
  have inColumns := spans.inColumns
  have rows := spans.rows
  have columns := spans.columns
  exact get_of_lt (by omega) (by omega)

/-- The cells of the block are the cells at its positions. -/
theorem isBlock
    (rectangular : ∀ row ∈ sheet.rows, row.length = sheet.width) :
    sheet.IsBlock block.top block.left n m (sheet.block block) := by
  rw [spans.block_eq rectangular]
  refine ⟨by simp, ?_, ?_⟩
  · intro row member
    obtain ⟨i, -, rfl⟩ := List.mem_map.mp member
    simp [blockRow]
  · intro i rowBelow j columnBelow
    exact ⟨sheet.blockRow block m i, _, by simp [rowBelow],
      by simp [blockRow, columnBelow], spans.get_eq rowBelow columnBelow⟩

/-- The positions of the block. -/
theorem rows_eq : block.rows = (List.range n).map (block.top + ·) := by
  have rows := spans.rows
  rw [Address.Block.rows, List.range'_eq_map_range,
    show block.bottom + 1 - block.top = n by omega]

theorem columns_eq : block.columns = (List.range m).map (block.left + ·) := by
  have columns := spans.columns
  rw [Address.Block.columns, List.range'_eq_map_range,
    show block.right + 1 - block.left = m by omega]

/-- What each cell of the block is mapped to. -/
theorem mapM_get
    {ε β : Type}
    (rectangular : ∀ row ∈ sheet.rows, row.length = sheet.width)
    (use : Outcome SheetError Cell → Except ε β) :
    (block.rows.mapM fun (row : Nat) => block.columns.mapM fun (column : Nat) =>
        use (sheet.get row column)) =
      (sheet.block block).mapM fun row => row.mapM fun cell => use (.ok cell) := by
  rw [spans.rows_eq, spans.columns_eq, spans.block_eq rectangular, List.mapM_map,
    List.mapM_map]
  refine Except.mapM_congr_left fun i inRange => ?_
  simp only [Function.comp_apply, blockRow, List.mapM_map]
  refine Except.mapM_congr_left fun j inRow => ?_
  have isCell := spans.get_eq (List.mem_range.mp inRange) (List.mem_range.mp inRow)
  simp only [Function.comp_apply, isCell]

end Spans

/-- A block between two positions of the sheet has as many rows and columns as
the corners are apart, and one more. -/
theorem spans_between
    {row column row' column' : Nat}
    (inRows : max row row' < sheet.rowCount)
    (inColumns : max column column' < sheet.width) :
    sheet.Spans (Address.between (row, column) (row', column'))
      (((row' : Int) - row).natAbs + 1)
      (((column' : Int) - column).natAbs + 1) where
  rows := by
    simp only [Address.between]
    omega
  columns := by
    simp only [Address.between]
    omega
  inRows := inRows
  inColumns := inColumns

end Sheet

end GridScript
