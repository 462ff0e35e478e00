import GridScript.Proofs.Number.Reading
import GridScript.Proofs.Sheet.Records
import GridScript.Proofs.Sheet.Transposition
import GridScript.Table.Frame

namespace GridScript.Table

/-!
# Sheets that go through a frame

A sheet that becomes a frame and a sheet again keeps its shape and gets names
for its columns. The columns of one type stay as they are, and the others become
text. Text is of one type, so a second time changes nothing.
-/

open GridScript.Number

/-! ## Columns -/

/-- The cell holds a text. -/
def isTextCell : Cell → Bool
  | .text _ => true
  | _ => false

/-- The cells of a column that are not empty are all booleans, all
numbers or all texts. -/
def OfOneType (cells : List Cell) : Prop :=
  (∀ c ∈ cells, isPresent c = true → isBoolCell c = true) ∨
    (∀ c ∈ cells, isPresent c = true → isNumberCell c = true) ∨
    (∀ c ∈ cells, isPresent c = true → isTextCell c = true)

/-- The cells of a column as its frame holds them. -/
def framedCells (cells : List Cell) : List Cell :=
  (columnOf "" cells).cells

variable {cells : List Cell}

theorem cells_columnOf (name : String) (cells : List Cell) :
    (columnOf name cells).cells = framedCells cells := by
  unfold framedCells columnOf
  dsimp only
  split
  · rfl
  · split <;> rfl

theorem name_columnOf (name : String) (cells : List Cell) :
    (columnOf name cells).name = name := by
  unfold columnOf
  dsimp only
  split
  · rfl
  · split <;> rfl

theorem asText_of_text
    {c : Cell}
    (isText : isPresent c = true → isTextCell c = true) :
    asText c = c := by
  cases c with
  | empty | text => rfl
  | bool | number | error => exact absurd (isText rfl) (by simp [isTextCell])

theorem isTextCell_asText
    {c : Cell}
    (present : isPresent (asText c) = true) :
    isTextCell (asText c) = true := by
  cases c with
  | empty => exact absurd present (by simp [asText, isPresent])
  | _ => rfl

/-- Text columns stay as they are. -/
theorem map_asText_of_text
    (allText : ∀ c ∈ cells, isPresent c = true → isTextCell c = true) :
    cells.map asText = cells := by
  conv_rhs => rw [← List.map_id cells]
  exact List.map_congr_left fun c member => asText_of_text (allText c member)

theorem all_present
    {kind : Cell → Bool}
    (cells : List Cell) :
    (cells.filter isPresent).all kind = true ↔
      ∀ c ∈ cells, isPresent c = true → kind c = true := by
  simp only [List.all_eq_true, List.mem_filter, and_imp]

/-- A column of one type stays as it is; without cells that are not empty
it counts as text. -/
theorem framedCells_of_ofOneType
    (oneType : OfOneType cells) :
    framedCells cells = cells := by
  have ofNone (none : (cells.filter isPresent).isEmpty = true) :
      cells.map asText = cells := by
    refine map_asText_of_text fun c member present => ?_
    have kept : c ∈ cells.filter isPresent := List.mem_filter.mpr ⟨member, present⟩
    rw [List.isEmpty_iff.mp none] at kept
    cases kept
  unfold framedCells columnOf
  dsimp only
  split
  next => rfl
  next notBool =>
    split
    next => rfl
    next notNumber =>
      simp only [Bool.and_eq_true, Bool.not_eq_true', not_and] at notBool notNumber
      rcases oneType with allBool | allNumber | allText
      · exact ofNone
          (by_contra fun some =>
            notBool (by simpa using some) ((all_present _).mpr allBool))
      · exact ofNone
          (by_contra fun some =>
            notNumber (by simpa using some) ((all_present _).mpr allNumber))
      · exact map_asText_of_text allText

/-- A column of several types becomes text. -/
theorem framedCells_of_not_ofOneType
    (mixed : ¬OfOneType cells) :
    framedCells cells = cells.map asText := by
  unfold framedCells columnOf
  dsimp only
  split
  next allBool =>
    have held := (Bool.and_eq_true _ _ ▸ allBool).2
    exact absurd (.inl ((all_present cells).mp held)) mixed
  next =>
    split
    next allNumber =>
      have held := (Bool.and_eq_true _ _ ▸ allNumber).2
      exact absurd (.inr (.inl ((all_present cells).mp held))) mixed
    next => rfl

theorem length_framedCells (cells : List Cell) :
    (framedCells cells).length = cells.length := by
  by_cases oneType : OfOneType cells
  · rw [framedCells_of_ofOneType oneType]
  · rw [framedCells_of_not_ofOneType oneType, List.length_map]

/-- What a column becomes is of one type. -/
theorem ofOneType_framedCells (cells : List Cell) :
    OfOneType (framedCells cells) := by
  by_cases oneType : OfOneType cells
  · rwa [framedCells_of_ofOneType oneType]
  · rw [framedCells_of_not_ofOneType oneType]
    refine .inr (.inr fun c member present => ?_)
    obtain ⟨source, -, rfl⟩ := List.mem_map.mp member
    exact isTextCell_asText present

/-! ## Sheets -/

variable {sheet : Sheet} {name : String}

/-- The numbered names of columns differ. -/
theorem defaultColumnName_injective
    {i j : Nat}
    (same : Sheet.defaultColumnName i = Sheet.defaultColumnName j) :
    i = j := by
  have digits : Nat.toDigits 10 (i + 1) = Nat.toDigits 10 (j + 1) := by
    simpa [Sheet.defaultColumnName, Nat.repr_eq_ofList_toDigits, String.ofList_inj]
      using same
  have numbers : i + 1 = j + 1 := by
    rw [← digitsValue_digitChars (i + 1), digitChars, digits]
    exact digitsValue_digitChars (j + 1)
  omega

theorem length_columnLabels
    (consistent : sheet.Consistent) :
    (columnLabels sheet).length = sheet.width := by
  unfold columnLabels
  cases named : sheet.columnNames with
  | none => simp
  | some names => simpa using consistent.columnCount names named

theorem nodup_columnLabels
    (consistent : sheet.Consistent) :
    (columnLabels sheet).Nodup := by
  unfold columnLabels
  cases named : sheet.columnNames with
  | none =>
      exact List.nodup_range.map fun i j => defaultColumnName_injective
  | some names => simpa using consistent.columnsDiffer names named

/-- What a sheet becomes on its way through a frame. -/
def framed (sheet : Sheet) (name : String) : Sheet where
  name := name
  rows := (List.range sheet.rowCount).map fun i =>
    (List.range sheet.width).map fun j =>
      (framedCells (sheet.columnAt j)).getD i .empty
  width := sheet.width
  columnNames := some (columnLabels sheet)
  columnIndex := some (columnLabels sheet).zipIdx
  rowIndex := none

theorem map_name_frameOf (sheet : Sheet) :
    (frameOf sheet).map Column.name = columnLabels sheet := by
  refine List.ext_getElem (by simp [frameOf]) fun j _ _ => ?_
  simp [frameOf, name_columnOf]

/-- The cells of the frame at a row. -/
theorem frameRow_frameOf
    (consistent : sheet.Consistent)
    (i : Nat) :
    frameRow (frameOf sheet) i =
      (List.range sheet.width).map fun j =>
        (framedCells (sheet.columnAt j)).getD i .empty := by
  refine List.ext_getElem
    (by simp [frameRow, frameOf, length_columnLabels consistent]) fun j _ _ => ?_
  simp [frameRow, frameOf, cells_columnOf]

/-- A frame with columns has as many rows as the sheet. -/
theorem frameHeight_frameOf
    (consistent : sheet.Consistent)
    (hasColumn : 0 < sheet.width) :
    frameHeight (frameOf sheet) = sheet.rowCount := by
  have labels := length_columnLabels consistent
  unfold frameHeight frameOf
  cases named : columnLabels sheet with
  | nil => simp [named] at labels; omega
  | cons label rest =>
      simp [cells_columnOf, length_framedCells, Sheet.columnAt, Sheet.rowCount]

/-- A sheet with columns comes out of a frame as what it becomes there: the
names of the columns come first and then leave the rows. -/
theorem sheetOfFrame_frameOf
    (consistent : sheet.Consistent)
    (hasColumn : 0 < sheet.width)
    (name : String) :
    sheetOfFrame (frameOf sheet) name = .ok (framed sheet name) := by
  have header :
      ((frameOf sheet).map fun column => Cell.text column.name) =
        (columnLabels sheet).map Cell.text := by
    rw [← map_name_frameOf, List.map_map]
    rfl
  have rows :
      (List.range (frameHeight (frameOf sheet))).map (frameRow (frameOf sheet)) =
        (framed sheet name).rows := by
    rw [frameHeight_frameOf consistent hasColumn]
    exact List.map_congr_left fun i _ => frameRow_frameOf consistent i
  have widths :
      ∀ row ∈ (framed sheet name).rows,
        row.length = (columnLabels sheet).length := by
    intro row member
    obtain ⟨i, -, rfl⟩ := List.mem_map.mp member
    rw [List.length_map, List.length_range, length_columnLabels consistent]
  have made := Sheet.ofRows_header (nodup_columnLabels consistent) widths name
  rw [Sheet.ofNamed, length_columnLabels consistent] at made
  unfold sheetOfFrame
  rw [header, rows]
  exact made

/-- A sheet of a frame is well-formed. -/
theorem wellFormed_sheetOfFrame
    {frame : Frame}
    {result : Sheet}
    (isResult : sheetOfFrame frame name = .ok result) :
    result.WellFormed := by
  unfold sheetOfFrame at isResult
  obtain ⟨start, accepted, isResult⟩ := Except.bind_eq_ok isResult
  exact .of_made ((Sheet.WellFormed.ofRows accepted).nameColumnsByRow 0) isResult

theorem columnAt_framed
    {j : Nat}
    (inRange : j < sheet.width)
    (name : String) :
    (framed sheet name).columnAt j = framedCells (sheet.columnAt j) := by
  refine List.ext_getElem ?_ fun i inRows inColumn => ?_
  · simp [Sheet.columnAt, framed, length_framedCells, Sheet.rowCount]
  · rw [← List.getD_eq_getElem (framedCells (sheet.columnAt j)) .empty inColumn]
    simp only [Sheet.columnAt, framed, List.map_map, List.getElem_map,
      Function.comp_apply, List.getElem_range]
    rw [List.getD_eq_getElem _ _ (by simpa using inRange), List.getElem_map,
      List.getElem_range]

/-- A second time a sheet goes through a frame unchanged. -/
theorem framed_framed (sheet : Sheet) (name : String) :
    framed (framed sheet name) name = framed sheet name := by
  have rowCount : (framed sheet name).rowCount = sheet.rowCount := by
    simp [framed, Sheet.rowCount]
  have rows :
      (framed (framed sheet name) name).rows = (framed sheet name).rows := by
    show ((List.range (framed sheet name).rowCount).map fun i =>
      (List.range sheet.width).map fun j =>
        (framedCells ((framed sheet name).columnAt j)).getD i .empty) = _
    rw [rowCount]
    refine List.map_congr_left fun i _ => List.map_congr_left fun j inRange => ?_
    rw [columnAt_framed (List.mem_range.mp inRange),
      framedCells_of_ofOneType (ofOneType_framedCells _)]
  show (⟨name, (framed (framed sheet name) name).rows, _, _, _, _⟩ : Sheet) = _
  rw [rows]
  rfl

/--
A sheet with columns goes through a frame.

It comes out with as many rows and columns as it had and with its column names,
or numbered ones if it had none. Its columns of one type have the same cells; in
the others every cell that is not empty has become its display text. From then
on it goes through a frame unchanged.
-/
theorem frame_roundTrip
    (consistent : sheet.Consistent)
    (hasColumn : 0 < sheet.width)
    (name : String) :
    ∃ once,
      sheetOfFrame (frameOf sheet) name = .ok once ∧
        once.rowCount = sheet.rowCount ∧
        once.width = sheet.width ∧
        (∀ row ∈ once.rows, row.length = sheet.width) ∧
        once.columnNames =
          some (sheet.columnNames.getD
            ((List.range sheet.width).map fun j => s!"column_{j + 1}")) ∧
        (∀ j < sheet.width,
          (OfOneType (sheet.columnAt j) → once.columnAt j = sheet.columnAt j) ∧
            (¬OfOneType (sheet.columnAt j) →
              once.columnAt j = (sheet.columnAt j).map asText)) ∧
        sheetOfFrame (frameOf once) name = .ok once := by
  have made := sheetOfFrame_frameOf consistent hasColumn name
  have onceConsistent := (wellFormed_sheetOfFrame made).consistent
  refine ⟨framed sheet name, made, by simp [framed, Sheet.rowCount], rfl,
    onceConsistent.rectangular, rfl, fun j inRange => ?_, ?_⟩
  · rw [columnAt_framed inRange]
    exact ⟨framedCells_of_ofOneType, framedCells_of_not_ofOneType⟩
  · rw [sheetOfFrame_frameOf onceConsistent hasColumn, framed_framed]

/-- A sheet with a column of booleans and one of several types. -/
def votes : Sheet :=
  { name := "votes"
    rows :=
    [[.bool true, .text "ada"], [.empty, .bool false], [.bool false, .empty]]
    width := 2
    columnNames := none
    columnIndex := none
    rowIndex := none }

/-- The booleans stay, and the boolean between other texts becomes its word. -/
theorem frame_roundTrip_votes :
    ∃ once,
      sheetOfFrame (frameOf votes) "votes" = .ok once ∧
        once.columnNames = some ["column_1", "column_2"] ∧
        once.columnAt 0 = [.bool true, .empty, .bool false] ∧
        once.columnAt 1 = [.text "ada", .text "false", .empty] ∧
        sheetOfFrame (frameOf once) "votes" = .ok once := by
  have reachable : votes.Reachable :=
    .ofGrid [[.bool true, .string "ada"], [.null, .bool false],
      [.bool false, .null]] "votes" false
      0 rfl
  obtain ⟨once, made, -, -, -, names, columns, again⟩ :=
    frame_roundTrip reachable.wellFormed.consistent (by decide) "votes"
  have booleans : OfOneType (votes.columnAt 0) := by
    refine .inl ?_
    decide
  have mixed : ¬OfOneType (votes.columnAt 1) := by
    rintro (allBool | allNumber | allText)
    · exact absurd (allBool (.text "ada") (.head _) rfl) (by decide)
    · exact absurd (allNumber (.text "ada") (.head _) rfl) (by decide)
    · exact absurd (allText (.bool false) (.tail _ (.head _)) rfl) (by decide)
  exact ⟨once, made, names, (columns 0 (by decide)).1 booleans,
    (columns 1 (by decide)).2 mixed, again⟩

end GridScript.Table
