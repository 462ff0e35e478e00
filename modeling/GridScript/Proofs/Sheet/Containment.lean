import GridScript.Book.Consolidate
import GridScript.Files.Tables
import GridScript.Proofs.Value.Containment

namespace GridScript

/-!
# Sheets and books that stay within the number formats

Only two things about sheets can breach a number format: an integer that is
stored in a cell has to have a float, and the row of an address has to have few
enough digits. What a cell shows fits.
-/

open GridScript.Number

variable {admits : Breach → Prop}

/-! ## Cells -/

theorem Cell.narrow_toValue (cell : Cell) : cell.toValue.Narrow admits := by
  cases cell with
  | empty =>
      exact .null
  | bool b =>
      exact .bool b
  | number x =>
      show (Cell.numberValue x).Narrow admits
      unfold Cell.numberValue
      split
      · split
        next fits =>
          exact .int (.inl fits)
        next =>
          exact .float x
      · exact .float x
  | text s =>
      exact .string s
  | error tag =>
      exact .string tag.text

theorem Cell.ofValue_contained
    {v : Value}
    (narrow : v.Narrow admits) :
    Contained admits (fun _ => True) (Cell.ofValue v) := by
  cases narrow with
  | @int i fits =>
      have narrow : (Number.int i).Narrow admits := fits
      exact .liftBreach (narrow.toFloat.map fun _ _ => trivial)
  | array | sheet =>
      exact .fail _
  | _ =>
      exact .ok trivial

theorem cellsOf_contained
    {values : List Value}
    (narrow : ∀ v ∈ values, v.Narrow admits) :
    Contained admits (fun _ => True) (cellsOf values) :=
  (Meets.mapM values fun v member => Cell.ofValue_contained (narrow v member)).mono
    fun _ _ => trivial

/-! ## Addresses -/

/-- Every address with too many digits is admitted. -/
def AdmitsLongRows (admits : Breach → Prop) : Prop :=
  ∀ digits > maxIntDigits, admits (.longInteger digits)

theorem Address.parse_contained
    (admitted : AdmitsLongRows admits)
    (text : String) :
    Contained admits (fun _ => True) (Address.parse text) := by
  unfold Address.parse
  split
  · exact .fail _
  · split
    next tooMany =>
      exact .breach (admitted _ tooMany)
    next =>
      split
      · exact .fail _
      · exact .ok trivial

theorem Address.parseBlock_contained
    (admitted : AdmitsLongRows admits)
    (start finish : String) :
    Contained admits (fun _ => True) (Address.parseBlock start finish) :=
  (Address.parse_contained admitted start).bind fun (_, _) _ =>
    (Address.parse_contained admitted finish).bind fun (_, _) _ => .pure trivial

namespace Sheet

/-! ## Reading a sheet -/

variable (sheet : Sheet)

theorem checkRow_contained (row : Int) :
    Contained admits (fun _ => True) (sheet.checkRow row) := by
  unfold checkRow
  split
  · exact .ok trivial
  · exact .fail _

theorem checkColumn_contained (column : Int) :
    Contained admits (fun _ => True) (sheet.checkColumn column) := by
  unfold checkColumn
  split
  · exact .ok trivial
  · exact .fail _

theorem checkCell_contained (row column : Int) :
    Contained admits (fun _ => True) (sheet.checkCell row column) := by
  unfold checkCell
  split
  · exact .ok trivial
  · exact .fail _

theorem get_contained (row column : Int) :
    Contained admits (fun _ => True) (sheet.get row column) :=
  (sheet.checkCell_contained row column).bind fun (_, _) _ => .pure trivial

theorem row_contained (index : Int) :
    Contained admits (fun _ => True) (sheet.row index) :=
  (sheet.checkRow_contained index).bind fun _ _ => .pure trivial

theorem column_contained (index : Int) :
    Contained admits (fun _ => True) (sheet.column index) :=
  (sheet.checkColumn_contained index).bind fun _ _ => .pure trivial

theorem columnPosition_contained (name : String) :
    Contained admits (fun _ => True) (sheet.columnPosition name) := by
  unfold columnPosition
  split
  · exact .fail _
  · split
    · exact .ok trivial
    · exact .fail _

theorem rowPosition_contained (name : String) :
    Contained admits (fun _ => True) (sheet.rowPosition name) := by
  unfold rowPosition
  split
  · exact .fail _
  · split
    · exact .ok trivial
    · exact .fail _

theorem getByName_contained (row : Int) (name : String) :
    Contained admits (fun _ => True) (sheet.getByName row name) :=
  (sheet.columnPosition_contained name).bind fun _ _ => sheet.get_contained row _

theorem checkBlock_contained (block : Address.Block) :
    Contained admits (fun _ => True) (sheet.checkBlock block) :=
  (sheet.checkCell_contained _ _).bind fun _ _ =>
    (sheet.checkCell_contained _ _).bind fun _ _ => .pure trivial

theorem getAddress_contained
    (admitted : AdmitsLongRows admits)
    (address : String) :
    Contained admits (fun _ => True) (sheet.getAddress address) :=
  (Address.parse_contained admitted address).bind fun (_, _) _ =>
    sheet.get_contained _ _

theorem blockOf_contained
    (admitted : AdmitsLongRows admits)
    (range : String) :
    Contained admits (fun _ => True) (blockOf range) := by
  unfold blockOf
  split <;> exact Address.parseBlock_contained admitted _ _

theorem getRange_contained
    (admitted : AdmitsLongRows admits)
    (range : String) :
    Contained admits (fun _ => True) (sheet.getRange range) :=
  (blockOf_contained admitted range).bind fun _ _ =>
    (sheet.checkBlock_contained _).bind fun _ _ => .pure trivial

/-! ## Changing a sheet -/

omit sheet in
theorem set_contained
    {v : Value}
    (narrow : v.Narrow admits)
    (row column : Int) :
    Change.Contained admits (fun _ => True) (set row column v) :=
  (Upholds.ask fun sheet => sheet.checkCell_contained row column).bind
    fun (_, _) _ =>
      (Upholds.lift (Cell.ofValue_contained narrow)).bind fun _ _ =>
        .modify fun _ _ => trivial

theorem setAddress_contained
    {v : Value}
    (admitted : AdmitsLongRows admits)
    (narrow : v.Narrow admits)
    (address : String) :
    Change.Contained admits (fun _ => True) (setAddress address v) :=
  (Upholds.lift (Address.parse_contained admitted address)).bind fun (_, _) _ =>
    set_contained narrow _ _

theorem setByName_contained
    {v : Value}
    (narrow : v.Narrow admits)
    (row : Int)
    (name : String) :
    Change.Contained admits (fun _ => True) (setByName row name v) :=
  (Upholds.ask fun sheet => sheet.columnPosition_contained name).bind fun _ _ =>
    set_contained narrow _ _

theorem addColumnNames_contained
    (names : List String)
    (index : NameIndex)
    (position : Nat) :
    Contained admits (fun _ => True) (addColumnNames index position names) := by
  induction names generalizing index position with
  | nil =>
      exact .ok trivial
  | cons name rest inductionHypothesis =>
      unfold addColumnNames
      split
      · exact .fail _
      · exact inductionHypothesis _ _

theorem forgetRowNames_contained :
    Change.Contained admits (fun _ => True) forgetRowNames :=
  .modify fun _ _ => trivial

theorem nameColumnsByRow_contained (index : Int) :
    Change.Contained admits (fun _ => True) (nameColumnsByRow index) :=
  (Upholds.ask fun sheet => sheet.checkRow_contained index).bind fun _ _ =>
    (Upholds.look _).bind fun _ _ =>
      (Upholds.lift (addColumnNames_contained _ _ _)).bind fun _ _ =>
        (Upholds.modify fun _ _ => trivial).bind fun _ _ =>
          (Upholds.modify fun _ _ => trivial).bind fun _ _ =>
            forgetRowNames_contained

theorem withColumnNames_contained (names : List String) :
    Contained admits (fun _ => True) (sheet.withColumnNames names) := by
  refine Upholds.made ?_ sheet
  exact (Upholds.look _).bind fun _ _ => (Upholds.require _ _).bind fun _ _ =>
    (Upholds.lift (addColumnNames_contained _ _ _)).bind fun _ _ =>
      .modify fun _ _ => trivial

theorem nameRowsByColumn_contained (index : Int) :
    Change.Contained admits (fun _ => True) (nameRowsByColumn index) :=
  (Upholds.ask fun sheet => sheet.column_contained index).bind fun _ _ =>
    .modify fun _ _ => trivial

theorem appendRow_contained
    {values : List Value}
    (narrow : ∀ v ∈ values, v.Narrow admits) :
    Change.Contained admits (fun _ => True) (appendRow values) := by
  have fits (length : Nat) :
      Change.Contained admits (fun _ => True) (fitRow length) := by
    refine (Upholds.look _).bind fun _ _ => (Upholds.look _).bind fun _ _ => ?_
    split
    · exact .modify fun _ _ => trivial
    · exact .require _ _
  have row : Change.Contained admits (fun _ => True) (newRow values) :=
    (Upholds.lift (cellsOf_contained narrow)).bind fun _ _ =>
      (fits _).bind fun _ _ => .pure trivial
  exact row.bind fun _ _ => .modify fun _ _ => trivial

theorem removeEmptyRows_contained :
    Change.Contained admits (fun _ => True) removeEmptyRows := by
  refine (Upholds.look _).bind fun kept _ =>
    (Upholds.look _).bind fun removed _ => ?_
  have keeps : Change.Contained admits (fun _ => True) (keepRows kept removed) := by
    unfold keepRows
    split
    · exact .pure trivial
    · exact (Upholds.modify fun _ _ => trivial).bind fun _ _ =>
        forgetRowNames_contained
  exact keeps.bind fun _ _ => .pure trivial

theorem append_contained (other : Sheet) :
    Change.Contained admits (fun _ => True) (append other) := by
  have stacked (rows : List (List Cell)) :
      Change.Contained admits (fun _ => True) (stackRows rows) :=
    .modify fun _ _ => trivial
  have byName (names otherNames : List String) (rows : List (List Cell)) :
      Change.Contained admits (fun _ => True)
        (stackByName names otherNames rows) := by
    refine (Upholds.forM _ fun name _ => ?_).bind fun _ _ =>
      Upholds.forM _ fun row _ => stacked _
    exact (Upholds.ask fun sheet => sheet.columnPosition_contained name).bind
      fun _ _ =>
        .pure trivial
  have byPosition (width : Nat) (rows : List (List Cell)) :
      Change.Contained admits (fun _ => True) (stackByPosition width rows) :=
    (Upholds.look _).bind fun _ _ => (Upholds.look _).bind fun _ _ =>
      (Upholds.require _ _).bind fun _ _ =>
        (Upholds.modify fun _ _ => trivial).bind fun _ _ => stacked _
  refine (Upholds.look _).bind fun columnNames _ => ?_
  split
  · exact (byName _ _ _).bind fun _ _ => forgetRowNames_contained
  · exact (byPosition _ _).bind fun _ _ => forgetRowNames_contained

/-! ## Making a sheet -/

theorem ofRows_contained (rows : List (List Cell)) (name : String) (columns : Nat) :
    Contained admits (fun _ => True) (ofRows rows name columns) := by
  unfold ofRows
  dsimp only
  split
  · exact .fail _
  · exact .ok trivial

theorem ofGrid_contained
    {grid : List (List Value)}
    (narrow : ∀ row ∈ grid, ∀ v ∈ row, v.Narrow admits)
    (name : String)
    (header : Bool)
    (columns : Nat) :
    Contained admits (fun _ => True) (ofGrid grid name header columns) := by
  refine
    (Meets.mapM grid fun row member => cellsOf_contained (narrow row member)).bind
    fun rows _ => (ofRows_contained rows name columns).bind fun sheet _ => ?_
  split
  · exact Upholds.made (nameColumnsByRow_contained 0) _
  · exact .ok trivial

theorem selectColumns_contained (names : List String) :
    Contained admits (fun _ => True) (sheet.selectColumns names) :=
  (Meets.mapM names fun name _ => sheet.columnPosition_contained name).bind
    fun _ _ =>
      withColumnNames_contained _ names

theorem removeColumns_contained (names : List String) :
    Contained admits (fun _ => True) (sheet.removeColumns names) :=
  (Meets.mapM names fun name _ => sheet.columnPosition_contained name).bind
    fun _ _ =>
      sheet.selectColumns_contained _

end Sheet

/-- A stored frame has cells already. -/
theorem Files.readFrame_contained
    (files : Files)
    (path : String)
    (name : Option String) :
    Contained admits (fun _ => True) (files.readFrame path name) :=
  (Meets.liftError (Meets.any _)).bind fun _ _ =>
    (Sheet.ofRows_contained _ _ _).bind fun sheet _ =>
      Upholds.made (Sheet.nameColumnsByRow_contained 0) sheet

namespace Book

/-! ## Books -/

variable (book : Book)

theorem get_contained (name : String) :
    Contained admits (fun _ => True) (book.get name) := by
  unfold get
  split
  · exact .ok trivial
  · exact .fail _

theorem getByIndex_contained (index : Int) :
    Contained admits (fun _ => True) (book.getByIndex index) := by
  unfold getByIndex
  dsimp only
  split
  · exact .ok trivial
  · exact .fail _

theorem ref_contained (name : String) :
    Contained admits (fun _ => True) (book.ref name) :=
  (book.get_contained name).bind fun _ _ => .pure trivial

theorem resolve_contained (ref : SheetRef) :
    Contained admits (fun _ => True) (book.resolve ref) := by
  unfold resolve
  split
  · exact book.get_contained ref.name
  · exact .fail _

theorem add_contained (name : String) (sheet : Sheet) :
    Change.Contained admits (fun _ => True) (add name sheet) :=
  (Upholds.look _).bind fun _ _ => (Upholds.require _ _).bind fun _ _ =>
    (Upholds.modify fun _ _ => trivial).bind fun _ _ =>
      (Upholds.modify fun _ _ => trivial).bind fun _ _ => .look _

theorem setActive_contained (name : String) :
    Change.Contained admits (fun _ => True) (setActive name) :=
  (Upholds.ask fun book => book.get_contained name).bind fun _ _ =>
    .modify fun _ _ => trivial

theorem replace_contained (name : String) (sheet : Sheet) :
    Change.Contained admits (fun _ => True) (replace name sheet) :=
  (Upholds.ask fun book => book.get_contained name).bind fun _ _ =>
    .modify fun _ _ => trivial

theorem remove_contained (name : String) :
    Change.Contained admits (fun _ => True) (remove name) :=
  (Upholds.ask fun book => book.get_contained name).bind fun _ _ =>
    (Upholds.modify fun _ _ => trivial).bind fun _ _ =>
      (Upholds.modify fun _ _ => trivial).bind fun _ _ => .pure trivial

theorem renameSheet_contained (old new : String) :
    Change.Contained admits (fun _ => True) (renameSheet old new) :=
  (Upholds.ask fun book => book.get_contained old).bind fun _ _ =>
    (Upholds.look _).bind fun _ _ => (Upholds.require _ _).bind fun _ _ =>
      (Upholds.modify fun _ _ => trivial).bind fun _ _ =>
        (Upholds.modify fun _ _ => trivial).bind fun _ _ =>
          (Upholds.modify fun _ _ => trivial).bind fun _ _ => .look _

theorem merge_contained (other : Book) :
    Change.Contained admits (fun _ => True) (merge other) := by
  refine (Upholds.forM _ fun name _ => ?_).bind fun _ _ =>
    Upholds.forM _ fun entry _ => ?_
  · exact (Upholds.look _).bind fun _ _ => .require _ _
  · exact (add_contained _ _).bind fun _ _ => .pure trivial

theorem consolidate_contained (name : String) :
    Contained admits (fun _ => True) (book.consolidate name) := by
  unfold consolidate
  split
  · exact .ok trivial
  · next first rest _ =>
    have base : Contained admits (fun _ => True) (stackBase name first) := by
      unfold stackBase
      split
      · refine Sheet.ofGrid_contained (fun row member v inRow => ?_) _ _ _
        rw [List.mem_singleton.mp member] at inRow
        obtain ⟨text, _, rfl⟩ := List.mem_map.mp inRow
        exact .string text
      · exact .ok trivial
    refine base.bind fun base _ =>
      Upholds.made (Upholds.forM _ fun sheet _ => ?_) base
    exact (Upholds.require _ _).bind fun _ _ => Sheet.append_contained sheet

end Book

end GridScript
