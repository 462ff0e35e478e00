import GridScript.Proofs.Book.Invariant
import GridScript.Proofs.Sheet.Columns
import Mathlib.Algebra.GroupWithZero.Nat

namespace GridScript.Book

/-!
# Consolidation

The sheets of a book are stacked one after another onto a base that has the
column names of the first sheet, if it has any. What has been stacked so far is
again such a base, so each sheet is accepted or refused by comparing it with
the first one alone.
-/

/-- A sheet fits below the first one: its column names are among those of the
first one, or, if one of the two has no column names, both have the same width. -/
def Stackable (first sheet : Sheet) : Prop :=
  match first.columnNames, sheet.columnNames with
  | some names, some own => own ⊆ names
  | _, _ => sheet.width = first.width

/-- The rows of a sheet as they are laid out below the first one. -/
def laidOut (first sheet : Sheet) : List (List Cell) :=
  match first.columnNames, sheet.columnNames with
  | some names, some own => sheet.rows.map (Sheet.alignRow names own)
  | _, _ => sheet.rows

/-- What some sheets have been stacked into. Without column names the first of
them sets the width. -/
def stack (name : String) (first : Sheet) (sheets : List Sheet) : Sheet where
  name := name
  rows := sheets.flatMap (laidOut first)
  width := if first.columnNames = none ∧ sheets = [] then 0 else first.width
  columnNames := first.columnNames
  columnIndex := first.columnIndex
  rowIndex := none

section

variable {first sheet : Sheet} {names own : List String}

theorem stackable_named
    (named : first.columnNames = some names)
    (ownNamed : sheet.columnNames = some own) :
    Stackable first sheet ↔ own ⊆ names := by
  simp only [Stackable, named, ownNamed]

theorem stackable_unnamed
    (unnamed : first.columnNames = none ∨ sheet.columnNames = none) :
    Stackable first sheet ↔ sheet.width = first.width := by
  unfold Stackable
  split
  · simp_all
  · rfl

theorem laidOut_named
    (named : first.columnNames = some names)
    (ownNamed : sheet.columnNames = some own) :
    laidOut first sheet = sheet.rows.map (Sheet.alignRow names own) := by
  simp only [laidOut, named, ownNamed]

theorem laidOut_unnamed
    (unnamed : first.columnNames = none ∨ sheet.columnNames = none) :
    laidOut first sheet = sheet.rows := by
  unfold laidOut
  split
  · simp_all
  · rfl

end

theorem length_laidOut (first sheet : Sheet) :
    (laidOut first sheet).length = sheet.rowCount := by
  unfold laidOut
  split <;> simp [Sheet.rowCount]

/-- A header of different names makes a sheet without rows whose
columns have the names. -/
theorem ofGrid_header
    {names : List String}
    (nodup : names.Nodup)
    (name : String) :
    Sheet.ofGrid [names.map .string] name true 0 =
      .ok ⟨name, [], names.length, some names, some names.zipIdx, none⟩ := by
  have texts : cellsOf (names.map .string) = .ok (names.map .text) := by
    unfold cellsOf
    rw [List.mapM_map]
    exact Except.mapM_of_forall_ok fun _ _ => rfl
  have cells : [names.map Value.string].mapM cellsOf = .ok [names.map .text] := by
    rw [List.mapM_cons, texts]
    rfl
  let header : Sheet := ⟨name, [names.map .text], names.length, none, none, none⟩
  have accepted : Sheet.ofRows [names.map .text] name 0 = .ok header := by
    simp [Sheet.ofRows, Sheet.ofCells, header]
  have shown : (header.rows.getD 0 []).map Cell.display = names := by
    simp [header, Function.comp_def, Cell.display]
  have named :
      Achieves (Sheet.nameColumnsByRow 0) header fun _ after => after = _ :=
    Sheet.nameColumnsByRow_achieves (i := 0) rfl (by rwa [shown])
  unfold Sheet.ofGrid
  rw [cells]
  show (Sheet.ofRows [names.map .text] name 0 >>= _) = _
  rw [accepted]
  show Change.made header (Sheet.nameColumnsByRow 0) = _
  rw [named.made, shown]
  rfl

/-- The base has the column names of the first sheet. -/
theorem stackBase_eq
    {first : Sheet}
    (wellFormed : first.WellFormed)
    (name : String) :
    stackBase name first = .ok (stack name first []) := by
  unfold stackBase
  cases named : first.columnNames with
  | none =>
      have columns := wellFormed.columns
      rw [named] at columns
      cases index : first.columnIndex with
      | none =>
          simp [stack, named, index, Sheet.empty]
      | some positions =>
          rw [index] at columns
          cases columns
  | some names =>
      obtain ⟨length, nodup, index⟩ := wellFormed.columnNames_eq named
      simp only [ofGrid_header nodup]
      simp [stack, named, index, length]

/-! ## One sheet after another -/

variable {first sheet : Sheet} (wellFormed : first.WellFormed) (name : String)

/-- As soon as the width is settled it is that of the first sheet. -/
theorem width_stack_of_isSized
    {sheets : List Sheet}
    (sized : (stack name first sheets).isSized = true) :
    (stack name first sheets).width = first.width := by
  by_cases fresh : first.columnNames = none ∧ sheets = []
  · simp [Sheet.isSized, stack, fresh] at sized
  · simp [stack, fresh]

include wellFormed

/-- What fits the first sheet is stacked below those that have been stacked. -/
theorem stacks_of_stackable
    (stackable : Stackable first sheet)
    (sheets : List Sheet) :
    Sheet.Stacks (stack name first sheets) sheet
      (stack name first (sheets ++ [sheet])) := by
  by_cases unnamed : first.columnNames = none ∨ sheet.columnNames = none
  · have width := (stackable_unnamed unnamed).mp stackable
    have shape :
        stack name first (sheets ++ [sheet]) =
          { (stack name first sheets).withRows
            ((stack name first sheets).rows ++ sheet.rows) with
            width := sheet.width } := by
      simp [stack, Sheet.withRows, laidOut_unnamed unnamed, width]
    rw [shape]
    exact .byPosition unnamed fun sized =>
      width.trans (width_stack_of_isSized name sized).symm
  · rw [not_or] at unnamed
    obtain ⟨names, named⟩ := Option.ne_none_iff_exists'.mp unnamed.1
    obtain ⟨own, ownNamed⟩ := Option.ne_none_iff_exists'.mp unnamed.2
    have shape :
        stack name first (sheets ++ [sheet]) =
          (stack name first sheets).withRows
            ((stack name first sheets).rows ++
              sheet.rows.map (Sheet.alignRow names own)) := by
      simp [stack, Sheet.withRows, laidOut_named named ownNamed, named]
    rw [shape]
    refine .byName named ownNamed fun column member => ?_
    have subset := (stackable_named named ownNamed).mp stackable
    exact ⟨_, wellFormed.columnPosition_of_mem named (subset member)⟩

/-- What is stacked fits the first sheet. -/
theorem stackable_of_stacks
    {sheets : List Sheet}
    {after : Sheet}
    (sameWidth : first.columnNames = none → sheet.width = first.width)
    (stacked : Sheet.Stacks (stack name first sheets) sheet after) :
    Stackable first sheet := by
  cases stacked with
  | byName named ownNamed found =>
      refine
        (stackable_named (show first.columnNames = _ from named) ownNamed).mpr ?_
      intro column member
      obtain ⟨j, position⟩ := found column member
      exact wellFormed.mem_of_columnPosition named position
  | byPosition unnamed fits =>
      refine
        (stackable_unnamed (show first.columnNames = none ∨ _ from unnamed)).mpr ?_
      cases named : first.columnNames with
      | none =>
          exact sameWidth named
      | some names =>
          have sized : (stack name first sheets).isSized = true := by
            simp [Sheet.isSized, stack, named]
          exact (fits sized).trans (width_stack_of_isSized name sized)

/-- One more sheet is accepted if it fits the first one. -/
theorem stackOne_eq_ok_iff
    (sheets : List Sheet)
    {after : Sheet} :
    stackOne first sheet (stack name first sheets) = .ok () after ↔
      Stackable first sheet ∧ after = stack name first (sheets ++ [sheet]) := by
  have accepted (stackable : Stackable first sheet) :
      Achieves (stackOne first sheet) (stack name first sheets) fun _ after =>
        after = stack name first (sheets ++ [sheet]) := by
    refine .require_bind (fun unnamed => ?_)
      (Sheet.append_achieves (stacks_of_stackable wellFormed name stackable sheets))
    exact (stackable_unnamed (.inl unnamed)).mp stackable
  have commits :
      Commits (stackOne first sheet) (stack name first sheets) fun _ _ =>
        Stackable first sheet := by
    refine (Commits.require _ _ _).read fun _ sameWidth => ?_
    exact (Sheet.append_commits sheet _).mono fun _ _ stacked =>
      stackable_of_stacks wellFormed name sameWidth stacked
  constructor
  · intro ran
    have stackable := commits.of_ok ran
    obtain ⟨_, _, ranSo, rfl⟩ := accepted stackable
    rw [ranSo] at ran
    cases ran
    exact ⟨stackable, rfl⟩
  · rintro ⟨stackable, rfl⟩
    obtain ⟨_, _, ran, rfl⟩ := accepted stackable
    exact ran

/-- Sheets are accepted if they all fit the first one. -/
theorem forM_stackOne_eq_ok_iff
    {earlier later : List Sheet}
    {after : Sheet} :
    later.forM (stackOne first) (stack name first earlier) = .ok () after ↔
      (∀ sheet ∈ later, Stackable first sheet) ∧
        after = stack name first (earlier ++ later) := by
  induction later generalizing earlier with
  | nil =>
      rw [List.append_nil]
      constructor
      · intro ran
        cases ran
        exact ⟨by simp, rfl⟩
      · rintro ⟨_, rfl⟩
        rfl
  | cons sheet rest inductionHypothesis =>
      rw [List.forall_mem_cons, List.append_cons, and_assoc]
      constructor
      · intro ran
        obtain ⟨_, between, ranFirst, ranRest⟩ := Change.bind_eq_ok ran
        obtain ⟨stackable, rfl⟩ :=
          (stackOne_eq_ok_iff wellFormed name earlier).mp ranFirst
        exact ⟨stackable, inductionHypothesis.mp ranRest⟩
      · rintro ⟨stackable, rest⟩
        have ranFirst :=
          (stackOne_eq_ok_iff wellFormed name earlier).mpr ⟨stackable, rfl⟩
        exact (Change.bind_of_ok ranFirst).trans (inductionHypothesis.mpr rest)

/-- A book is consolidated if all its sheets fit the first one. -/
theorem consolidate_eq_ok_iff
    {book : Book}
    {rest : List Sheet}
    (shape : book.sheets = first :: rest)
    {result : Sheet} :
    book.consolidate name = .ok result ↔
      (∀ sheet ∈ book.sheets, Stackable first sheet) ∧
        result = stack name first book.sheets := by
  unfold consolidate
  rw [shape]
  simp only [stackBase_eq wellFormed name]
  show Change.made (stack name first []) ((first :: rest).forM (stackOne first)) =
    _ ↔ _
  rw [Change.made_eq_ok_iff]
  exact forM_stackOne_eq_ok_iff wellFormed name

omit wellFormed

/-! ## What the new sheet holds -/

/-- The rows of a sheet come after those of all earlier sheets. -/
theorem getElem?_rows_stack
    (earlier later : List Sheet)
    {i : Nat}
    (inRange : i < sheet.rowCount) :
    (stack name first
        (earlier ++ sheet :: later)).rows[(earlier.map Sheet.rowCount).sum + i]? =
      (laidOut first sheet)[i]? := by
  have before :
      (earlier.flatMap (laidOut first)).length =
        (earlier.map Sheet.rowCount).sum := by
    simp [List.length_flatMap, length_laidOut]
  have inLaidOut : i < (laidOut first sheet).length := by
    rwa [length_laidOut]
  simp only [stack, List.flatMap_append, List.flatMap_cons]
  rw [← before, List.getElem?_append_right (Nat.le_add_right ..),
    Nat.add_sub_cancel_left, List.getElem?_append_left inLaidOut]

/-- A sheet holds the rows of some sheets in order, laid out below the first one. -/
structure Consolidates (sheets : List Sheet) (first result : Sheet) : Prop where
  columnNames : result.columnNames = first.columnNames
  width : result.width = first.width
  rowCount : result.rowCount = (sheets.map Sheet.rowCount).sum
  /-- Between sheets with column names, a row keeps its cells under their names
  and is empty under all other names. -/
  byName :
    ∀ earlier sheet later names own,
      sheets = earlier ++ sheet :: later →
      first.columnNames = some names →
      sheet.columnNames = some own →
        ∀ i < sheet.rowCount, ∀ column ∈ names,
          result.getByName ((earlier.map Sheet.rowCount).sum + i : Nat) column =
            if column ∈ own then sheet.getByName i column else .ok .empty
  /-- All other rows are carried over. -/
  byPosition :
    ∀ earlier sheet later,
      sheets = earlier ++ sheet :: later →
      first.columnNames = none ∨ sheet.columnNames = none →
        ∀ i < sheet.rowCount,
          result.row ((earlier.map Sheet.rowCount).sum + i : Nat) = sheet.row i

/-- Sheets that fit the first one are stacked into one that holds their rows. -/
theorem consolidates_stack
    {sheets : List Sheet}
    (wellFormed : ∀ sheet ∈ sheets, sheet.WellFormed)
    (isFirst : first ∈ sheets)
    (name : String) :
    Consolidates sheets first (stack name first sheets) where
  columnNames := rfl
  width := by
    simp [stack, List.ne_nil_of_mem isFirst]
  rowCount := by
    show (sheets.flatMap (laidOut first)).length = _
    simp only [List.length_flatMap, length_laidOut]
  byName earlier sheet later names own shape named ownNamed i inRange column
    member := by
    have isSheet : sheet ∈ sheets := by simp [shape]
    obtain ⟨ownLength, _, _⟩ := (wellFormed sheet isSheet).columnNames_eq ownNamed
    obtain ⟨length, _, _⟩ := (wellFormed first isFirst).columnNames_eq named
    obtain ⟨row, held⟩ : ∃ row, sheet.rows[i]? = some row :=
      ⟨_, List.getElem?_eq_getElem inRange⟩
    have rowLength : row.length = own.length := by
      rw [ownLength]
      exact (wellFormed sheet isSheet).rectangular row (List.mem_of_getElem? held)
    have inWidth : names.idxOf column < names.length :=
      List.idxOf_lt_length_of_mem member
    have laid :
        (stack name first sheets).rows[(earlier.map Sheet.rowCount).sum + i]? =
          some (Sheet.alignRow names own row) := by
      rw [shape, getElem?_rows_stack name earlier later inRange,
        laidOut_named named ownNamed, List.getElem?_map, held]
      rfl
    have position :
        (stack name first sheets).columnPosition column =
          .ok (names.idxOf column) :=
      (wellFormed first isFirst).columnPosition_of_mem named member
    have inResult : names.idxOf column < (stack name first sheets).width := by
      simpa [stack, named, ← length] using inWidth
    have cell :
        (Sheet.alignRow names own row).getD (names.idxOf column) .empty =
          row[own.idxOf column]?.getD .empty := by
      simp [Sheet.alignRow, inWidth, lookup_zip rowLength]
    rw [Sheet.getByName_eq_ok position inResult laid, cell]
    split
    · rename_i inOwn
      have ownPosition :=
        (wellFormed sheet isSheet).columnPosition_of_mem ownNamed inOwn
      have inOwnWidth : own.idxOf column < sheet.width :=
        ownLength ▸ List.idxOf_lt_length_of_mem inOwn
      rw [Sheet.getByName_eq_ok ownPosition inOwnWidth held,
        List.getD_eq_getElem?_getD]
    · rename_i notInOwn
      rw [List.idxOf_eq_length notInOwn, ← rowLength]
      simp
  byPosition earlier sheet later shape unnamed i inRange := by
    have held : sheet.rows[i]? = some sheet.rows[i] :=
      List.getElem?_eq_getElem inRange
    have laid :
        (stack name first sheets).rows[(earlier.map Sheet.rowCount).sum + i]? =
          some sheet.rows[i] := by
      rw [shape, getElem?_rows_stack name earlier later inRange,
        laidOut_unnamed unnamed, held]
    rw [Sheet.row_eq_ok laid, Sheet.row_eq_ok held]

/--
The sheets of a book are stacked into a new sheet exactly if they all
fit the first one. The new sheet then holds their rows in order, and the
book is as before.
-/
theorem consolidate_consolidates
    {book : Book}
    {first : Sheet}
    {rest : List Sheet}
    (shape : book.sheets = first :: rest)
    (reachable : ∀ sheet ∈ book.sheets, sheet.Reachable)
    (name : String) :
    ((∃ result, book.consolidate name = .ok result) ↔
      ∀ sheet ∈ book.sheets, Stackable first sheet) ∧
      (∀ result,
        book.consolidate name = .ok result →
          Consolidates book.sheets first result) ∧
      book.served (.consolidate name) = book := by
  have isFirst : first ∈ book.sheets := by simp [shape]
  have wellFormed : ∀ sheet ∈ book.sheets, sheet.WellFormed :=
    fun sheet member => (reachable sheet member).wellFormed
  refine ⟨⟨?_, fun stackable => ?_⟩, fun result isResult => ?_, ?_⟩
  · rintro ⟨result, isResult⟩
    exact
      ((consolidate_eq_ok_iff (wellFormed first isFirst) name shape).mp isResult).1
  · exact ⟨_,
      (consolidate_eq_ok_iff (wellFormed first isFirst) name shape).mpr
        ⟨stackable, rfl⟩⟩
  · obtain ⟨_, rfl⟩ :=
      (consolidate_eq_ok_iff (wellFormed first isFirst) name shape).mp isResult
    exact consolidates_stack wellFormed isFirst name
  · have reads : Reads (Request.consolidate name).change :=
      (Keeps.ask _).bind fun _ => .pure ()
    exact (reads book).symm

/-- Sales with prices. -/
def firstQuarter : Sheet where
  name := "q1"
  rows := [[.text "ink", .text "9"], [.text "pen", .text "5"]]
  width := 2
  columnNames := some ["item", "price"]
  columnIndex := some [("item", 0), ("price", 1)]
  rowIndex := none

/-- Sales without prices. -/
def secondQuarter : Sheet where
  name := "q2"
  rows := [[.text "nib"]]
  width := 1
  columnNames := some ["item"]
  columnIndex := some [("item", 0)]
  rowIndex := none

/-- Sales in columns without names. -/
def notes : Sheet where
  name := "notes"
  rows := [[.text "cap", .text "2"]]
  width := 2
  columnNames := none
  columnIndex := none
  rowIndex := none

/-- The book of all sales. -/
def sales : Book :=
  ⟨1, "Sales", [("q1", firstQuarter), ("q2", secondQuarter), ("notes", notes)],
    some "q1"⟩

/-- The sales are stacked; an item without a price has an empty one. -/
theorem consolidate_consolidates_sales :
    ∃ result,
      sales.consolidate "All" = .ok result ∧
        result.rowCount = 4 ∧
        result.getByName 2 "item" = .ok (.text "nib") ∧
        result.getByName 2 "price" = .ok .empty ∧
        result.row 3 = .ok [.text "cap", .text "2"] := by
  have firstReachable : firstQuarter.Reachable :=
    .ofRecords
      [[("item", .string "ink"), ("price", .string "9")],
        [("item", .string "pen"), ("price", .string "5")]] "q1" rfl
  have secondReachable : secondQuarter.Reachable :=
    .ofRecords [[("item", .string "nib")]] "q2" rfl
  have notesReachable : notes.Reachable :=
    .ofGrid [[.string "cap", .string "2"]] "notes" false 0 rfl
  have shape : sales.sheets = [firstQuarter, secondQuarter, notes] := rfl
  have reachable : ∀ sheet ∈ sales.sheets, sheet.Reachable := by
    simp [shape, firstReachable, secondReachable, notesReachable]
  obtain ⟨succeeds, holds, _⟩ := consolidate_consolidates shape reachable "All"
  have firstStackable : Stackable firstQuarter firstQuarter :=
    (stackable_named rfl rfl).mpr (by decide)
  have secondStackable : Stackable firstQuarter secondQuarter :=
    (stackable_named rfl rfl).mpr (by decide)
  have notesStackable : Stackable firstQuarter notes :=
    (stackable_unnamed (.inr rfl)).mpr rfl
  obtain ⟨result, isResult⟩ := succeeds.mpr (by
    simp [shape, firstStackable, secondStackable, notesStackable])
  have consolidated := holds result isResult
  refine ⟨result, isResult, consolidated.rowCount, ?_, ?_, ?_⟩
  · exact consolidated.byName [firstQuarter] secondQuarter [notes] _ _ rfl rfl rfl 0
      (by decide) "item" (by decide)
  · exact consolidated.byName [firstQuarter] secondQuarter [notes] _ _ rfl rfl rfl 0
      (by decide) "price" (by decide)
  · exact consolidated.byPosition [firstQuarter, secondQuarter] notes []
      rfl (.inr rfl) 0 (by decide)

end GridScript.Book
