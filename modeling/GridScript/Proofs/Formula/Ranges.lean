import GridScript.Formula.SheetReference
import GridScript.Proofs.Sheet.Blocks
import GridScript.Proofs.Sheet.Reachable

namespace GridScript

/-!
# Ranges in formulas

A formula reads a range position by position and gives each cell its value; a
sheet cuts the same block out of its rows. Both refuse the same addresses and
the same corners, and where they do not, the formula has the values of the cells
of the block, or fails with the first error among them.
-/

/-- The error that a cell holds. -/
def Cell.errorTag? : Cell → Option ErrorTag
  | .error tag => some tag
  | _ => none

/-- The first error in rows of cells, row by row. -/
def firstError? (cells : List (List Cell)) : Option ErrorTag :=
  cells.findSome? fun row => row.findSome? Cell.errorTag?

namespace Formula

open Sheet

variable
  {current sheet : Sheet}
  {book : Option Book}
  {name : Option String}
  {start finish : String}
  {block : Address.Block}
  {n m : Nat}

theorem cellValue_eq_elim
    (place : String)
    (cell : Cell) :
    cellValue place cell =
      cell.errorTag?.elim (.ok cell.toValue) fun tag =>
        .error (.error (.errorCell place tag)) := by
  cases cell <;> rfl

/-- The values of rows of cells read at a place, or the first error among them. -/
def valuesAt (place : String) (cells : List (List Cell)) : Evaluated :=
  match firstError? cells with
  | none => .ok (.array (cells.map fun row => .array (row.map Cell.toValue)))
  | some tag => fail (.errorCell place tag)

theorem mapM_cellValue
    (place : String)
    (cells : List (List Cell)) :
    ((cells.mapM fun row => row.mapM (cellValue place)) >>= fun rows =>
        .ok (.array (rows.map .array))) = valuesAt place cells := by
  have ofRow := Except.mapM_eq_findSome? (cellValue_eq_elim place)
  rw [Except.mapM_eq_findSome? ofRow]
  unfold valuesAt firstError?
  cases cells.findSome? fun row => row.findSome? Cell.errorTag? with
  | none =>
      simp only [Option.elim_none, Except.ok_bind, List.map_map, Function.comp_def]
  | some tag =>
      rfl

/-- A range is read position by position, as its block is cut out of the sheet. -/
theorem resolverOn_range
    (target : targetSheet current book name = .ok sheet)
    (rectangular : ∀ row ∈ sheet.rows, row.length = sheet.width)
    (parsed : Address.parseBlock start finish = .ok block)
    (someRow : 1 ≤ n)
    (someColumn : 1 ≤ m)
    (spans : sheet.Spans block n m) :
    resolverOn current book (.range name start finish) =
      (((sheet.block block).mapM fun row =>
          row.mapM (cellValue (start ++ ":" ++ finish))) >>=
        fun rows => .ok (.array (rows.map .array))) := by
  have read := spans.mapM_get rectangular fun result =>
    unresolvedIn (.range name start finish) result >>=
      cellValue (start ++ ":" ++ finish)
  simp only [resolverOn, target, parsed]
  show (unresolvedIn _ (sheet.checkBlock block) >>= fun _ => _) = _
  rw [spans.checkBlock_eq someRow someColumn]
  show ((block.rows.mapM fun (row : Nat) => block.columns.mapM fun (column : Nat) =>
    unresolvedIn _ (sheet.get row column) >>=
      cellValue (start ++ ":" ++ finish)) >>= fun _ => _) = _
  rw [read]
  rfl

/-- What a sheet and a formula read from a range with two addresses. -/
inductive ReadAlike
    (sheet : Sheet)
    (start finish :
      String) : Outcome SheetError (List (List Cell)) → Evaluated → Prop where
  /-- Both fail with what is wrong with the first bad address. -/
  | badAddress
      {failure : Failure SheetError}
      (bad :
        Address.parse start = .error failure ∨
          (∃ corner, Address.parse start = .ok corner) ∧
            Address.parse finish = .error failure) :
      ReadAlike sheet start finish (.error failure)
        (.error (failure.map (.unresolved (.range none start finish))))
  /-- Both fail for the first corner beyond the sheet. -/
  | beyond
      {row column row' column' : Nat}
      {corner : Nat × Nat}
      (starts : Address.parse start = .ok (row, column))
      (finishes : Address.parse finish = .ok (row', column'))
      (outside :
        ¬(max row row' < sheet.rowCount ∧ max column column' < sheet.width))
      (isCorner :
        corner = (min row row', min column column') ∨
          corner = (max row row', max column column')) :
      ReadAlike sheet start finish
        (fail (.cellBounds corner.1 corner.2 sheet.rowCount sheet.width))
        (fail (.unresolved (.range none start finish)
          (.cellBounds corner.1 corner.2 sheet.rowCount sheet.width)))
  /-- Both read the block between the corners. -/
  | within
      {row column row' column' : Nat}
      {cells : List (List Cell)}
      (starts : Address.parse start = .ok (row, column))
      (finishes : Address.parse finish = .ok (row', column'))
      (inRows : max row row' < sheet.rowCount)
      (inColumns : max column column' < sheet.width)
      (isBlock :
        sheet.IsBlock (min row row') (min column column')
          (((row' : Int) - row).natAbs + 1)
          (((column' : Int) - column).natAbs + 1) cells) :
      ReadAlike sheet start finish (.ok cells)
        (valuesAt (start ++ ":" ++ finish) cells)

/-- A range whose block is not read is refused alike. -/
theorem resolverOn_range_of_error
    {failure : Failure SheetError}
    (bad :
      (Address.parseBlock start finish >>= fun block => sheet.checkBlock block) =
        .error failure) :
    resolverOn sheet book (.range none start finish) =
      .error (failure.map (.unresolved (.range none start finish))) := by
  cases parsed : Address.parseBlock start finish with
  | error other =>
      rw [parsed] at bad
      cases bad
      simp only [resolverOn, targetSheet, parsed]
      rfl
  | ok block =>
      rw [parsed, Except.ok_bind] at bad
      simp only [resolverOn, targetSheet, parsed]
      show (unresolvedIn _ (sheet.checkBlock block) >>= fun _ => _) = _
      rw [bad]
      rfl

/--
A sheet and a formula read the same block from a range with two addresses, in
whatever order they are given: they refuse the same addresses and the same
corners, and where they do not, the formula has the values of the cells or fails
with the first error among them.
-/
theorem range_readAlike
    (consistent : sheet.Consistent)
    (book : Option Book)
    (someStart : start ≠ "")
    (someFinish : finish ≠ "")
    (plainStart : ':' ∉ start.toList)
    (plainFinish : ':' ∉ finish.toList) :
    ReadAlike sheet start finish
        (sheet.getRange (start ++ ":" ++ finish))
        (resolverOn sheet book (.range none start finish)) ∧
      ∀ corner corner',
        Address.parse start = .ok corner →
          Address.parse finish = .ok corner' →
            sheet.getRange (finish ++ ":" ++ start) =
              sheet.getRange (start ++ ":" ++ finish) := by
  constructor
  · rw [getRange_pair plainStart someFinish]
    cases parsed : Address.parseBlock start finish with
    | error failure =>
        rw [resolverOn_range_of_error (by rw [parsed]; rfl)]
        exact .badAddress (Address.parse_of_parseBlock_error parsed)
    | ok block =>
        obtain ⟨⟨row, column⟩, ⟨row', column'⟩, starts, finishes, rfl⟩ :=
          Address.parse_of_parseBlock parsed
        rw [Except.ok_bind]
        by_cases inside : max row row' < sheet.rowCount ∧
          max column column' < sheet.width
        · have spans := spans_between inside.1 inside.2
          have accepted := spans.checkBlock_eq (Nat.succ_pos _) (Nat.succ_pos _)
          have isBlock := spans.isBlock consistent.rectangular
          rw [accepted, Except.ok_bind,
            resolverOn_range rfl consistent.rectangular parsed
            (Nat.succ_pos _) (Nat.succ_pos _) spans, mapM_cellValue]
          exact .within starts finishes inside.1 inside.2 isBlock
        · obtain ⟨corner, isCorner, refused⟩ :=
            @checkBlock_of_outside sheet
              (Address.between (row, column) (row', column')) inside
          rw [resolverOn_range_of_error
            (by rw [parsed, Except.ok_bind, refused]; rfl), refused]
          exact .beyond starts finishes inside isCorner
  · intro corner corner' starts finishes
    rw [getRange_pair plainStart someFinish, getRange_pair plainFinish someStart,
      Address.parseBlock_comm starts finishes]

/-- Three gauges, one of which failed. -/
def gauges : Sheet where
  name := "gauges"
  rows :=
    [[.text "north", .bool true], [.text "south", .error .divisionByZero],
      [.text "west", .bool false]]
  width := 2
  columnNames := none
  columnIndex := none
  rowIndex := none

/-- A range that is given from its last corner and has an error in its first row. -/
theorem range_readAlike_reversed :
    gauges.Consistent ∧
      gauges.getRange ("B3" ++ ":" ++ "a2") =
        .ok [[.text "south", .error .divisionByZero], [.text "west", .bool false]] ∧
      resolverOn gauges none (.range none "B3" "a2") =
        fail (.errorCell "B3:a2" .divisionByZero) ∧
      ReadAlike gauges "B3" "a2" (gauges.getRange ("B3" ++ ":" ++ "a2"))
        (resolverOn gauges none (.range none "B3" "a2")) ∧
      gauges.getRange ("a2" ++ ":" ++ "B3") =
        gauges.getRange ("B3" ++ ":" ++ "a2") := by
  have reachable : gauges.Reachable :=
    .ofGrid
      [[.string "north", .bool true], [.string "south", .error .divisionByZero],
        [.string "west", .bool false]]
      "gauges" false 0 rfl
  have consistent := reachable.wellFormed.consistent
  obtain ⟨alike, reversed⟩ := @range_readAlike gauges "B3" "a2" consistent none
    (by decide) (by decide) (by decide) (by decide)
  exact ⟨consistent, rfl, rfl, alike, reversed (2, 1) (1, 0) rfl rfl⟩

end Formula

end GridScript
