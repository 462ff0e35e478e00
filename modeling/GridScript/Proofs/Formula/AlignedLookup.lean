import GridScript.Proofs.Formula.Ranges
import GridScript.Proofs.Formula.Reads
import GridScript.Proofs.Lookup
import GridScript.Proofs.Sheet.Columns

namespace GridScript

/-!
# Lookups in aligned ranges

A range arrives at a lookup as an array of rows, and one of a single row or a
single column is collapsed to a plain array. A column of keys and a table beside
it stay aligned in this way, unless the table is a single row of several cells:
then it is taken for a column.
-/

/-! ## Ranges of a sheet -/

/-- A cell holds an error. -/
def Cell.holdsError : Cell → Bool
  | .error _ => true
  | _ => false

/-- A block of `n` rows and `m` columns lies in the sheet, and none of its
cells holds an error. -/
structure Sheet.Readable
    (sheet : Sheet)
    (block : Address.Block)
    (n m : Nat) : Prop where
  rows : block.bottom + 1 = block.top + n
  columns : block.right + 1 = block.left + m
  inRows : block.bottom < sheet.rowCount
  inColumns : block.right < sheet.width
  noErrors :
    ∀ i < n, ∀ j < m,
      (sheet.cellAt (block.top + i) (block.left + j)).holdsError = false

theorem Sheet.Readable.spans
    {sheet : Sheet}
    {block : Address.Block}
    {n m : Nat}
    (readable : sheet.Readable block n m) :
    sheet.Spans block n m :=
  ⟨readable.rows, readable.columns, readable.inRows, readable.inColumns⟩

namespace Formula

/-- A cell without an error has a value. -/
theorem cellValue_eq
    {cell : Cell}
    (noError : cell.holdsError = false)
    (place : String) :
    cellValue place cell = .ok cell.toValue := by
  cases cell with
  | error tag =>
      cases noError
  | _ =>
      rfl

/-- The values of a block, row by row. -/
def rowsOf
    (sheet : Sheet)
    (block : Address.Block)
    (n m : Nat) : List (List Value) :=
  (List.range n).map fun i => (sheet.blockRow block m i).map Cell.toValue

/-- A range on a sheet has `n` rows and `m` columns there, and none of its
cells holds an error. -/
inductive Covers
    (current : Sheet)
    (book :
      Option Book) : Reference → Sheet → Address.Block → (n m : Nat) → Prop where
  | range
      {name : Option String}
      {start finish : String}
      {sheet : Sheet}
      {block : Address.Block}
      {n m : Nat}
      (target : targetSheet current book name = .ok sheet)
      (reachable : sheet.Reachable)
      (parsed : Address.parseBlock start finish = .ok block)
      (someRow : 1 ≤ n)
      (someColumn : 1 ≤ m)
      (readable : sheet.Readable block n m) :
      Covers current book (.range name start finish) sheet block n m

namespace Covers

variable
  {current sheet : Sheet}
  {book : Option Book}
  {reference : Reference}
  {block : Address.Block}
  {n m : Nat}
  (covers : Covers current book reference sheet block n m)

include covers

theorem someRow : 1 ≤ n := by
  obtain ⟨_, _, _, someRow, _, _⟩ := covers
  exact someRow

theorem someColumn : 1 ≤ m := by
  obtain ⟨_, _, _, _, someColumn, _⟩ := covers
  exact someColumn

/-- A range has the values of its cells. -/
theorem resolve :
    resolverOn current book reference =
      .ok (.array ((rowsOf sheet block n m).map .array)) := by
  obtain ⟨target, reachable, parsed, someRow, someColumn, readable⟩ := covers
  rename_i start finish
  have rectangular := reachable.wellFormed.rectangular
  have values :
      ((sheet.block block).mapM fun row =>
          row.mapM (cellValue (start ++ ":" ++ finish))) =
        .ok (rowsOf sheet block n m) := by
    rw [readable.spans.block_eq rectangular, List.mapM_map]
    refine Except.mapM_of_forall_ok fun i inRange =>
      Except.mapM_of_forall_ok fun cell member => ?_
    obtain ⟨j, inRow, rfl⟩ := List.mem_map.mp member
    exact cellValue_eq
      (readable.noErrors i (List.mem_range.mp inRange) j (List.mem_range.mp inRow))
      _
  rw [resolverOn_range target rectangular parsed someRow someColumn readable.spans,
    values]
  rfl

end Covers

/-! ## Collapsed ranges -/

/-- A column is collapsed to its values. -/
theorem collapse_column
    {values : List Value}
    (nonempty : values ≠ []) :
    collapse (.array ((values.map fun v => [v]).map .array)) = .array values := by
  cases values with
  | nil =>
      exact absurd rfl nonempty
  | cons first rest =>
      unfold collapse
      simp only [Lookup.rows?_map_array]
      cases rest with
      | nil =>
          rfl
      | cons second rest =>
          simp [← List.flatMap_def]

/-- A row is collapsed to its values. -/
theorem collapse_row (row : List Value) :
    collapse (.array ([row].map .array)) = .array row :=
  rfl

/-- Several rows of several values stay as they are. -/
theorem collapse_table
    {rows : List (List Value)}
    {m : Nat}
    (several : 2 ≤ rows.length)
    (wide : 2 ≤ m)
    (lengths : ∀ row ∈ rows, row.length = m) :
    collapse (.array (rows.map .array)) = .array (rows.map .array) := by
  obtain ⟨first, second, rest, rfl⟩ :
      ∃ first second rest, rows = first :: second :: rest := by
    match rows, several with
    | first :: second :: rest, _ =>
        exact ⟨first, second, rest, rfl⟩
  have firstLength : first.length = m := lengths first (by simp)
  have notColumn : (first.length == 1) = false := by
    rw [beq_eq_false_iff_ne]
    omega
  unfold collapse
  simp only [Lookup.rows?_map_array]
  simp [notColumn]

/-! ## The lookup -/

/-- The values of the first column of a block with `n` rows. -/
def firstColumn (sheet : Sheet) (block : Address.Block) (n : Nat) : List Value :=
  (List.range n).map fun i => (sheet.cellAt (block.top + i) block.left).toValue

@[simp]
theorem length_firstColumn (sheet : Sheet) (block : Address.Block) (n : Nat) :
    (firstColumn sheet block n).length = n := by
  simp [firstColumn]

/-- The answer that a row gives: its only value, or all of them as an array. -/
def rowAnswer : List Value → Value
  | [v] => v
  | row => .array row

theorem rowAnswer_of_length
    {row : List Value}
    (wide : row.length ≠ 1) :
    rowAnswer row = .array row := by
  unfold rowAnswer
  split
  · exact absurd rfl wide
  · rfl

theorem rowsOf_one (sheet : Sheet) (block : Address.Block) (n : Nat) :
    rowsOf sheet block n 1 = (firstColumn sheet block n).map fun v => [v] := by
  simp [rowsOf, firstColumn, Sheet.blockRow, Function.comp_def]

/-- A value of a cell is no array. -/
theorem isArray_toValue (cell : Cell) : cell.toValue.isArray = false := by
  cases cell with
  | number x =>
      show (Cell.numberValue x).isArray = false
      unfold Cell.numberValue
      split
      · split <;> rfl
      · rfl
  | _ =>
      rfl

theorem isArray_of_mem_firstColumn
    {sheet : Sheet}
    {block : Address.Block}
    {n : Nat} :
    ∀ v ∈ firstColumn sheet block n, v.isArray = false := by
  intro v member
  obtain ⟨_, _, rfl⟩ := List.mem_map.mp member
  exact isArray_toValue _

/-- A value that some cell of a column equals is found at a first position. -/
theorem exists_firstEqual
    {key : Value}
    {keys : List Value}
    (held : ∃ v ∈ keys, v.equal key = true) :
    ∃ i,
      Lookup.firstEqual? key keys = some i ∧
        Lookup.FirstAt (fun v => v.equal key = true) keys i := by
  obtain ⟨firstEqual, none⟩ := Lookup.firstEqual_spec key keys
  have found : Lookup.firstEqual? key keys ≠ .none := by
    rw [Ne, none]
    obtain ⟨v, member, equal⟩ := held
    exact fun noneEqual => noneEqual v member equal
  obtain ⟨i, found⟩ := Option.ne_none_iff_exists'.mp found
  exact ⟨i, found, (firstEqual i).mp found⟩

theorem xlookup_eq
    {key : Value}
    {keys aligned : List Value}
    {i : Nat}
    (plain : ∀ v ∈ keys, v.isArray = false)
    (first : Lookup.firstEqual? key keys = some i) :
    Lookup.xlookup key (.array keys) (.array aligned) none =
      if aligned.length = keys.length then .ok (Lookup.element aligned i)
      else .error (.arguments "xlookup" .alignedResults none) := by
  have vector :
      Lookup.requireVector "xlookup" (.array keys) "lookup_array" = .ok keys := by
    simpa [Lookup.requireVector] using plain
  unfold Lookup.xlookup
  rw [vector]
  by_cases sameLength : aligned.length = keys.length
  · simp [sameLength, first, bind, Except.bind, pure, Except.pure]
  · simp [sameLength, bind, Except.bind]

/-- A lookup in a formula collapses its ranges. -/
theorem evaluate_xlookup
    {context : Context}
    {resolve : Resolver}
    {sought keys results : Expression}
    {key keysValue resultsValue : Value}
    (isKey : sought.evaluate context resolve = .ok key)
    (isKeys : keys.evaluate context resolve = .ok keysValue)
    (isResults : results.evaluate context resolve = .ok resultsValue) :
    (Expression.call "XLOOKUP" [sought, keys, results]).evaluate context resolve =
      looked .xlookup
        (Lookup.xlookup key (collapse keysValue) (collapse resultsValue) none) :=
  evaluate_call_eager .xlookup
    rfl rfl rfl rfl (.cons isKey (.cons isKeys (.cons isResults .nil)))

/-- The rows of a table beside `n` keys are its values for the lookup, unless it
is one row of several cells. -/
theorem collapse_rowsOf
    (sheet : Sheet)
    (block : Address.Block)
    {n m : Nat}
    (someRow : 1 ≤ n)
    (someColumn : 1 ≤ m)
    (notRow : ¬(n = 1 ∧ m ≠ 1)) :
    ∃ aligned,
      collapse (.array ((rowsOf sheet block n m).map .array)) = .array aligned ∧
        aligned.length = n ∧
        ∀ i < n,
          Lookup.element aligned i =
            rowAnswer ((sheet.blockRow block m i).map Cell.toValue) := by
  by_cases column : m = 1
  · subst column
    refine ⟨firstColumn sheet block n, ?_, by simp [firstColumn],
      fun i inRange => ?_⟩
    · rw [rowsOf_one]
      refine collapse_column ?_
      simp [firstColumn]
      omega
    · simp [Lookup.element, firstColumn, inRange, Sheet.blockRow, rowAnswer]
  · have wide : 2 ≤ m := by omega
    refine ⟨(rowsOf sheet block n m).map .array, ?_, by simp [rowsOf],
      fun i inRange => ?_⟩
    · refine collapse_table (m := m) ?_ wide ?_
      · simp [rowsOf]
        omega
      · intro row member
        obtain ⟨i, _, rfl⟩ := List.mem_map.mp member
        simp [Sheet.blockRow]
    · rw [rowAnswer_of_length (by simpa [Sheet.blockRow] using column)]
      simp [Lookup.element, rowsOf, inRange]

/--
A lookup of a value that equals some cell of a column of keys gives the
row beside the first such cell: its only value, or all of them as an
array. Only a table that is a single row of several cells is refused, as
if it had as many rows.
-/
theorem xlookup_alignedRow
    {current keySheet resultSheet : Sheet}
    {book : Option Book}
    {context : Context}
    {sought : Expression}
    {key : Value}
    {keyRange resultRange : Reference}
    {keyBlock resultBlock : Address.Block}
    {n m : Nat}
    (isKey : sought.evaluate context (resolverOn current book) = .ok key)
    (keys : Covers current book keyRange keySheet keyBlock n 1)
    (results : Covers current book resultRange resultSheet resultBlock n m)
    (held : ∃ v ∈ firstColumn keySheet keyBlock n, v.equal key = true) :
    ∃ i,
      Lookup.FirstAt (fun v => v.equal key = true)
          (firstColumn keySheet keyBlock n) i ∧
        (Expression.call "XLOOKUP"
              [sought, .reference keyRange,
                .reference resultRange]).evaluate context
            (resolverOn current book) =
          if n = 1 ∧ m ≠ 1 then
            faultIn .xlookup (.lookup (.arguments "xlookup" .alignedResults none))
          else .ok
            (rowAnswer
              ((resultSheet.blockRow resultBlock m i).map Cell.toValue)) := by
  obtain ⟨i, found, first⟩ := exists_firstEqual held
  refine ⟨i, first, ?_⟩
  have inRange : i < n := by
    obtain ⟨_, position, _⟩ := first
    simpa using (List.getElem?_eq_some_iff.mp position).1
  have someKey : firstColumn keySheet keyBlock n ≠ [] := by
    apply List.ne_nil_of_length_pos
    rw [length_firstColumn]
    exact keys.someRow
  have keyRows :
      (Expression.reference keyRange).evaluate context (resolverOn current book) =
        .ok (.array ((rowsOf keySheet keyBlock n 1).map .array)) :=
    keys.resolve
  have resultRows :
      (Expression.reference resultRange).evaluate context
          (resolverOn current book) =
        .ok (.array ((rowsOf resultSheet resultBlock n m).map .array)) :=
    results.resolve
  rw [evaluate_xlookup isKey keyRows resultRows, rowsOf_one,
    collapse_column someKey]
  split
  · rename_i singleRow
    obtain ⟨rfl, several⟩ := singleRow
    have misaligned :
        ((resultSheet.blockRow resultBlock m 0).map Cell.toValue).length ≠ 1 := by
      simpa [Sheet.blockRow] using several
    have collapsed :
        collapse (.array ((rowsOf resultSheet resultBlock 1 m).map .array)) =
          .array ((resultSheet.blockRow resultBlock m 0).map Cell.toValue) :=
      collapse_row _
    rw [collapsed, xlookup_eq isArray_of_mem_firstColumn found, length_firstColumn,
      if_neg misaligned]
    rfl
  · rename_i notRow
    obtain ⟨aligned, collapsed, length, element⟩ :=
      collapse_rowsOf resultSheet resultBlock results.someRow
        results.someColumn notRow
    rw [collapsed, xlookup_eq isArray_of_mem_firstColumn found, length_firstColumn,
      if_pos length, element i inRange]
    rfl

/-- A list of parts, one of them under a number that was used twice. -/
def parts : Sheet where
  name := "parts"
  rows :=
    [[.text "n1", .text "nut", .text "steel"],
      [.text "n2", .text "bolt", .text "brass"],
      [.text "n2", .text "bolt", .text "steel"]]
  width := 3
  columnNames := none
  columnIndex := none
  rowIndex := none

theorem parts_reachable : parts.Reachable :=
  .ofGrid
    [[.string "n1", .string "nut", .string "steel"],
      [.string "n2", .string "bolt", .string "brass"],
      [.string "n2", .string "bolt", .string "steel"]] "parts" false 0 rfl

/-- Of the two parts with one number the first is found. -/
theorem xlookup_alignedRow_parts :
    (Expression.call "XLOOKUP"
          [.literal (.string "n2"), .reference (.range none "A1" "A3"),
            .reference (.range none "B1" "C3")]).evaluate
        [] (resolverOn parts none) =
      .ok (.array [.string "bolt", .string "brass"]) := by
  have isKey :
      (Expression.literal (.string "n2")).evaluate [] (resolverOn parts none) =
      .ok (.string "n2") :=
    rfl
  have numbers : Covers parts none (.range none "A1" "A3") parts ⟨0, 0, 2, 0⟩ 3 1 :=
    .range rfl parts_reachable rfl (by decide) (by decide)
      ⟨rfl, rfl, by decide, by decide, by decide⟩
  have descriptions :
      Covers parts none (.range none "B1" "C3") parts ⟨0, 1, 2, 2⟩ 3 2 :=
    .range rfl parts_reachable rfl (by decide) (by decide)
      ⟨rfl, rfl, by decide, by decide, by decide⟩
  have held :
      ∃ v ∈ firstColumn parts ⟨0, 0, 2, 0⟩ 3, v.equal (.string "n2") = true :=
    ⟨.string "n2", List.mem_map.mpr ⟨1, by decide, rfl⟩, rfl⟩
  obtain ⟨i, first, found⟩ := xlookup_alignedRow isKey numbers descriptions held
  have second : Lookup.FirstAt (fun v => v.equal (.string "n2") = true)
      (firstColumn parts ⟨0, 0, 2, 0⟩ 3) 1 :=
    ⟨.string "n2", rfl, rfl, by simp [firstColumn, parts]; decide⟩
  cases first.unique second
  exact found

/-- A table of one row of several cells is not aligned with its only key. -/
theorem xlookup_single_row_refused :
    Covers parts none (.range none "A1" "A1") parts ⟨0, 0, 0, 0⟩ 1 1 ∧
      Covers parts none (.range none "B1" "C1") parts ⟨0, 1, 0, 2⟩ 1 2 ∧
      (∃ v ∈ firstColumn parts ⟨0, 0, 0, 0⟩ 1, v.equal (.string "n1") = true) ∧
      (Expression.call "XLOOKUP"
            [.literal (.string "n1"), .reference (.range none "A1" "A1"),
              .reference (.range none "B1" "C1")]).evaluate
          [] (resolverOn parts none) ≠
        .ok (.array [.string "nut", .string "steel"]) := by
  refine ⟨?_, ?_, ?_, ?_⟩
  · exact .range rfl parts_reachable rfl (by decide) (by decide)
      ⟨rfl, rfl, by decide, by decide, by decide⟩
  · exact .range rfl parts_reachable rfl (by decide) (by decide)
      ⟨rfl, rfl, by decide, by decide, by decide⟩
  · exact ⟨.string "n1", List.mem_map.mpr ⟨0, by decide, rfl⟩, rfl⟩
  · have refused :
        (Expression.call "XLOOKUP"
              [.literal (.string "n1"), .reference (.range none "A1" "A1"),
                .reference (.range none "B1" "C1")]).evaluate
            [] (resolverOn parts none) =
          faultIn .xlookup (.lookup (.arguments "xlookup" .alignedResults none)) :=
      rfl
    rw [refused]
    exact nofun

end Formula

end GridScript
