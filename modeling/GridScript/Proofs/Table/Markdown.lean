import GridScript.Proofs.Sheet.Edits
import GridScript.Proofs.Text.Letters
import GridScript.Proofs.Text.Rewriting
import GridScript.Table.Markdown

namespace GridScript.Table

/-!
# Markdown documents

The sheets of a document are named by the numbers of their tables, so that
no two sheets have one name. A document of written tables is read as the
sheets of these tables.
-/

/-! ## Lines -/

/-- The character of the open block that the scanner remembers after a line. -/
def markAfter (opened : Option Char) (line : List Char) : Option Char :=
  match fence? line, opened with
  | some mark, none => some mark
  | some mark, some opened => if mark = opened then none else some opened
  | none, opened => opened

/-- What a line does: it is passed over as part of the table read last, it is
looked at for a fence, or it is the header of a table. -/
theorem scanLine_eq_ok
    {scan after : Scan}
    {number : Nat}
    {line : List Char}
    {rest : List (List Char)}
    (scanned : scanLine scan number line rest = .ok after) :
    (0 < scan.skip ∧ after = { scan with skip := scan.skip - 1 }) ∨
      (scan.skip = 0 ∧ after = { scan with fence := markAfter scan.fence line }) ∨
        (scan.fence = none ∧ fence? line = none ∧
          ∃ delimiter body header rows sheet,
            rest = delimiter :: body ∧ isDelimiter delimiter = true ∧
              tableSheet (scan.sheets.length + 1) header rows = .ok sheet ∧
                after = { scan with
                  skip := (body.takeWhile isTableLine).length + 1
                  sheets := sheet :: scan.sheets }) := by
  unfold scanLine at scanned
  split at scanned
  next skips =>
    cases scanned
    exact .inl ⟨skips, rfl⟩
  next noSkip =>
    have noSkip : scan.skip = 0 := Nat.eq_zero_of_not_pos noSkip
    split at scanned
    next mark isFence opened =>
      cases scanned
      exact .inr (.inl ⟨noSkip, by simp only [markAfter, isFence, opened]⟩)
    next mark openMark isFence opened =>
      cases scanned
      exact .inr (.inl ⟨noSkip, by simp only [markAfter, isFence, opened]⟩)
    next openMark isFence opened =>
      cases scanned
      exact .inr (.inl ⟨noSkip, by simp only [markAfter, isFence]⟩)
    next noFence closed =>
      have passes :
          scan.skip = 0 ∧ scan = { scan with fence := markAfter scan.fence line } :=
        ⟨noSkip, by simp only [markAfter, noFence]⟩
      split at scanned
      next delimiter body =>
        split at scanned
        next isHeader =>
          simp only at scanned
          split at scanned
          · cases scanned
          · obtain ⟨rows, -, made⟩ := Except.bind_eq_ok scanned
            obtain ⟨sheet, isSheet, scanned⟩ := Except.bind_eq_ok made
            cases scanned
            exact .inr (.inr ⟨closed, noFence, delimiter, body, _, rows, sheet, rfl,
              (Bool.and_eq_true_iff.mp isHeader).2, isSheet, rfl⟩)
        next =>
          cases scanned
          exact .inr (.inl passes)
      next =>
        cases scanned
        exact .inr (.inl passes)

/-! ## Names of tables -/

/-- Numbers that differ name tables differently. -/
theorem tableName_injective
    {first second : Nat}
    (same : s!"Table{first}" = s!"Table{second}") :
    first = second := by
  have digits : Nat.toDigits 10 first = Nat.toDigits 10 second := by
    simpa [Nat.repr_eq_ofList_toDigits, String.ofList_inj] using same
  calc
    first = Nat.ofDigitChars 10 (Nat.toDigits 10 first) 0 :=
      (Nat.ofDigitChars_toDigits (by decide) (by decide)).symm
    _ = Nat.ofDigitChars 10 (Nat.toDigits 10 second) 0 := by rw [digits]
    _ = second := Nat.ofDigitChars_toDigits (by decide) (by decide)

/-- The names of the columns do not change the name of the sheet. -/
theorem name_tableSheet
    {table : Nat}
    {header : List String}
    {rows : List (List Cell)}
    {sheet : Sheet}
    (made : tableSheet table header rows = .ok sheet) :
    sheet.name = s!"Table{table}" := by
  unfold tableSheet at made
  split at made
  · rename_i named
    cases made
    obtain ⟨positions, _, _, rfl⟩ :=
      (Sheet.setColumnNames_commits header _).made named
    rfl
  · cases made
  · cases made

/-- The sheets read so far, the last first, are named by their numbers. -/
inductive Numbered : List Sheet → Prop
  | nil : Numbered []
  | cons
      {sheet : Sheet}
      {earlier : List Sheet}
      (name : sheet.name = s!"Table{earlier.length + 1}")
      (numbered : Numbered earlier) :
      Numbered (sheet :: earlier)

/-- A line brings at most the next sheet. -/
theorem numbered_scanLine
    {scan after : Scan}
    {number : Nat}
    {line : List Char}
    {rest : List (List Char)}
    (numbered : Numbered scan.sheets)
    (scanned : scanLine scan number line rest = .ok after) :
    Numbered after.sheets := by
  rcases scanLine_eq_ok scanned with ⟨-, rfl⟩ | ⟨-, rfl⟩ |
    ⟨-, -, _, _, _, _, sheet, -, -, isSheet, rfl⟩
  · exact numbered
  · exact numbered
  · exact .cons (name_tableSheet isSheet) numbered

theorem numbered_scanLines
    {scan after : Scan}
    {number : Nat}
    {lines : List (List Char)}
    (numbered : Numbered scan.sheets)
    (scanned : scanLines scan number lines = .ok after) :
    Numbered after.sheets := by
  induction lines generalizing scan number with
  | nil =>
      cases scanned
      exact numbered
  | cons line rest inductionHypothesis =>
      unfold scanLines at scanned
      obtain ⟨next, first, scanned⟩ := Except.bind_eq_ok scanned
      exact inductionHypothesis (numbered_scanLine numbered first) scanned

namespace Numbered

/-- Each sheet is named by a number up to the number of sheets. -/
theorem exists_number
    {sheets : List Sheet}
    (numbered : Numbered sheets)
    {name : String}
    (member : name ∈ sheets.map Sheet.name) :
    ∃ table ≤ sheets.length, name = s!"Table{table}" := by
  induction numbered with
  | nil =>
      cases member
  | cons isName _ inductionHypothesis =>
      rcases List.mem_cons.mp member with rfl | inEarlier
      · exact ⟨_, Nat.le_refl _, isName⟩
      · obtain ⟨table, bound, isTable⟩ := inductionHypothesis inEarlier
        exact ⟨table, Nat.le_succ_of_le bound, isTable⟩

theorem nodup
    {sheets : List Sheet}
    (numbered : Numbered sheets) :
    (sheets.map Sheet.name).Nodup := by
  induction numbered with
  | nil =>
      exact List.nodup_nil
  | @cons sheet earlier isName numbered inductionHypothesis =>
      refine List.nodup_cons.mpr ⟨fun member => ?_, inductionHypothesis⟩
      obtain ⟨table, bound, isTable⟩ := numbered.exists_number member
      obtain rfl := tableName_injective (isName.symm.trans isTable)
      exact Nat.not_succ_le_self earlier.length bound

end Numbered

/-- No two sheets of a document have one name. -/
theorem nodup_readMarkdownBytes
    {bytes : ByteArray}
    {sheets : List Sheet}
    (read : readMarkdownBytes bytes = .ok sheets) :
    (sheets.map Sheet.name).Nodup := by
  unfold readMarkdownBytes at read
  split at read
  · cases read
  · rename_i text _ _
    unfold readMarkdown at read
    obtain ⟨scan, scanned, read⟩ := Except.bind_eq_ok read
    split at read
    · cases read
    · cases read
      rw [List.map_reverse, List.nodup_reverse]
      exact (numbered_scanLines .nil scanned).nodup
  · cases read

/-!
## Written tables

A table is written as the line of its header, a line of dashes and the lines of
its rows, and a document as its tables with a blank line between them. Whatever
the cells hold, reading a document gives the sheets of its tables in order. A
scan is between two tables when it reaches the first line of one: no line of a
table opens a fence, since all of them begin with a pipe.
-/

open GridScript.Text

/-!
## Written rows

A row is written with a pipe before its first cell and after every cell, a blank
on each side of a cell, and a backslash before every pipe inside one. Reading
the line gives the cells again, whatever else they hold: a backslash at the end
of a cell is followed by a blank and so escapes nothing.
-/

/-- A character of a cell, with a backslash before it if it is a pipe. -/
def escapePipe (c : Char) : List Char :=
  if c = '|' then ['\\', '|'] else [c]

/-- The text of a cell with its pipes escaped. -/
def escapedCell (text : String) : List Char :=
  text.toList.flatMap escapePipe

/-- The line of a row. -/
def writeRow (cells : List String) : List Char :=
  '|' :: cells.flatMap fun cell => ' ' :: escapedCell cell ++ [' ', '|']

/-- A text without white space at its ends and without line separators. -/
structure IsPlain (text : String) : Prop where
  trimmed : trim text.toList = text.toList
  whole : ∀ c ∈ text.toList, isLineBreak c = false

instance (text : String) : Decidable (IsPlain text) :=
  decidable_of_iff
    (trim text.toList = text.toList ∧ text.toList.all (!isLineBreak ·) = true)
    ⟨fun ⟨trimmed, whole⟩ => ⟨trimmed, by simpa using whole⟩,
      fun plain => ⟨plain.trimmed, by simpa using plain.whole⟩⟩

/-! ## Cells -/

/-- No escaped text begins with a pipe. -/
theorem head_escapePipe
    (cs tail : List Char) :
    (cs.flatMap escapePipe ++ ' ' :: tail).head? ≠ some '|' := by
  cases cs with
  | nil =>
      simp
  | cons c cs =>
      rw [List.flatMap_cons]
      unfold escapePipe
      split
      next =>
        simp
      next other =>
        simpa using other

/-- A pipe that nothing stands before cuts. -/
theorem cutAtPipes_pipe (cell rest : List Char) :
    cutAtPipes cell ('|' :: rest) = cell.reverse :: cutAtPipes [] rest := by
  rw [cutAtPipes]
  · rw [if_pos rfl]
  · exact nofun

/-- A character that is no pipe belongs to the cell, also a backslash
that no pipe follows. -/
theorem cutAtPipes_other
    {c : Char}
    {rest : List Char}
    (other : c ≠ '|')
    (unescaped : c = '\\' → rest.head? ≠ some '|')
    (cell : List Char) :
    cutAtPipes cell (c :: rest) = cutAtPipes (c :: cell) rest := by
  rw [cutAtPipes]
  · rw [if_neg other]
  · rintro later rfl rfl
    exact unescaped rfl rfl

/-- A blank belongs to the cell. -/
theorem cutAtPipes_blank (cell rest : List Char) :
    cutAtPipes cell (' ' :: rest) = cutAtPipes (' ' :: cell) rest :=
  cutAtPipes_other (by decide) (fun same => absurd same (by decide)) cell

/-- An escaped text before a blank belongs to the cell as it was. -/
theorem cutAtPipes_escapePipe
    (cs cell tail : List Char) :
    cutAtPipes cell (cs.flatMap escapePipe ++ ' ' :: tail) =
      cutAtPipes (cs.reverse ++ cell) (' ' :: tail) := by
  induction cs generalizing cell with
  | nil =>
      rfl
  | cons c cs inductionHypothesis =>
      rw [List.flatMap_cons, List.append_assoc, List.reverse_cons,
        List.append_assoc]
      by_cases isPipe : c = '|'
      · subst isPipe
        rw [escapePipe, if_pos rfl]
        show cutAtPipes cell
          ('\\' :: '|' :: (cs.flatMap escapePipe ++ ' ' :: tail)) = _
        rw [cutAtPipes, inductionHypothesis]
        rfl
      · rw [escapePipe, if_neg isPipe]
        show cutAtPipes cell (c :: (cs.flatMap escapePipe ++ ' ' :: tail)) = _
        rw [cutAtPipes_other isPipe fun _ => head_escapePipe cs tail,
          inductionHypothesis]
        rfl

/-! ## Rows -/

/-- A written cell between blanks. -/
def spacedCell (cell : String) : List Char :=
  ' ' :: escapedCell cell ++ [' ']

/-- A row is its cells between blanks, with a pipe before each
and one at the end. -/
theorem writeRow_cons (cell : String) (cells : List String) :
    writeRow (cell :: cells) =
      '|' :: (spacedCell cell ++ cells.flatMap fun other =>
        '|' :: spacedCell other) ++ ['|'] := by
  induction cells generalizing cell with
  | nil =>
      simp [writeRow, spacedCell]
  | cons next cells inductionHypothesis =>
      have later := List.cons.inj (inductionHypothesis next)
      rw [writeRow, List.flatMap_cons, later.2]
      simp [spacedCell]

/-- A cell is read with the blanks around it. -/
theorem cutAtPipes_spacedCell (cell : String) (rest : List Char) :
    cutAtPipes [] (spacedCell cell ++ rest) =
      cutAtPipes (' ' :: cell.toList ++ [' ']).reverse rest := by
  show cutAtPipes [] (' ' :: (escapedCell cell ++ [' ']) ++ rest) = _
  rw [List.cons_append, List.append_assoc, List.singleton_append, cutAtPipes_blank,
    escapedCell, cutAtPipes_escapePipe, cutAtPipes_blank]
  simp

/-- A row is cut into its cells with the blanks around them. -/
theorem cutAtPipes_spaced (cell : String) (cells : List String) :
    cutAtPipes []
        (spacedCell cell ++ cells.flatMap fun other => '|' :: spacedCell other) =
      (cell :: cells).map fun other => ' ' :: other.toList ++ [' '] := by
  induction cells generalizing cell with
  | nil =>
      rw [List.flatMap_nil, cutAtPipes_spacedCell, cutAtPipes, List.reverse_reverse]
      rfl
  | cons next cells inductionHypothesis =>
      rw [List.flatMap_cons, List.cons_append, cutAtPipes_spacedCell,
        cutAtPipes_pipe, List.reverse_reverse, inductionHypothesis next]
      rfl

/-- A pipe at the end is dropped, if no backslash stands before it. -/
theorem dropLastPipe_append
    {cs : List Char}
    (unescaped : cs.getLast? ≠ some '\\') :
    dropLastPipe (cs ++ ['|']) = cs := by
  rw [← List.head?_reverse] at unescaped
  rw [dropLastPipe, List.reverse_append, List.reverse_singleton,
    List.singleton_append]
  split
  next before isPipe =>
    rw [(List.cons.inj isPipe).2] at unescaped
    exact absurd rfl unescaped
  next before isPipe =>
    rw [← (List.cons.inj isPipe).2, List.reverse_reverse]
  next _ none =>
    exact absurd rfl (none cs.reverse)

/-- Cells between blanks end in a blank. -/
theorem getLast?_spaced (cell : String) (cells : List String) :
    (spacedCell cell ++ cells.flatMap fun other =>
        '|' :: spacedCell other).getLast? =
      some ' ' := by
  induction cells generalizing cell with
  | nil =>
      rw [List.flatMap_nil, List.append_nil]
      exact List.getLast?_concat
  | cons next cells inductionHypothesis =>
      rw [List.flatMap_cons, List.cons_append, List.getLast?_append,
        List.getLast?_cons, inductionHypothesis next]
      rfl

/-- The pipes at both ends of a row are dropped. -/
theorem dropPipes_writeRow (cell : String) (cells : List String) :
    dropLastPipe (dropFirstPipe (trim (writeRow (cell :: cells)))) =
      spacedCell cell ++ cells.flatMap fun other => '|' :: spacedCell other := by
  have visible (c : Char) (isPipe : some '|' = some c) : isBlank c = false := by
    cases isPipe
    decide
  rw [writeRow_cons, trim_of_visible, List.cons_append, dropFirstPipe,
    dropLastPipe_append]
  · rw [getLast?_spaced]
    decide
  · exact visible
  · rw [List.getLast?_concat]
    exact visible

/-- The cells of a written row are read back. -/
theorem cellsOfLine_writeRow
    {cells : List String}
    (nonempty : cells ≠ [])
    (plain : ∀ cell ∈ cells, IsPlain cell) :
    cellsOfLine (writeRow cells) = cells := by
  obtain ⟨cell, others, rfl⟩ := List.exists_cons_of_ne_nil nonempty
  rw [cellsOfLine, dropPipes_writeRow, cutAtPipes_spaced, List.map_map]
  refine (List.map_congr_left fun other member => ?_).trans (List.map_id _)
  show String.ofList (trim (' ' :: other.toList ++ [' '])) = other
  rw [trim_between_blanks rfl rfl, (plain other member).trimmed,
    String.ofList_toList]

/-- A table of plain texts: the names of its columns differ, and
its rows are as long. -/
structure PlainTable where
  header : List String
  rows : List (List String)
  nonempty : header ≠ []
  distinct : header.Nodup
  width : ∀ row ∈ rows, row.length = header.length
  plainHeader : ∀ name ∈ header, IsPlain name
  plainRows : ∀ row ∈ rows, ∀ cell ∈ row, IsPlain cell

namespace PlainTable

/-- The line between the header and the rows. -/
def delimiter (table : PlainTable) : List Char :=
  writeRow (table.header.map fun _ => "---")

/-- The lines of a table. -/
def lines (table : PlainTable) : List (List Char) :=
  writeRow table.header :: table.delimiter :: table.rows.map writeRow

/-- The sheet of the table with a number: its columns are named,
its cells are parsed. -/
def sheet (table : PlainTable) (number : Nat) : Sheet where
  name := s!"Table{number}"
  rows := table.rows.map (List.map Cell.parse)
  width := table.header.length
  columnNames := some table.header
  columnIndex := some table.header.zipIdx
  rowIndex := none

end PlainTable

/-- The lines of tables with a blank line between two of them. -/
def documentLines (tables : List PlainTable) : List (List Char) :=
  List.intercalate [[]] (tables.map PlainTable.lines)

/-- The text of a document, with or without a line feed at its end. -/
def writeDocument (tables : List PlainTable) (ending : List Char) : String :=
  String.ofList (List.intercalate ['\n'] (documentLines tables) ++ ending)

/-! ## Lines of tables -/

theorem fence?_writeRow (cells : List String) :
    fence? (writeRow cells) = none := by
  have visible : isBlank '|' = false := by decide
  rw [fence?, writeRow, List.takeWhile_cons_of_neg (by simp [visible])]
  rfl

theorem isTableLine_writeRow (cells : List String) :
    isTableLine (writeRow cells) = true := by
  simp [isTableLine, writeRow]

/-- The lines of rows hold no line separators. -/
theorem whole_writeRow
    {cells : List String}
    (plain : ∀ cell ∈ cells, IsPlain cell) :
    ∀ c ∈ writeRow cells, isLineBreak c = false := by
  have escaped {text : String} {c d : Char} (isPlain : IsPlain text)
    (member : d ∈ text.toList)
      (inEscape : c ∈ escapePipe d) : isLineBreak c = false := by
    unfold escapePipe at inEscape
    split at inEscape
    · rcases List.mem_pair.mp inEscape with rfl | rfl <;> decide
    · rw [List.mem_singleton.mp inEscape]
      exact isPlain.whole d member
  intro c member
  rcases List.mem_cons.mp member with rfl | inCells
  · decide
  · obtain ⟨cell, isCell, inCell⟩ := List.mem_flatMap.mp inCells
    simp only [escapedCell, List.cons_append, List.mem_cons, List.mem_append,
      List.mem_flatMap, List.not_mem_nil, or_false] at inCell
    rcases inCell with rfl | ⟨d, inText, inEscape⟩ | rfl | rfl
    · decide
    · exact escaped (plain cell isCell) inText inEscape
    · decide
    · decide

/-- Rows of one width are read back. -/
theorem readRows_writeRow
    {width : Nat}
    (wide : width ≠ 0)
    {rows : List (List String)}
    (widths : ∀ row ∈ rows, row.length = width)
    (plain : ∀ row ∈ rows, ∀ cell ∈ row, IsPlain cell)
    (number : Nat) :
    readRows width number (rows.map writeRow) =
      .ok (rows.map (List.map Cell.parse)) := by
  induction rows generalizing number with
  | nil =>
      rfl
  | cons row rows inductionHypothesis =>
      have rowWidth := widths row List.mem_cons_self
      have nonempty : row ≠ [] := by
        rintro rfl
        exact wide rowWidth.symm
      have later := inductionHypothesis
        (fun other member => widths other (List.mem_cons_of_mem row member))
        (fun other member => plain other (List.mem_cons_of_mem row member))
        (number + 1)
      rw [List.map_cons, readRows,
        cellsOfLine_writeRow nonempty (plain row List.mem_cons_self), later]
      simp [rowWidth, pure, Except.pure, bind, Except.bind]

namespace PlainTable

variable (table : PlainTable)

theorem plain_delimiter :
    ∀ cell ∈ table.header.map fun _ => "---", IsPlain cell := by
  intro cell member
  obtain ⟨_, _, rfl⟩ := List.mem_map.mp member
  exact ⟨by decide, Text.forall_mem_of_all (by decide)⟩

theorem cellsOfLine_delimiter :
    cellsOfLine table.delimiter = table.header.map fun _ => "---" :=
  cellsOfLine_writeRow (by simpa using table.nonempty) table.plain_delimiter

theorem isDelimiter_delimiter :
    isDelimiter table.delimiter = true := by
  obtain ⟨name, others, isHeader⟩ := List.exists_cons_of_ne_nil table.nonempty
  have dashed : '-' ∈ table.delimiter := by
    simp [delimiter, isHeader, writeRow, escapedCell, escapePipe]
  have mark : isDelimiterCell "---" = true := by
    decide
  simp [isDelimiter, dashed, cellsOfLine_delimiter, mark]

/-- Its columns can be named. -/
theorem tableSheet_sheet (number : Nat) :
    tableSheet number table.header (table.rows.map (List.map Cell.parse)) =
      .ok (table.sheet number) := by
  have wide :
      ((table.rows.map (List.map Cell.parse)).head?.map List.length).getD
          table.header.length =
        table.header.length := by
    cases isRows : table.rows with
    | nil =>
        rfl
    | cons row rows =>
        simpa using table.width row (isRows ▸ List.mem_cons_self)
  rw [tableSheet, Sheet.withColumnNames_of_nodup table.distinct wide.symm]
  rw [Sheet.ofCells, Sheet.storeColumns, wide]
  rfl

end PlainTable

/-! ## Documents -/

/-- Lines of the table read last are passed over. -/
theorem scanLines_skip
    {skipped rest : List (List Char)}
    (scan : Scan)
    (number : Nat) :
    scanLines { scan with skip := skipped.length } number (skipped ++ rest) =
      scanLines { scan with skip := 0 } (number + skipped.length) rest := by
  induction skipped generalizing number with
  | nil =>
      rfl
  | cons line skipped inductionHypothesis =>
      rw [List.cons_append, scanLines]
      simp [scanLine, bind, Except.bind, inductionHypothesis, Nat.add_comm,
        Nat.add_left_comm]

/-- A table is scanned as its sheet, if no line of a table follows it. -/
theorem scanLines_table
    (table : PlainTable)
    {rest : List (List Char)}
    (apart : ∀ line ∈ rest.head?, isTableLine line = false)
    (sheets : List Sheet)
    (number : Nat) :
    scanLines ⟨none, 0, sheets⟩ number (table.lines ++ rest) =
      scanLines ⟨none, 0, table.sheet (sheets.length + 1) :: sheets⟩
        (number + table.lines.length) rest := by
  have body : (table.rows.map writeRow ++ rest).takeWhile isTableLine =
      table.rows.map writeRow := by
    rw [List.takeWhile_append_of_pos (by simp [isTableLine_writeRow])]
    cases rest with
    | nil =>
        simp
    | cons line rest =>
        rw [List.takeWhile_cons_of_neg (by simp [apart line rfl]), List.append_nil]
  have wide : table.header.length ≠ 0 := by
    simpa using table.nonempty
  have header :
      scanLine ⟨none, 0, sheets⟩ number (writeRow table.header)
          (table.delimiter :: (table.rows.map writeRow ++ rest)) =
        .ok ⟨none, (table.delimiter :: table.rows.map writeRow).length,
          table.sheet (sheets.length + 1) :: sheets⟩ := by
    simp [scanLine, fence?_writeRow, isTableLine_writeRow,
      table.isDelimiter_delimiter, table.cellsOfLine_delimiter,
      cellsOfLine_writeRow table.nonempty table.plainHeader, body,
      readRows_writeRow wide table.width table.plainRows, table.tableSheet_sheet,
      bind, Except.bind, pure, Except.pure]
  rw [PlainTable.lines, List.cons_append, List.cons_append, scanLines, header]
  refine (scanLines_skip ⟨none, 0, _⟩ _).trans ?_
  simp [Nat.add_comm, Nat.add_left_comm]

/-- A blank line between tables is passed over. -/
theorem scanLine_blank
    (sheets : List Sheet)
    (number : Nat)
    (rest : List (List Char)) :
    scanLine ⟨none, 0, sheets⟩ number [] rest = .ok ⟨none, 0, sheets⟩ := by
  cases rest <;> rfl

theorem documentLines_singleton (table : PlainTable) :
    documentLines [table] = table.lines :=
  List.intercalate_singleton

theorem documentLines_cons_cons
    (table next : PlainTable)
    (later : List PlainTable) :
    documentLines (table :: next :: later) =
      table.lines ++ [] :: documentLines (next :: later) := by
  rw [documentLines, List.map_cons, List.map_cons,
    List.intercalate_cons_cons, ← List.map_cons, ← documentLines, List.append_assoc,
    List.singleton_append]

/-- The sheets of tables that are numbered from a number on. -/
def sheetsFrom (number : Nat) (tables : List PlainTable) : List Sheet :=
  (tables.zipIdx number).map fun entry => entry.1.sheet entry.2

/-- Tables with blank lines between them are scanned as their sheets. -/
theorem scanLines_documentLines
    (tables : List PlainTable)
    (sheets : List Sheet)
    (number : Nat) :
    scanLines ⟨none, 0, sheets⟩ number (documentLines tables) =
      .ok ⟨none, 0, (sheetsFrom (sheets.length + 1) tables).reverse ++ sheets⟩ := by
  induction tables generalizing sheets number with
  | nil =>
      rfl
  | cons table later inductionHypothesis =>
      cases later with
      | nil =>
          have scanned :=
            scanLines_table table (by simp : ∀ line ∈ [].head?, _) sheets number
          rw [List.append_nil] at scanned
          rw [documentLines_singleton, scanned]
          rfl
      | cons next later =>
          rw [documentLines_cons_cons,
            scanLines_table table (by simp [isTableLine]), scanLines,
            scanLine_blank]
          refine (inductionHypothesis (table.sheet (sheets.length + 1) :: sheets)
            _).trans ?_
          simp [sheetsFrom, List.zipIdx_cons]

/-- No line of a table holds a line separator. -/
theorem PlainTable.whole_lines (table : PlainTable) :
    ∀ line ∈ table.lines, ∀ c ∈ line, isLineBreak c = false := by
  intro line member
  rcases List.mem_cons.mp member with rfl | later
  · exact whole_writeRow table.plainHeader
  rcases List.mem_cons.mp later with rfl | inRows
  · exact whole_writeRow table.plain_delimiter
  · obtain ⟨row, isRow, rfl⟩ := List.mem_map.mp inRows
    exact whole_writeRow (table.plainRows row isRow)

/-- No line of a document holds a line separator. -/
theorem whole_documentLines (tables : List PlainTable) :
    ∀ line ∈ documentLines tables, ∀ c ∈ line, isLineBreak c = false := by
  induction tables with
  | nil =>
      intro line member
      cases member
  | cons table later inductionHypothesis =>
      cases later with
      | nil =>
          rw [documentLines_singleton]
          exact table.whole_lines
      | cons next later =>
          rw [documentLines_cons_cons]
          intro line member
          rcases List.mem_append.mp member with inTable | inRest
          · exact table.whole_lines line inTable
          rcases List.mem_cons.mp inRest with rfl | inLater
          · intro c member
            cases member
          · exact inductionHypothesis line inLater

/-- The last line of a document is not empty. -/
theorem exists_last_documentLines
    {tables : List PlainTable}
    (nonempty : tables ≠ []) :
    ∃ line, (documentLines tables).getLast? = some line ∧ line ≠ [] := by
  induction tables with
  | nil =>
      exact absurd rfl nonempty
  | cons table later inductionHypothesis =>
      cases later with
      | nil =>
          have isRow : ∀ line ∈ table.lines, line ≠ [] := by
            simp [PlainTable.lines, PlainTable.delimiter, writeRow]
          have some : table.lines ≠ [] := by
            simp [PlainTable.lines]
          refine ⟨table.lines.getLast some, ?_, isRow _ (List.getLast_mem some)⟩
          rw [documentLines_singleton, List.getLast?_eq_getLast_of_ne_nil some]
      | cons next later =>
          obtain ⟨line, isLast, visible⟩ :=
            inductionHypothesis (List.cons_ne_nil next later)
          refine ⟨line, ?_, visible⟩
          rw [documentLines_cons_cons, List.getLast?_append, List.getLast?_cons,
            isLast]
          rfl

/-- A document is read as the sheets of its tables, named by their numbers. -/
theorem readMarkdown_writeDocument
    {tables : List PlainTable}
    (nonempty : tables ≠ [])
    {ending : List Char}
    (ended : ending = [] ∨ ending = ['\n']) :
    readMarkdown (writeDocument tables ending) = .ok (sheetsFrom 1 tables) := by
  have lines :
      splitLines (writeDocument tables ending).toList = documentLines tables := by
    rw [writeDocument, String.toList_ofList]
    exact splitLines_intercalate (whole_documentLines tables)
      (exists_last_documentLines nonempty) ended
  have some : sheetsFrom 1 tables ≠ [] := by
    simpa [sheetsFrom] using nonempty
  rw [readMarkdown, lines, scanLines_documentLines]
  simp [bind, Except.bind, pure, Except.pure, some]

/-- A table whose texts look like parts of the notation. -/
def awkwardTable : PlainTable where
  header := ["a|b", "\\"]
  rows := [["\\|", "---"], ["", "~~~"]]
  nonempty := by decide
  distinct := by decide
  width := by decide
  plainHeader := by decide
  plainRows := by decide

theorem readMarkdown_awkwardTable :
    writeDocument [awkwardTable] ['\n'] =
        "| a\\|b | \\ |\n| --- | --- |\n| \\\\| | --- |\n|  | ~~~ |\n" ∧
      readMarkdown (writeDocument [awkwardTable] ['\n']) =
        .ok [awkwardTable.sheet 1] :=
  ⟨by decide, readMarkdown_writeDocument (by decide) (.inr rfl)⟩

end GridScript.Table
