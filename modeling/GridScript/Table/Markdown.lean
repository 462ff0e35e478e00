import GridScript.Sheet.Naming
import GridScript.Text.Search
import GridScript.Text.Utf8

namespace GridScript.Table

/-!
# Pipe tables

A table of a Markdown document is a header line, a delimiter line and the lines
that follow as long as they hold a pipe. Lines inside fenced blocks are passed
over. Every table becomes a sheet, named by its number.
-/

open GridScript.Text

/-- The errors of documents with tables. -/
inductive MarkdownError where
  /-- The bytes of the document are no text. -/
  | notText (fault : Utf8Fault)
  | noTables
  | delimiterWidth (line cells header : Nat)
  | rowWidth (line cells header : Nat)
  | sheet (table : Nat) (error : SheetError)
  deriving Repr, DecidableEq

namespace MarkdownError

/-- The wording of an error of a document. -/
def message : MarkdownError → String
  | notText fault => "Input is not valid UTF-8: " ++ fault.message
  | noTables => "No tables found in markdown input"
  | delimiterWidth line cells header =>
      s!"line {line}: delimiter row has {cells} cells, header has {header}"
  | rowWidth line cells header =>
      s!"line {line}: row has {cells} cells, header has {header}"
  | sheet table error => s!"Table {table}: {error.kindText}: {error.message}"

/-- The kind of an error of a document, as reports of errors name it. -/
def kindText : MarkdownError → String
  | notText _ => "MarkdownParseError"
  | noTables => "NoTablesFoundError"
  | delimiterWidth .. => "InvalidTableError"
  | rowWidth .. => "InvalidTableError"
  | sheet .. => "MarkdownSheetError"

end MarkdownError

/-- Cut a line at its pipes; a pipe after a backslash is part of a cell. -/
def cutAtPipes (cell : List Char) : List Char → List (List Char)
  | [] => [cell.reverse]
  | '\\' :: '|' :: rest => cutAtPipes ('|' :: cell) rest
  | c :: rest =>
      if c = '|' then cell.reverse :: cutAtPipes [] rest
      else cutAtPipes (c :: cell) rest

/-- A line without the pipe before its first cell. -/
def dropFirstPipe : List Char → List Char
  | '|' :: rest => rest
  | cs => cs

/-- A line without the pipe after its last cell. -/
def dropLastPipe (cs : List Char) : List Char :=
  match cs.reverse with
  | '|' :: '\\' :: _ => cs
  | '|' :: rest => rest.reverse
  | _ => cs

/-- The cells of a line. -/
def cellsOfLine (line : List Char) : List String :=
  (cutAtPipes [] (dropLastPipe (dropFirstPipe (trim line)))).map fun cell =>
    String.ofList (trim cell)

/-- A cell of a delimiter line: dashes with an optional colon on each side. -/
def isDelimiterCell (cell : String) : Bool :=
  let body :=
    match cell.toList with
    | ':' :: rest => rest
    | cs => cs
  let dashes := body.dropWhile (· == '-')
  body.length > dashes.length && (dashes == [] || dashes == [':'])

/-- A line between the header and the rows. -/
def isDelimiter (line : List Char) : Bool :=
  line.contains '-' && (cellsOfLine line).all isDelimiterCell

/-- A line that can be part of a table. -/
def isTableLine (line : List Char) : Bool :=
  line.contains '|'

/-- The character of a fence that a line opens or closes. -/
def fence? (line : List Char) : Option Char :=
  let indent := (line.takeWhile isBlank).length
  let body := line.drop indent
  match body with
  | c :: _ =>
      if indent ≤ 3 && (c == '\x60' || c == '~') &&
          (body.takeWhile (· == c)).length ≥ 3 then
        some c
      else none
  | [] => none

/-- The rows of a table, whose first line has a number. -/
def readRows
    (width : Nat) : Nat → List (List Char) → Except MarkdownError (List (List Cell))
  | _, [] => .ok []
  | number, line :: rest => do
      let cells := cellsOfLine line
      if cells.length ≠ width then .error (.rowWidth number cells.length width)
      else return cells.map Cell.parse :: (← readRows width (number + 1) rest)

/-- The sheet of a table. -/
def tableSheet
    (table : Nat)
    (header : List String)
    (rows : List (List Cell)) : Except MarkdownError Sheet :=
  match (Sheet.ofCells rows s!"Table{table}" header.length).withColumnNames
    header with
  | .ok sheet => .ok sheet
  | .error (.error e) => .error (.sheet table e)
  | .error (.breach _) => .error .noTables

/-- Where a scan of lines stands. -/
structure Scan where
  /-- The character of the open fence. -/
  fence : Option Char
  /-- Lines that belong to the table read last. -/
  skip : Nat
  /-- The sheets read, the last first. -/
  sheets : List Sheet

/-- One more line of a document, before the lines that follow it. -/
def scanLine
    (scan : Scan)
    (number : Nat)
    (line : List Char)
    (rest : List (List Char)) : Except MarkdownError Scan :=
  if scan.skip > 0 then .ok { scan with skip := scan.skip - 1 }
  else
    match fence? line, scan.fence with
    | some mark, none => .ok { scan with fence := some mark }
    | some mark, some opened =>
        .ok { scan with fence := if mark = opened then none else some opened }
    | none, some _ => .ok scan
    | none, none =>
        match rest with
        | delimiter :: body =>
            if isTableLine line && isDelimiter delimiter then do
              let header := cellsOfLine line
              let marks := (cellsOfLine delimiter).length
              if marks ≠ header.length then
                .error (.delimiterWidth (number + 1) marks header.length)
              else
                let lines := body.takeWhile isTableLine
                let rows ← readRows header.length (number + 2) lines
                let sheet ← tableSheet (scan.sheets.length + 1) header rows
                return { scan with
                  skip := lines.length + 1, sheets := sheet :: scan.sheets }
            else .ok scan
        | [] => .ok scan

/-- All lines of a document from a line with a number. -/
def scanLines (scan : Scan) : Nat → List (List Char) → Except MarkdownError Scan
  | _, [] => .ok scan
  | number, line :: rest => do
      scanLines (← scanLine scan number line rest) (number + 1) rest

/-- The tables of a document. -/
def readMarkdown (text : String) : Except MarkdownError (List Sheet) := do
  let scan ← scanLines ⟨none, 0, []⟩ 1 (splitLines text.toList)
  if scan.sheets.isEmpty then .error .noTables else return scan.sheets.reverse

/-- The tables of the bytes of a document. -/
def readMarkdownBytes (bytes : ByteArray) : Except MarkdownError (List Sheet) :=
  match utf8Fault? bytes, String.fromUTF8? bytes with
  | some fault, _ => .error (.notText fault)
  | none, some text => readMarkdown text
  | none, none => .error .noTables

end GridScript.Table
