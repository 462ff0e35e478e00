import GridScript.Sheet.Naming

namespace GridScript.Table

/-!
# Comma-separated text

Fields are separated by commas and lines by line breaks. A field in double
quotes may hold both, and a quote in it is written twice. A short line is filled
with empty cells, and a line without text counts only where there is one column.

The reader and the writer stand for a codec outside of the program, which leaves
every field a text. Its rules are described as far as tables need them.
-/

/-- Where a reader of fields stands. -/
inductive FieldState where
  | start
  | bare
  | quoted
  /-- After a quote inside a quoted field. -/
  | closing
  deriving Repr, DecidableEq

/-- What has been read: the field, the fields of the line and the lines,
each the last first. -/
structure FieldReader where
  field : List Char
  fields : List String
  records : List (List String)

namespace FieldReader

/-- A character of the field. -/
def push (reader : FieldReader) (c : Char) : FieldReader :=
  { reader with field := c :: reader.field }

/-- The end of a field. -/
def endField (reader : FieldReader) : FieldReader :=
  { reader with
    field := [], fields := String.ofList reader.field.reverse :: reader.fields }

/-- The end of a line. -/
def endRecord (reader : FieldReader) : FieldReader :=
  let reader := reader.endField
  { reader with fields := [], records := reader.fields.reverse :: reader.records }

end FieldReader

/-- The lines of a text as lists of fields; none if a quote is not closed. -/
def readRecords
    (reader : FieldReader) : FieldState → List Char → Option (List (List String))
  | state, [] =>
      match state with
      | .quoted => none
      | .start =>
          if reader.fields.isEmpty then some reader.records.reverse
          else some reader.endRecord.records.reverse
      | _ => some reader.endRecord.records.reverse
  | .quoted, c :: rest =>
      if c = '"' then readRecords reader .closing rest
      else readRecords (reader.push c) .quoted rest
  | state, '\r' :: '\n' :: rest =>
      match state with
      | .quoted => none
      | _ => readRecords reader.endRecord .start rest
  | state, c :: rest =>
      if c = ',' then readRecords reader.endField .start rest
      else if c = '\n' then readRecords reader.endRecord .start rest
      else if c = '"' && state == .start then readRecords reader .quoted rest
      else if c = '"' && state == .closing then
        readRecords (reader.push '"') .quoted rest
      else readRecords (reader.push c) .bare rest

/-- A text without the mark at its start. -/
def dropByteOrderMark : List Char → List Char
  | '\ufeff' :: rest => rest
  | cs => cs

/-- The line has no text. -/
def isBlankRecord (record : List String) : Bool :=
  record == [""]

/-- Header names with the later ones of equal names numbered. -/
def distinctNames (seen : List String) : List String → List String
  | [] => []
  | name :: rest =>
      let repeated := seen.count name
      (if repeated = 0 then name else s!"{name}_duplicated_{repeated - 1}") ::
        distinctNames (name :: seen) rest

/-- The cells of a line with so many columns. -/
def recordCells (width : Nat) (record : List String) : List Cell :=
  record.map Cell.parse ++ List.replicate (width - record.length) .empty

/-- The sheet of a text; the first line may name the columns. -/
def readCsv? (text : String) (name : String) (headers : Bool) : Option Sheet := do
  let records ← readRecords ⟨[], [], []⟩ .start (dropByteOrderMark text.toList)
  match records.dropWhile isBlankRecord with
  | [] => none
  | first :: rest =>
      let width := first.length
      let body := if headers then rest else first :: rest
      let body :=
        if width > 1 then body.filter fun record => !isBlankRecord record else body
      if body.any fun record => record.length > width then none
      else
        let sheet := Sheet.ofCells (body.map (recordCells width)) name width
        if headers then (sheet.withColumnNames (distinctNames [] first)).toOption
        else some sheet

/-- The character forces quotes around its field. -/
def needsQuotes (c : Char) : Bool :=
  c == ',' || c == '"' || c == '\n' || c == '\r'

/-- A field of a written line. -/
def writeField (s : String) : List Char :=
  let cs := s.toList
  if cs.isEmpty || cs.any needsQuotes then
    '"' :: cs.flatMap (fun c => if c = '"' then ['"', '"'] else [c]) ++ ['"']
  else cs

/-- A cell of a written line; an empty cell has no text. -/
def writeCell : Cell → List Char
  | .empty => []
  | cell => writeField cell.display

/-- A written line. -/
def writeRecord (fields : List (List Char)) : List Char :=
  [','].intercalate fields ++ ['\n']

/-- The text of a sheet. Column names are written as the first line. -/
def writeCsv (sheet : Sheet) : String :=
  let header :=
    match sheet.columnNames with
    | some names => writeRecord (names.map writeField)
    | none => []
  let rows := if sheet.width = 0 then [] else sheet.rows
  String.ofList (header ++ rows.flatMap fun row => writeRecord (row.map writeCell))

end GridScript.Table
