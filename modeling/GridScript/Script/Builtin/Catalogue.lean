import GridScript.Text.Case
import GridScript.Text.Quoted

namespace GridScript.Script

/-!
# The catalogue of built-in functions

Every built-in function belongs to a category and may have several names, which
are unique in any letter case. Functions that change the book or touch files may
suspend the script that calls them.
-/

open GridScript.Text

/-- The categories of built-in functions. -/
inductive BuiltinCategory where
  | core
  | math
  | string
  | lookup
  | sheet
  | book
  | io
  deriving Repr, DecidableEq

/-- The word for a category. -/
def BuiltinCategory.text : BuiltinCategory → String
  | core => "core"
  | math => "math"
  | string => "string"
  | lookup => "lookup"
  | sheet => "sheet"
  | book => "book"
  | io => "io"

/-- Every category. -/
def BuiltinCategory.all : List BuiltinCategory :=
  [core, math, string, lookup, sheet, book, io]

/-- The category with a word. -/
def BuiltinCategory.ofText? (text : String) : Option BuiltinCategory :=
  BuiltinCategory.all.find? fun category => category.text == text

/-- Output, inspection, ranges, formats and formulas. -/
inductive CoreFunction where
  | print
  | length
  | typeOf
  | isNull
  | isArray
  | keys
  | values
  | range
  | format
  | evalFormula
  /-- A capability that is not available, such as `fetch`. -/
  | unsupported (feature : String)
  deriving Repr, DecidableEq

/-- Numbers and aggregates. -/
inductive MathFunction where
  | abs
  | sum
  | average
  | minimum
  | maximum
  | count
  | product
  | round
  | floor
  | ceiling
  | squareRoot
  | power
  deriving Repr, DecidableEq

/-- Texts and conversions. -/
inductive TextFunction where
  | str
  | int
  | float
  | upper
  | lower
  | trim
  | left
  | right
  | mid
  | concat
  | replace
  | split
  | join
  | contains
  | instr
  deriving Repr, DecidableEq

/-- Lookups in arrays and tables. -/
inductive LookupFunction where
  | vlookup
  | hlookup
  | index
  | matchPosition
  | xlookup
  deriving Repr, DecidableEq

/-- Sheets of the script's book. -/
inductive SheetFunction where
  | new
  | rows
  | columns
  | get
  | set
  | getAddress
  | setAddress
  | getByName
  | setByName
  | getRange
  | nameColumnsByRow
  | nameRowsByColumn
  | columnNames
  | column
  | row
  | toArray
  | appendRow
  | transpose
  | selectColumns
  | removeColumns
  | removeEmptyRows
  | eval
  deriving Repr, DecidableEq

/-- The script's book as a whole. -/
inductive BookFunction where
  | sheetNames
  | sheetCount
  | hasSheet
  | getSheet
  | removeSheet
  | renameSheet
  | getSheetByIndex
  | activeSheet
  | setActiveSheet
  | addEmptySheet
  | consolidate
  | merge
  deriving Repr, DecidableEq

/-- Files. -/
inductive FileFunction where
  | importCsv
  | exportCsv
  | importParquet
  | exportParquet
  | importMarkdown
  deriving Repr, DecidableEq

/-- A built-in function. -/
inductive Builtin where
  | core (function : CoreFunction)
  | math (function : MathFunction)
  | text (function : TextFunction)
  | lookup (function : LookupFunction)
  | sheet (function : SheetFunction)
  | book (function : BookFunction)
  | file (function : FileFunction)
  deriving Repr, DecidableEq

/-- The category of a built-in function. -/
def Builtin.category : Builtin → BuiltinCategory
  | core _ => .core
  | math _ => .math
  | text _ => .string
  | lookup _ => .lookup
  | sheet _ => .sheet
  | book _ => .book
  | file _ => .io

/-- The function may suspend its script. -/
def Builtin.suspends : Builtin → Bool
  | sheet function =>
      [.new, .set, .setAddress, .setByName, .nameColumnsByRow, .nameRowsByColumn,
        .appendRow, .transpose, .selectColumns, .removeColumns,
        .removeEmptyRows].contains function
  | book function =>
      [.removeSheet, .renameSheet, .setActiveSheet, .addEmptySheet,
        .consolidate, .merge].contains function
  | file _ => true
  | _ => false

/-- The names of the built-in functions. -/
def catalogue : List (String × Builtin) := [
  ("print", .core .print),
  ("len", .core .length),
  ("length", .core .length),
  ("type", .core .typeOf),
  ("typeof", .core .typeOf),
  ("isnull", .core .isNull),
  ("isarray", .core .isArray),
  ("keys", .core .keys),
  ("values", .core .values),
  ("range", .core .range),
  ("format", .core .format),
  ("eval_formula", .core .evalFormula),
  ("fetch", .core (.unsupported "fetch")),
  ("query", .core (.unsupported "query")),
  ("py", .core (.unsupported "py")),
  ("ocr", .core (.unsupported "ocr")),
  ("abs", .math .abs),
  ("sum", .math .sum),
  ("avg", .math .average),
  ("average", .math .average),
  ("min", .math .minimum),
  ("max", .math .maximum),
  ("count", .math .count),
  ("product", .math .product),
  ("round", .math .round),
  ("floor", .math .floor),
  ("ceil", .math .ceiling),
  ("sqrt", .math .squareRoot),
  ("pow", .math .power),
  ("str", .text .str),
  ("int", .text .int),
  ("float", .text .float),
  ("upper", .text .upper),
  ("lower", .text .lower),
  ("trim", .text .trim),
  ("left", .text .left),
  ("right", .text .right),
  ("mid", .text .mid),
  ("concat", .text .concat),
  ("replace", .text .replace),
  ("split", .text .split),
  ("join", .text .join),
  ("contains", .text .contains),
  ("instr", .text .instr),
  ("vlookup", .lookup .vlookup),
  ("hlookup", .lookup .hlookup),
  ("index", .lookup .index),
  ("match", .lookup .matchPosition),
  ("xlookup", .lookup .xlookup),
  ("sheet_new", .sheet .new),
  ("sheet_rows", .sheet .rows),
  ("sheet_cols", .sheet .columns),
  ("sheet_get", .sheet .get),
  ("sheet_set", .sheet .set),
  ("sheet_get_a1", .sheet .getAddress),
  ("sheet_set_a1", .sheet .setAddress),
  ("sheet_get_by_name", .sheet .getByName),
  ("sheet_set_by_name", .sheet .setByName),
  ("sheet_get_range", .sheet .getRange),
  ("sheet_name_columns_by_row", .sheet .nameColumnsByRow),
  ("sheet_name_rows_by_column", .sheet .nameRowsByColumn),
  ("sheet_column_names", .sheet .columnNames),
  ("sheet_column", .sheet .column),
  ("sheet_row", .sheet .row),
  ("sheet_to_array", .sheet .toArray),
  ("sheet_append_row", .sheet .appendRow),
  ("sheet_transpose", .sheet .transpose),
  ("sheet_select_columns", .sheet .selectColumns),
  ("sheet_remove_columns", .sheet .removeColumns),
  ("sheet_remove_empty_rows", .sheet .removeEmptyRows),
  ("sheet_eval", .sheet .eval),
  ("book_sheet_names", .book .sheetNames),
  ("book_sheet_count", .book .sheetCount),
  ("book_has_sheet", .book .hasSheet),
  ("book_get_sheet", .book .getSheet),
  ("book_remove_sheet", .book .removeSheet),
  ("book_rename_sheet", .book .renameSheet),
  ("book_get_sheet_by_index", .book .getSheetByIndex),
  ("book_active_sheet", .book .activeSheet),
  ("book_set_active_sheet", .book .setActiveSheet),
  ("book_add_empty_sheet", .book .addEmptySheet),
  ("book_consolidate", .book .consolidate),
  ("book_merge", .book .merge),
  ("import_csv", .file .importCsv),
  ("export_csv", .file .exportCsv),
  ("import_parquet", .file .importParquet),
  ("export_parquet", .file .exportParquet),
  ("import_markdown", .file .importMarkdown)]

/-- The catalogue entry of a name in any letter case. -/
def entryNamed? (name : String) : Option (String × Builtin) :=
  let key := lower name
  catalogue.find? fun entry => entry.1 == key

/-- The built-in function with a name in any letter case. -/
def lookupBuiltin? (name : String) : Option Builtin :=
  (entryNamed? name).map Prod.snd

/-- The names in a category, or all names, in ascending order. -/
def builtinNames (category : Option String) : List String :=
  let kept := catalogue.filter fun entry =>
    match category with
    | none => true
    | some word => entry.2.category.text == word
  (kept.map Prod.fst).mergeSort fun left right => left ≤ right

/-- Why a name cannot be added to the catalogue. -/
inductive EntryError where
  | unknownCategory (word : String)
  | taken (name : String) (category : BuiltinCategory)
  deriving Repr, DecidableEq

/-- The wording of an entry error. -/
def EntryError.message : EntryError → String
  | unknownCategory word => "Unknown builtin category: " ++ quoted word
  | taken name category =>
      "Builtin " ++ quoted name ++ " already registered in category " ++
        quoted category.text

/-- A name is free and its category exists. -/
def checkEntry (name category : String) : Except EntryError Unit :=
  match BuiltinCategory.ofText? category with
  | none => .error (.unknownCategory category)
  | some _ =>
      match entryNamed? name with
      | some (taken, builtin) => .error (.taken taken builtin.category)
      | none => .ok ()

end GridScript.Script
