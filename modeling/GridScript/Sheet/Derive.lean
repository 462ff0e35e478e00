import GridScript.Sheet.Edit

namespace GridScript.Sheet

/-!
# Sheets made from sheets

A derived sheet keeps the name of its first source and has no row names.
-/

/-- Rows and columns swapped; column names become the first column. -/
def transpose (sheet : Sheet) : Sheet :=
  match sheet.columnNames with
  | some names =>
      let rows := names.mapIdx fun j name => Cell.text name :: sheet.columnAt j
      ofCells rows sheet.name (sheet.rowCount + 1)
  | none =>
      let rows := (List.range sheet.width).map sheet.columnAt
      ofCells rows sheet.name sheet.rowCount

/-- The columns with some names, in the given order. -/
def selectColumns
    (sheet : Sheet)
    (names : List String) : Outcome SheetError Sheet := do
  let positions ← names.mapM sheet.columnPosition
  let rows := sheet.rows.map fun row => positions.map fun j => row.getD j .empty
  (ofCells rows sheet.name positions.length).withColumnNames names

/-- The columns without some names. -/
def removeColumns
    (sheet : Sheet)
    (names : List String) : Outcome SheetError Sheet := do
  let dropped ← names.mapM sheet.columnPosition
  let kept :=
    (sheet.columnNames.getD []).zipIdx.filter fun held => !dropped.contains held.2
  sheet.selectColumns (kept.map Prod.fst)

/-- The two kinds of joins. -/
inductive JoinKind where
  /-- Only rows with a match. -/
  | inner
  /-- Rows without a match are filled with empty cells. -/
  | left
  deriving Repr, DecidableEq

/-- The kind of join that a word names. -/
def JoinKind.ofText? : String → Option JoinKind
  | "inner" => some .inner
  | "left" => some .left
  | _ => none

/-- Two cells have the same kind and value. -/
def sameKey : Cell → Cell → Bool
  | .empty, .empty => true
  | .bool l, .bool r => l == r
  | .number l, .number r => l == r
  | .text l, .text r => l == r
  | .error l, .error r => l == r
  | _, _ => false

/-- A name with as many suffixes as make it differ from the given names. -/
def freshName (names : List String) : Nat → String → String
  | 0, name => name
  | fuel + 1, name =>
      if names.contains name then freshName names fuel (name ++ "_right") else name

/-- The given names and then the further names, each made to differ
from those before it. -/
def addNames (names : List String) : List String → List String
  | [] => names
  | name :: rest =>
      addNames (names ++ [freshName names (names.length + 1) name]) rest

/-- All positions within a width but one. -/
def otherPositions (width j : Nat) : List Nat :=
  (List.range width).filter fun k => k != j

/-- Rows in groups, each beside the key of its first row. -/
abbrev RowGroups := List (Cell × List (List Cell))

namespace RowGroups

/-- The groups with one more row, at the end of the group of its key
or in a new group. -/
def add (groups : RowGroups) (key : Cell) (row : List Cell) : RowGroups :=
  match groups with
  | [] => [(key, [row])]
  | (held, rows) :: rest =>
      if sameKey held key then (held, rows ++ [row]) :: rest
      else (held, rows) :: add rest key row

/-- The rows grouped by their cells at a position. -/
def ofRows (j : Nat) (rows : List (List Cell)) : RowGroups :=
  rows.foldl (fun groups row => groups.add (row.getD j .empty) row) []

/-- The rows of the group of a key; none if it has no group. -/
def find (groups : RowGroups) (key : Cell) : List (List Cell) :=
  ((List.find? (fun group => sameKey group.1 key) groups).map Prod.snd).getD []

end RowGroups

/-- The rows of a join that come from one row of the left sheet and the rows
found for it, of which they take the cells at some positions. -/
def joinRow
    (kind : JoinKind)
    (positions : List Nat)
    (found : List (List Cell))
    (row : List Cell) : List (List Cell) :=
  let filled :=
    if found.isEmpty && kind == .left then
      [row ++ List.replicate positions.length .empty]
    else []
  filled ++ found.map fun other => row ++ positions.map fun k => other.getD k .empty

/-- The name of the key column of the right sheet; if none is given it is
that of the left one. -/
def rightKey (leftOn rightOn : String) : String :=
  if rightOn.isEmpty then leftOn else rightOn

/--
The rows of the left sheet, each with the rows of the right sheet that
have the same key.

The key column of the right sheet is left out, and its other columns
follow the left ones.
-/
def join
    (left right : Sheet)
    (leftOn rightOn : String)
    (kind : JoinKind) : Outcome SheetError Sheet :=
  let rightOn := rightKey leftOn rightOn
  match left.columnNames, right.columnNames with
  | some leftNames, some rightNames =>
      match (left.columnIndex.getD []).lookup leftOn,
        (right.columnIndex.getD []).lookup rightOn with
      | none, _ => fail (.joinKey leftOn .left)
      | _, none => fail (.joinKey rightOn .right)
      | some i, some j => do
          let positions := otherPositions right.width j
          let names :=
            addNames leftNames (positions.map fun k => rightNames.getD k "")
          let groups := RowGroups.ofRows j right.rows
          let rows := left.rows.flatMap fun row =>
            joinRow kind positions (groups.find (row.getD i .empty)) row
          let joined ← ofRows rows left.name names.length
          joined.withColumnNames names
  | _, _ => fail .columnsNotNamed

end GridScript.Sheet
