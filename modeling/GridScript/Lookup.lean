import GridScript.Value.Arithmetic

namespace GridScript.Lookup

/-!
# Lookups

Searches in arrays and tables, shared by scripts and formulas. Positions count
from one. An exact search takes the first equal element. An approximate search
takes the nearest element on the right side of the key wherever it stands, and
of equal ones the first.
-/

open GridScript.Number

/-- The rows of a table argument. -/
def requireTable
    (function : String)
    (v : Value) : Except OperationError (List (List Value)) :=
  match v.table? with
  | some rows => .ok rows
  | none => .error (.arguments function .table none)

/-- The items of an argument that is an array without arrays in it. -/
def requireVector (function : String) (v : Value) (what : String) :
    Except OperationError (List Value) :=
  match v with
  | .array items =>
      if items.any Value.isArray then
        .error (.arguments function (.vector what) none)
      else .ok items
  | _ => .error (.arguments function (.vector what) none)

/-- An argument that is an integer, or a float without a fraction. -/
def requirePosition
    (function : String)
    (v : Value)
    (what : String) : Except OperationError Int :=
  match v with
  | .int i => .ok i
  | .float x =>
      match whole? x with
      | some i => .ok i
      | none => .error (.arguments function (.integer what) none)
  | _ => .error (.arguments function (.integer what) none)

/-- A position as an offset within `1..extent`. -/
def offset
    (function what : String)
    (position : Int)
    (extent : Nat) : Except OperationError Nat :=
  if 1 ≤ position ∧ position ≤ extent then .ok (position - 1).toNat
  else .error (.bounds (.lookup function what position extent))

/-- The side of the key on which an approximate search looks. -/
inductive Side where
  | below
  | above
  deriving Repr, DecidableEq

/-- An order that keeps to the side. -/
def Side.admits : Side → Ordering → Bool
  | below, o => o != .gt
  | above, o => o != .lt

/-- An order that is strictly nearer to the key on the side. -/
def Side.improves : Side → Ordering → Bool
  | below, o => o == .gt
  | above, o => o == .lt

/-- Order of a candidate against the key; nulls have none. -/
def candidateOrder? (candidate key : Value) : Option Ordering :=
  candidate.order? key

/-- The better of the best candidate so far and the next candidate. -/
def better
    (side : Side)
    (key : Value)
    (best : Option (Nat × Value))
    (next : Nat × Value) : Except OperationError (Option (Nat × Value)) :=
  match candidateOrder? next.2 key with
  | none => .ok best
  | some o =>
      if !side.admits o then .ok best
      else
        match best with
        | none => .ok (some next)
        | some held =>
            (next.2.compareValues held.2).map fun o =>
              if side.improves o then some next else best

/-- Values with their offsets from `start`. -/
def numbered (start : Nat) : List Value → List (Nat × Value)
  | [] => []
  | v :: rest => (start, v) :: numbered (start + 1) rest

/-- The offset of the nearest value on a side of the key, if there is one. -/
def nearest (side : Side) (key : Value) (values : List Value) :
    Except OperationError (Option Nat) := do
  let best ← (numbered 0 values).foldlM (better side key) none
  return best.map Prod.fst

/-- The offset of the first value equal to the key. -/
def firstEqual? (key : Value) (values : List Value) : Option Nat :=
  values.findIdx? fun v => v.equal key

/-- The offset that an exact or an approximate search finds, if there is one. -/
def find
    (key : Value)
    (exact : Bool)
    (values : List Value) : Except OperationError (Option Nat) :=
  if exact then .ok (firstEqual? key values) else nearest .below key values

/-- The offset found, or the error that the key was not found. -/
def found (function : String) (key : Value) : Option Nat → Except OperationError Nat
  | some hit => .ok hit
  | none => .error (.notFound function key.display)

/-- The element at an offset; null where there is none. -/
def element (values : List Value) (i : Nat) : Value :=
  values.getD i .null

/-- The row at an offset; empty where there is none. -/
def rowAt (rows : List (List Value)) (i : Nat) : List Value :=
  rows.getD i []

/-- The number of columns of a table. -/
def width (rows : List (List Value)) : Nat :=
  (rowAt rows 0).length

/-- Find the key in the first column and take another column of its row. -/
def vlookup (key table column exact : Value) : Except OperationError Value := do
  let rows ← requireTable "vlookup" table
  let position ← requirePosition "vlookup" column "column"
  let j ← offset "vlookup" "column" position (width rows)
  let hit ← found "vlookup" key
    (← find key exact.isTruthy (rows.map fun row => element row 0))
  return element (rowAt rows hit) j

/-- Find the key in the first row and take another row of its column. -/
def hlookup (key table row exact : Value) : Except OperationError Value := do
  let rows ← requireTable "hlookup" table
  let position ← requirePosition "hlookup" row "row"
  let i ← offset "hlookup" "row" position rows.length
  let hit ← found "hlookup" key (← find key exact.isTruthy (rowAt rows 0))
  return element (rowAt rows i) hit

/-- The array is not empty and holds only arrays. -/
def isGrid : Value → Bool
  | .array items => !items.isEmpty && items.all Value.isArray
  | _ => false

/-- The element of a table at a row and column, a row of it, or an
element of an array. -/
def index
    (array row : Value)
    (column : Option Value) : Except OperationError Value := do
  if isGrid array then
    let rows ← requireTable "index" array
    let position ← requirePosition "index" row "row"
    let i ← offset "index" "row" position rows.length
    match column with
    | none =>
        let selected := rowAt rows i
        return if selected.length = 1 then element selected 0 else .array selected
    | some column =>
        let position ← requirePosition "index" column "column"
        let j ← offset "index" "column" position (width rows)
        return element (rowAt rows i) j
  else
    let values ← requireVector "index" array "array"
    let position ← requirePosition "index" row "position"
    match column with
    | none => pure ()
    | some column =>
        let only ← requirePosition "index" column "column"
        let _ ← offset "index" "column" only 1
    let i ← offset "index" "position" position values.length
    return element values i

/-- The position of the key: the first equal element, or the nearest below
(1) or above (-1) it. -/
def matchPosition (key array mode : Value) : Except OperationError Value := do
  let values ← requireVector "match" array "array"
  let chosen ← requirePosition "match" mode "match_type"
  let best ←
    if chosen = 0 then .ok (firstEqual? key values)
    else if chosen = 1 then nearest .below key values
    else if chosen = -1 then nearest .above key values
    else .error (.arguments "match" .matchType (some (.int chosen)))
  let hit ← found "match" key best
  return .int (hit + 1)

/-- Find the key in one array and take the aligned element of another. -/
def xlookup (key keys results : Value) (otherwise : Option Value) :
    Except OperationError Value := do
  let candidates ← requireVector "xlookup" keys "lookup_array"
  match results with
  | .array aligned =>
      if aligned.length ≠ candidates.length then
        .error (.arguments "xlookup" .alignedResults none)
      else
        match firstEqual? key candidates, otherwise with
        | some hit, _ => return element aligned hit
        | none, some v => return v
        | none, none => .error (.notFound "xlookup" key.display)
  | _ => .error (.arguments "xlookup" .alignedResults none)

end GridScript.Lookup
