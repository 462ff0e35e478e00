import GridScript.Script.Machine

namespace GridScript.Script

/-!
# Places in values

Indexes count from zero, and negative ones from the end. Arrays are values:
writing at a place makes a new array along the path and leaves every other
holder of the old one as it was.
-/

/-- The position that an index names in a list of a length. -/
def position (length : Nat) (index : Value) : Outcome OperationError Nat :=
  match index with
  | .int i =>
      let place := if i < 0 then i + length else i
      if 0 ≤ place ∧ place < length then .ok place.toNat
      else fail (.bounds (.index i length))
  | v => fail (kindError .indexKind v)

/-- The value at a path of indexes into arrays. -/
def readAt : Value → List Value → Outcome OperationError Value
  | v, [] => .ok v
  | .array items, index :: path => do
      let i ← position items.length index
      readAt (items.getD i .null) path
  | v, _ :: _ => fail (kindError .indexInto v)

/-- An array with a value written at a path of indexes. -/
def writeAt (v : Value) : List Value → Value → Outcome OperationError Value
  | [], new => .ok new
  | index :: path, new =>
      match v with
      | .array items => do
          let i ← position items.length index
          let inner ← writeAt (items.getD i .null) path new
          return .array (items.set i inner)
      | v => fail (kindError .assignInto v)

/-- An element of an array, a character of a text or a row of a sheet. -/
def elementOf (book : Book) (container index : Value) : Attempt Value :=
  match container with
  | .array items => do
      let i ← operation (position items.length index)
      return items.getD i .null
  | .string s => do
      let i ← operation (position s.length index)
      return .string (String.ofList ((s.toList.drop i).take 1))
  | .sheet ref => do
      let sheet ← onSheet (book.resolve ref)
      let i ← operation (position sheet.rowCount index)
      return arrayOfCells (sheet.rows.getD i [])
  | v => fail (.operation (kindError .indexInto v))

/-- The elements of an array, the characters of a text or the rows of a sheet;
no other value has elements. -/
def elements (book : Book) (collection : Value) : Attempt (List Value) :=
  match collection with
  | .array items => .ok items
  | .string s => .ok (s.toList.map fun c => .string (String.singleton c))
  | .sheet ref => do
      let sheet ← onSheet (book.resolve ref)
      return sheet.rows.map arrayOfCells
  | v => fail (.operation (kindError .iterate v))

namespace Action

/-- The value at a place inside a variable. -/
def readPlace (name : String) (path : List Value) (line : Nat) : Action Value := do
  let v ← readVariable name line
  ofOperation (some line) (readAt v path)

/-- What a variable holds once a value is written at a place inside it. -/
def heldAfterWrite
    (name : String)
    (path : List Value)
    (v : Value)
    (line : Nat) : Action Value :=
  match path with
  | [] => pure v
  | path => do
      let held ← readVariable name line
      ofOperation (some line) (writeAt held path v)

/-- Write a value at a place inside a variable. A variable itself
need not exist before. -/
def writePlace
    (name : String)
    (path : List Value)
    (v : Value)
    (line : Nat) : Action Unit := do
  let written ← heldAfterWrite name path v line
  changeEnv (·.assign name written)

end Action

end GridScript.Script
