import GridScript.Sheet.Derive

namespace GridScript

/-!
# Books

A book keeps its sheets in order, each under a name. As long as there are
sheets, one of them is active. A reference to a sheet holds the identity of the
book and the name of the sheet.
-/

/-- An ordered collection of sheets. -/
structure Book where
  /-- What tells this book from others. -/
  id : Nat
  name : String
  /-- The sheets by the names under which they are kept. -/
  entries : List (String × Sheet)
  /-- The name of the active sheet. -/
  active : Option String
  deriving Repr, Inhabited

/-- A change of a book. -/
abbrev BookChange := Change SheetError Book

namespace Book

/-- A book without sheets. -/
def empty (id : Nat) (name : String) : Book :=
  ⟨id, name, [], none⟩

/-- The names under which the sheets are kept, in order. -/
def sheetNames (book : Book) : List String :=
  book.entries.map Prod.fst

/-- The sheets, in order. -/
def sheets (book : Book) : List Sheet :=
  book.entries.map Prod.snd

/-- The sheet with a name. -/
def find? (book : Book) (name : String) : Option Sheet :=
  book.entries.lookup name

/-- The book has a sheet with a name. -/
def has (book : Book) (name : String) : Bool :=
  (book.find? name).isSome

/-- The sheet with a name. -/
def get (book : Book) (name : String) : Outcome SheetError Sheet :=
  match book.find? name with
  | some sheet => .ok sheet
  | none => fail (.sheetNotFound name)

/-- The sheet at a position; negative positions count from the end. -/
def getByIndex (book : Book) (index : Int) : Outcome SheetError Sheet :=
  let fromStart := if index < 0 then index + book.sheets.length else index
  let found := if 0 ≤ fromStart then book.sheets[fromStart.toNat]? else none
  match found with
  | some sheet => .ok sheet
  | none => fail (.sheetNotFound ("#" ++ Number.intText index))

/-- The active sheet. -/
def activeSheet (book : Book) : Option Sheet :=
  book.active.bind book.find?

/-- The reference to the sheet with a name. -/
def refTo (book : Book) (name : String) : SheetRef :=
  ⟨book.id, name⟩

/-- The reference to a sheet of the book. -/
def ref (book : Book) (name : String) : Outcome SheetError SheetRef := do
  let _ ← book.get name
  return book.refTo name

/-- The sheet that a reference names. -/
def resolve (book : Book) (ref : SheetRef) : Outcome SheetError Sheet :=
  if ref.book = book.id then book.get ref.name else fail (.sheetNotFound ref.name)

/-- Entries with a sheet in the place of the first one kept under a name. -/
def storeEntry
    (name : String)
    (sheet : Sheet) : List (String × Sheet) → List (String × Sheet)
  | [] => []
  | (key, held) :: rest =>
      if key == name then (key, sheet) :: rest
      else (key, held) :: storeEntry name sheet rest

/-- The book with a sheet in the place of the one kept under a name. -/
def store (name : String) (sheet : Sheet) (book : Book) : Book :=
  { book with entries := storeEntry name sheet book.entries }

/-- Make a sheet the active one. -/
def setActive (name : String) : BookChange Unit := do
  let _ ← Change.ask (·.get name)
  modify fun book => { book with active := some name }

/-- Add a sheet at the end, under a name. The first sheet becomes active. -/
def add (name : String) (sheet : Sheet) : BookChange SheetRef := do
  let taken ← Change.look (·.has name)
  Change.require (taken = false) (.sheetExists name)
  modify fun book =>
    { book with entries := book.entries ++ [(name, sheet.rename name)] }
  modify fun book => { book with active := book.active <|> some name }
  Change.look (·.refTo name)

/-- Add an empty sheet at the end. -/
def addEmpty (name : String) : BookChange SheetRef :=
  add name (Sheet.empty name)

/-- Put a sheet in the place of the sheet with a name. -/
def replace (name : String) (sheet : Sheet) : BookChange Unit := do
  let _ ← Change.ask (·.get name)
  modify (store name (sheet.rename name))

/-- Remove a sheet, which is the result. Of an active sheet the first
remaining one takes over. -/
def remove (name : String) : BookChange Sheet := do
  let sheet ← Change.ask (·.get name)
  modify fun book =>
    { book with entries := book.entries.filter fun entry => entry.1 != name }
  modify fun book =>
    if book.active = some name then { book with active := book.sheetNames.head? }
    else book
  return sheet

/-- Keep the sheet that is kept under a name under another one, in its place. -/
def rekey (old new : String) (book : Book) : Book :=
  { book with
    entries :=
    book.entries.map fun (key, held) => (if key == old then new else key, held) }

/-- Give a sheet another name; it keeps its place. -/
def renameSheet (old new : String) : BookChange SheetRef := do
  let sheet ← Change.ask (·.get old)
  let taken ← Change.look (·.has new)
  Change.require (taken = true → new = old) (.sheetExists new)
  modify (rekey old new)
  modify (store new (sheet.rename new))
  modify fun book =>
    if book.active = some old then { book with active := some new } else book
  Change.look (·.refTo new)

/-- Add copies of all sheets of another book, or none if a name is taken. -/
def merge (other : Book) : BookChange Unit := do
  other.sheetNames.forM fun name => do
    let taken ← Change.look (·.has name)
    Change.require (taken = false) (.sheetExists name)
  other.entries.forM fun (name, sheet) => do
    let _ ← add name sheet

/-- What a book is called in a listing. -/
def summary (book : Book) : String :=
  "Book(name=" ++ Text.quoted book.name ++ ", sheets=" ++
    shownNames book.sheetNames ++ ")"

end Book

end GridScript
