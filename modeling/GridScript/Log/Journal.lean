import GridScript.Files.Basic
import GridScript.Json.Line
import GridScript.Json.Reading
import GridScript.Log.Event
import GridScript.Text.Case
import GridScript.Text.Character
import GridScript.Text.Quoted
import GridScript.Text.Search
import GridScript.Text.Utf8

namespace GridScript.Log

/-!
# Journals

A journal keeps the lines of all events in one text, and those of each run in a
text of its own. Texts only grow. A line that is no JSON document is passed over
when the journal is read.
-/

open GridScript.Text

/-- The texts of a journal by their names. -/
structure Journal where
  texts : List (String × String)
  deriving Repr, DecidableEq

namespace Journal

/-- A journal without lines. -/
def empty : Journal := ⟨[]⟩

/-- The name of the text with the lines of all events. -/
def allName : String := "events.ndjson"

/-- The name of the text with the lines of a run. -/
def runName (run : String) : String :=
  s!"runs/{run}.ndjson"

/-- A letter, digit, underscore or hyphen. -/
def isIdChar (c : Char) : Bool :=
  c.isAlphanum || c == '_' || c == '-'

/-- The characters form a run id that can name a text. -/
def isSafeChars : List Char → Bool
  | [] => false
  | [c] => isIdChar c
  | [c, '\n'] => isIdChar c
  | c :: rest => isIdChar c && isSafeChars rest

/-- The run id can name a text; a line feed at its end is let through. -/
def isSafeId (run : String) : Bool :=
  isSafeChars run.toList

/-- The text with a name. -/
def text (journal : Journal) (name : String) : String :=
  (journal.texts.lookup name).getD ""

/-- Texts with a piece added at the end of the one with a name. -/
def extend (name piece : String) : List (String × String) → List (String × String)
  | [] => [(name, piece)]
  | (held, text) :: rest =>
      if held == name then (held, text ++ piece) :: rest
      else (held, text) :: extend name piece rest

/-- Add a piece at the end of a text. -/
def append (journal : Journal) (name piece : String) : Journal :=
  ⟨extend name piece journal.texts⟩

/-- The record of an event with the time at which it was written. -/
def stamped (event : Event) (time : String) : Json :=
  match event.record with
  | .object members => .object (members ++ [("ts", .string time)])
  | record => record

/-- The line of an event. -/
def lineOf (event : Event) (time : String) : String :=
  String.ofList ((stamped event time).line ++ ['\n'])

/-- Write an event to the text of all events and to that of its run. -/
def write (journal : Journal) (time : String) (event : Event) : Journal :=
  let line := lineOf event time
  let all := journal.append allName line
  match event.run with
  | some run => if isSafeId run then all.append (runName run) line else all
  | none => all

/-- The documents on the lines of a text. -/
def entries (text : String) : List Json :=
  (splitLines text.toList).filterMap fun line =>
    let content := trim line
    if content.isEmpty then none else Json.parse? content

/-- What a reader asks for. An empty text asks for nothing in particular. -/
structure Filter where
  level : Option String
  type : Option String
  run : Option String
  /-- The greatest number of entries; a negative number leaves out
  so many at the end. -/
  limit : Option Int
  deriving Repr

/-- The filter that lets every entry through, up to a common limit. -/
def Filter.all : Filter := ⟨none, none, none, some 200⟩

/-- A member of an entry has the value that is asked for. -/
def asks (wanted : Option String) (key : String) (entry : Json) : Bool :=
  match wanted with
  | none => true
  | some s => s.isEmpty || (entry.get? key).bind Json.text? == some s

/-- An entry passes a filter. -/
def Filter.accepts (filter : Filter) (entry : Json) : Bool :=
  asks filter.level "level" entry && asks filter.type "event_type" entry &&
    asks filter.run "run_id" entry

/-- The leading entries up to a limit. -/
def takeLimit (limit : Option Int) (entries : List α) : List α :=
  match limit with
  | none => entries
  | some n =>
      if n < 0 then entries.take (entries.length - n.natAbs)
      else entries.take n.toNat

/-- The entries that pass a filter, the newest first. -/
def readAll (journal : Journal) (filter : Filter) : List Json :=
  takeLimit filter.limit
    ((entries (journal.text allName)).filter filter.accepts).reverse

/-- The entries of a run, the oldest first. -/
def readRun (journal : Journal) (run : String) : List Json :=
  if isSafeId run then entries (journal.text (runName run)) else []

end Journal

/-!
## Journals in folders

A folder can hold the texts of a journal as files. Events are added
to them at the end.
-/

/-- A path in a folder. -/
def inFolder (folder name : String) : String :=
  Files.key (folder ++ "/" ++ name)

/-- Files with a text added at the end of one of them. -/
def appendText (files : Files) (path text : String) : Files :=
  files.place path ((files.read? path).getD ByteArray.empty ++ text.toUTF8)

/-- Write an event to the journal in a folder. -/
def writeTo (folder time : String) (files : Files) (event : Event) : Files :=
  (Journal.empty.write time event).texts.foldl
    (fun files (name, text) => appendText files (inFolder folder name) text) files

/-- The text with a name in the journal of a folder. -/
def textIn (files : Files) (folder name : String) : String :=
  match files.read? (inFolder folder name) with
  | some bytes => lenientText bytes.size bytes
  | none => ""

/-- The part of the journal in a folder that holds the given texts. -/
def journalIn (files : Files) (folder : String) (names : List String) : Journal :=
  ⟨names.map fun name => (name, textIn files folder name)⟩

/-!
## Listings of journals

Every entry of a journal is shown on one line: its time, level, type, message
and error code. An entry that lacks some of them is shown without.
-/

section Listings

open GridScript.Number

mutual

/-- The form of a value in a listing. -/
def shownJson : Json → String
  | .null => "None"
  | .bool b => if b then "True" else "False"
  | .int i => intText i
  | .float x => floatText x
  | .string s => quoted s
  | .array items => "[" ++ ", ".intercalate (shownJsonItems items) ++ "]"
  | .object members => "\x7b" ++ ", ".intercalate (shownJsonMembers members) ++
    "\x7d"

/-- The forms of the items of an array. -/
def shownJsonItems : List Json → List String
  | [] => []
  | item :: rest => shownJson item :: shownJsonItems rest

/-- The forms of the members of an object. -/
def shownJsonMembers : List (String × Json) → List String
  | [] => []
  | (key, value) :: rest =>
      (quoted key ++ ": " ++ shownJson value) :: shownJsonMembers rest

end

/-- The text of a member of an entry; a missing one has none. -/
def shownMember (entry : Json) (key : String) : String :=
  match entry.get? key with
  | none => ""
  | some (.string s) => s
  | some value => shownJson value

/-- A text with spaces up to a width. -/
def padRight (width : Nat) (text : String) : String :=
  text ++ String.ofList (List.replicate (width - text.length) ' ')

/-- The level of an entry in capitals; only a text is one. -/
def shownLevel? (entry : Json) : Option String :=
  match entry.get? "level" with
  | none => some ""
  | some value => value.text?.map upper

/-- The line that shows an entry; an entry that is no object has none. -/
def shownEntry? (entry : Json) : Option String :=
  match entry with
  | .object _ => do
      let level ← shownLevel? entry
      let code :=
        match entry.get? "error_code" with
        | some value =>
            if value.isTruthy then "  (" ++ shownMember entry "error_code" ++ ")"
            else ""
        | none => ""
      return "[" ++ shownMember entry "ts" ++ "] " ++ padRight 7 level ++ " " ++
        shownMember entry "event_type" ++ ": " ++ shownMember entry "message" ++
          code ++ "\n"
  | _ => none

end Listings

end GridScript.Log
