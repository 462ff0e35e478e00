import GridScript.Json.Basic

namespace GridScript.Json

/-!
# JSON on one line

The form of log entries: the members of every object are sorted by their keys,
and whatever is not plain ASCII is escaped, so that no entry holds a line break.
-/

/-- The codes of a character: one, or the two of a surrogate pair. -/
def escapeCodes (code : Nat) : List Char :=
  if code < 0x10000 then escapeCode code
  else
    let offset := code - 0x10000
    escapeCode (0xD800 + offset / 1024) ++ escapeCode (0xDC00 + offset % 1024)

/-- The letter of a short escape. -/
def shortLetter? (c : Char) : Option Char :=
  match c with
  | '"' => some '"'
  | '\\' => some '\\'
  | '\n' => some 'n'
  | '\r' => some 'r'
  | '\t' => some 't'
  | '\x0c' => some 'f'
  | '\x08' => some 'b'
  | _ => none

/-- A character of a string on a line. -/
def lineChar (c : Char) : List Char :=
  match shortLetter? c with
  | some letter => ['\\', letter]
  | none =>
      let code := c.val.toNat
      if 32 ≤ code ∧ code < 127 then [c] else escapeCodes code

/-- A string on a line. -/
def lineString (s : String) : List Char :=
  '"' :: s.toList.flatMap lineChar ++ ['"']

/-- A float on a line. -/
def lineFloat (x : Float) : List Char :=
  if x.isNaN then "NaN".toList
  else if x.isInf then (if x < 0 then "-Infinity".toList else "Infinity".toList)
  else (Number.floatText x).toList

/-- Texts separated by a comma and a blank. -/
def lineJoin (texts : List (List Char)) : List Char :=
  List.intercalate [',', ' '] texts

/-- Members sorted by their keys. -/
def sortMembers (members : List (String × List Char)) : List (String × List Char) :=
  members.mergeSort fun l r => decide (l.1 ≤ r.1)

mutual

/-- A document on a line. -/
def line : Json → List Char
  | null => "null".toList
  | bool b => if b then "true".toList else "false".toList
  | int i => (Number.intText i).toList
  | float x => lineFloat x
  | string s => lineString s
  | array items => '[' :: lineJoin (itemLines items) ++ [']']
  | object members =>
      let texts := (sortMembers (memberLines members)).map fun (key, text) =>
        lineString key ++ [':', ' '] ++ text
      '\x7b' :: lineJoin texts ++ ['\x7d']

/-- The items of an array, each on a line. -/
def itemLines : List Json → List (List Char)
  | [] => []
  | item :: rest => item.line :: itemLines rest

/-- The values of an object, each on a line, with their keys. -/
def memberLines : List (String × Json) → List (String × List Char)
  | [] => []
  | (key, value) :: rest => (key, value.line) :: memberLines rest

end

end GridScript.Json
