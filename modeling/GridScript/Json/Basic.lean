import GridScript.Number.FloatText

namespace GridScript

/-!
# JSON documents

Objects keep the order of their members. Integers stay exact, and a number with
a fraction or an exponent is a float.
-/

/-- A JSON document. -/
inductive Json where
  | null
  | bool (b : Bool)
  | int (i : Int)
  | float (x : Float)
  | string (s : String)
  | array (items : List Json)
  | object (members : List (String × Json))
  deriving Repr, Inhabited

namespace Json

/-- A member of an object. -/
def get? (j : Json) (key : String) : Option Json :=
  match j with
  | object members => (members.find? fun m => m.1 == key).map Prod.snd
  | _ => none

/-- Members with a value stored under a key: in its place if the key is
there, else at the end. -/
def insertMember
    (key : String)
    (value : Json) : List (String × Json) → List (String × Json)
  | [] => [(key, value)]
  | m :: rest =>
      if m.1 == key then (key, value) :: rest else m :: insertMember key value rest

/-- The text that a document is. -/
def text? : Json → Option String
  | string s => some s
  | _ => none

/-- Null, false, zero and whatever is empty count as false, all else as true. -/
def isTruthy : Json → Bool
  | null => false
  | bool b => b
  | int i => i != 0
  | float x => x != 0
  | string s => !s.isEmpty
  | array items => !items.isEmpty
  | object members => !members.isEmpty

/-- A hexadecimal digit. -/
def hexDigit (n : Nat) : Char :=
  Char.ofNat (if n < 10 then 48 + n else 87 + n)

/-- A character below U+10000 by its code. -/
def escapeCode (code : Nat) : List Char :=
  ['\\', 'u', hexDigit (code / 4096 % 16), hexDigit (code / 256 % 16),
    hexDigit (code / 16 % 16), hexDigit (code % 16)]

/-- A control character or a line separator, which a written string escapes. -/
def needsEscape (code : Nat) : Bool :=
  code < 32 || (127 ≤ code && code < 160) || code == 0x2028 || code == 0x2029

/-- A character of a written string. -/
def escapeChar (c : Char) : List Char :=
  if c == '"' then ['\\', '"']
  else if c == '\\' then ['\\', '\\']
  else if c == '\n' then ['\\', 'n']
  else if needsEscape c.val.toNat then escapeCode c.val.toNat
  else [c]

/-- A string in quotes. -/
def renderString (s : String) : List Char :=
  '"' :: s.toList.flatMap escapeChar ++ ['"']

mutual

/-- The text of a document, without blanks. -/
def render : Json → List Char
  | null => "null".toList
  | bool b => if b then "true".toList else "false".toList
  | int i => (Number.intText i).toList
  | float x => (Number.floatText x).toList
  | string s => renderString s
  | array items => '[' :: renderItems items ++ [']']
  | object members => '\x7b' :: renderMembers members ++ ['\x7d']

/-- The texts of items, separated by commas. -/
def renderItems : List Json → List Char
  | [] => []
  | [item] => item.render
  | item :: rest => item.render ++ ',' :: renderItems rest

/-- The texts of members, separated by commas. -/
def renderMembers : List (String × Json) → List Char
  | [] => []
  | [(key, value)] => renderString key ++ ':' :: value.render
  | (key, value) :: rest =>
      renderString key ++ ':' :: value.render ++ ',' :: renderMembers rest

end

end Json

end GridScript
