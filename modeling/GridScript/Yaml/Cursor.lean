import GridScript.Json.Reading
import GridScript.Yaml.Scalar

namespace GridScript.Yaml

/-!
# Places in a document

A cursor is what remains of a document, with the line and the column of its
first character. Layout is spaces, comments and line feeds; a tab is no layout.
-/

/-- What remains of a document. -/
structure Cursor where
  rest : List Char
  line : Nat
  column : Nat
  deriving Repr

namespace Cursor

/-- The start of a document. -/
def start (cs : List Char) : Cursor := ⟨cs, 0, 0⟩

/-- The cursor after a character. -/
def step (cursor : Cursor) (c : Char) (rest : List Char) : Cursor :=
  if c = '\n' then ⟨rest, cursor.line + 1, 0⟩
  else ⟨rest, cursor.line, cursor.column + 1⟩

/-- The cursor after some characters. -/
def advance : Nat → Cursor → Cursor
  | 0, cursor => cursor
  | n + 1, cursor =>
      match cursor.rest with
      | [] => cursor
      | c :: rest => advance n (cursor.step c rest)

/-- The number of leading spaces. -/
def spaces (cs : List Char) : Nat :=
  (cs.takeWhile (· = ' ')).length

/-- The cursor after spaces. -/
def skipSpaces (cursor : Cursor) : Cursor :=
  cursor.advance (spaces cursor.rest)

/-- The number of characters of leading layout; `comment` holds inside a comment. -/
def layoutLength (comment : Bool) : List Char → Nat
  | [] => 0
  | c :: rest =>
      if c = '\n' then layoutLength false rest + 1
      else if comment then layoutLength true rest + 1
      else if c = ' ' then layoutLength false rest + 1
      else if c = '#' then layoutLength true rest + 1
      else 0

/-- The cursor after layout. -/
def skipLayout (cursor : Cursor) : Cursor :=
  cursor.advance (layoutLength false cursor.rest)

/-- Nothing remains. -/
def isEnd (cursor : Cursor) : Bool :=
  cursor.rest.isEmpty

end Cursor

/-- The text starts with a blank or is at its end. -/
def startsBlank : List Char → Bool
  | [] => true
  | c :: _ => c == ' ' || c == '\n' || c == '\t'

/-- A character that structures flow collections. -/
def isFlowSign (c : Char) : Bool :=
  c == ',' || c == '[' || c == ']' || c == '\x7b' || c == '\x7d'

/-- A character that no plain scalar starts with. -/
def isIndicator (c : Char) : Bool :=
  isFlowSign c || "#&*!|>%@'\"\t\n ".toList.contains c || c.toNat == 96

/-- A plain scalar can start here. -/
def startsPlain (flow : Bool) : List Char → Bool
  | [] => false
  | c :: rest =>
      if c = '-' then !startsBlank rest
      else if c = '?' ∨ c = ':' then !flow && !startsBlank rest
      else !isIndicator c

/-- A colon stands here that separates a key from its value. -/
def isSeparator (flow : Bool) : List Char → Bool
  | ':' :: rest =>
      startsBlank rest || (flow && (rest.head?.map isFlowSign).getD false)
  | _ => false

/-- The characters of a plain scalar up to the end of its part of a line. -/
def plainPart (flow : Bool) : List Char → List Char
  | [] => []
  | c :: rest =>
      if c = '\n' ∨ c = '\t' then []
      else if isSeparator flow (c :: rest) then []
      else if flow && (isFlowSign c || c == '?') then []
      else if c = ' ' ∧ rest.head? = some '#' then []
      else c :: plainPart flow rest

/-- Characters without the spaces at their end. -/
def dropEndSpaces (cs : List Char) : List Char :=
  (cs.reverse.dropWhile (· = ' ')).reverse

/-- Folded line breaks: one becomes a space, and further ones stay. -/
def foldBreaks (breaks : Nat) : List Char :=
  if breaks ≤ 1 then [' '] else List.replicate (breaks - 1) '\n'

/-- Leading spaces and line feeds. -/
def breaksOf (cs : List Char) : List Char :=
  cs.takeWhile fun c => c == ' ' || c == '\n'

/-- The characters of a plain scalar and the cursor after them. Lines that are
indented further than `indent` continue it. -/
def plainFrom (flow : Bool) (indent : Int) : Nat → Cursor → List Char × Cursor
  | 0, cursor => ([], cursor)
  | fuel + 1, cursor =>
      let raw := plainPart flow cursor.rest
      let part := dropEndSpaces raw
      let after := cursor.advance raw.length
      let run := breaksOf after.rest
      let breaks := run.count '\n'
      let next := after.advance run.length
      let goesOn :=
        breaks > 0 && !next.isEnd && (flow || indent < next.column) &&
          next.rest.head? != some '#' && !(plainPart flow next.rest).isEmpty
      if goesOn then
        let (more, stop) := plainFrom flow indent fuel next
        (part ++ foldBreaks breaks ++ more, stop)
      else (part, cursor.advance part.length)

/-- The character of an escape in double quotes, of which the code has no digits. -/
def escape? (c : Char) : Option Char :=
  match c with
  | '0' => some (Char.ofNat 0)
  | 'a' => some (Char.ofNat 7)
  | 'b' => some (Char.ofNat 8)
  | 't' => some '\t'
  | '\t' => some '\t'
  | 'n' => some '\n'
  | 'v' => some (Char.ofNat 11)
  | 'f' => some (Char.ofNat 12)
  | 'r' => some '\r'
  | 'e' => some (Char.ofNat 27)
  | ' ' => some ' '
  | '"' => some '"'
  | '/' => some '/'
  | '\\' => some '\\'
  | 'N' => some (Char.ofNat 0x85)
  | '_' => some (Char.ofNat 0xA0)
  | 'L' => some (Char.ofNat 0x2028)
  | 'P' => some (Char.ofNat 0x2029)
  | _ => none

/-- The number of digits of an escape code. -/
def codeLength? (c : Char) : Option Nat :=
  match c with
  | 'x' => some 2
  | 'u' => some 4
  | 'U' => some 8
  | _ => none

/-- The body of a scalar in quotes and the cursor after the closing one. -/
def quotedFrom (quote : Char) : Nat → Cursor → Option (List Char × Cursor)
  | 0, _ => none
  | fuel + 1, cursor => do
      let goOn (text : List Char) (length : Nat) : Option (List Char × Cursor) := do
        let (more, stop) ← quotedFrom quote fuel (cursor.advance length)
        return (text ++ more, stop)
      match cursor.rest with
      | [] => none
      | c :: rest =>
          if c = quote then
            if quote = '\'' ∧ rest.head? = some '\'' then goOn ['\''] 2
            else return ([], cursor.advance 1)
          else if c = '\\' ∧ quote = '"' then
            match rest with
            | [] => none
            | '\n' :: more => goOn [] (2 + Cursor.spaces more)
            | e :: more =>
                match codeLength? e with
                | some n =>
                    let digits := more.take n
                    let code ← (digits.mapM Json.hexValue?).map fun ds =>
                      ds.foldl (fun code d => code * 16 + d) 0
                    if digits.length = n ∧ code.isValidChar then
                      goOn [Char.ofNat code] (n + 2)
                    else none
                | none => goOn [← escape? e] 2
          else if c = ' ' ∨ c = '\n' then
            let run := breaksOf cursor.rest
            let breaks := run.count '\n'
            goOn (if breaks = 0 then run else foldBreaks breaks) run.length
          else goOn [c] 1

end GridScript.Yaml
