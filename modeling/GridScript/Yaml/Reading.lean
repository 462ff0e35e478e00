import GridScript.Yaml.Cursor

namespace GridScript.Yaml

/-!
# Reading YAML

The part of YAML that settings are written in: block and flow collections, plain
and quoted scalars and literal blocks, without anchors and tags. A text outside
of it has no document.
-/

open GridScript.Number

/-- The text under which a value is a key; collections are no keys. -/
def keyText? : Json → Option String
  | .null => some "null"
  | .bool b => some (if b then "true" else "false")
  | .int i => some (intText i)
  | .float x => some (floatText x)
  | .string s => some s
  | _ => none

/-- A scalar in quotes. -/
def quoted? (quote : Char) (cursor : Cursor) : Option (Json × Cursor) := do
  let (text, stop) ← quotedFrom quote (cursor.rest.length + 1) (cursor.advance 1)
  return (.string (String.ofList text), stop)

/-- A plain scalar. -/
def plain?
    (flow : Bool)
    (indent : Int)
    (cursor : Cursor) : Option (Json × Cursor) := do
  let (text, stop) := plainFrom flow indent (cursor.rest.length + 1) cursor
  return (← scalar? text, stop)

mutual

/-- A node inside a flow collection. -/
def flowNode? (fuel : Nat) (cursor : Cursor) : Option (Json × Cursor) :=
  match fuel with
  | 0 => none
  | fuel + 1 =>
      match cursor.rest with
      | '[' :: _ => flowItems? fuel [] (cursor.advance 1).skipLayout
      | '\x7b' :: _ => flowMembers? fuel [] (cursor.advance 1).skipLayout
      | '"' :: _ => quoted? '"' cursor
      | '\'' :: _ => quoted? '\'' cursor
      | cs => if startsPlain true cs then plain? true 0 cursor else none

/-- The value after a key in a flow collection; it may be missing. -/
def flowValue? (fuel : Nat) (cursor : Cursor) : Option (Json × Cursor) :=
  match fuel with
  | 0 => none
  | fuel + 1 =>
      match cursor.rest with
      | ':' :: _ =>
          let next := (cursor.advance 1).skipLayout
          match next.rest with
          | ',' :: _ => some (.null, next)
          | ']' :: _ => some (.null, next)
          | '\x7d' :: _ => some (.null, next)
          | _ => (flowNode? fuel next).map fun (value, stop) =>
            (value, stop.skipLayout)
      | _ => some (.null, cursor)

/-- The items of a flow sequence; `done` holds those before, in reverse. -/
def flowItems?
    (fuel : Nat)
    (done : List Json)
    (cursor : Cursor) : Option (Json × Cursor) :=
  match fuel with
  | 0 => none
  | fuel + 1 =>
      match cursor.rest with
      | ']' :: _ => some (.array done.reverse, cursor.advance 1)
      | _ => do
          let (node, stop) ← flowNode? fuel cursor
          let after := stop.skipLayout
          let (item, after) ←
            match after.rest with
            | ':' :: _ => do
                let (value, next) ← flowValue? fuel after
                pure (Json.object [(← keyText? node, value)], next)
            | _ => pure (node, after)
          match after.rest with
          | ',' :: _ => flowItems? fuel (item :: done) (after.advance 1).skipLayout
          | ']' :: _ => flowItems? fuel (item :: done) after
          | _ => none

/-- The members of a flow mapping; `done` holds those before. -/
def flowMembers? (fuel : Nat) (done : List (String × Json)) (cursor : Cursor) :
    Option (Json × Cursor) :=
  match fuel with
  | 0 => none
  | fuel + 1 =>
      match cursor.rest with
      | '\x7d' :: _ => some (.object done, cursor.advance 1)
      | _ => do
          let (node, stop) ← flowNode? fuel cursor
          let key ← keyText? node
          let (value, after) ← flowValue? fuel stop.skipLayout
          let members := Json.insertMember key value done
          match after.rest with
          | ',' :: _ => flowMembers? fuel members (after.advance 1).skipLayout
          | '\x7d' :: _ => flowMembers? fuel members after
          | _ => none

end

/-- What a literal block does with the line feeds at its end. -/
inductive Chomping where
  | clip
  | strip
  | keep
  deriving Repr, DecidableEq

/-- The head of a literal block: its style, what it does at its end, and its
indentation if given. -/
structure BlockHead where
  folded : Bool
  chomping : Chomping
  indent : Option Nat
  deriving Repr

/-- A mark in the head of a literal block. -/
def BlockHead.mark? (head : BlockHead) (c : Char) : Option BlockHead :=
  if c = '+' then some { head with chomping := .keep }
  else if c = '-' then some { head with chomping := .strip }
  else if '1' ≤ c ∧ c ≤ '9' then some { head with indent := some (c.toNat - 48) }
  else none

/-- The head of a literal block, which ends its line. -/
def blockHead? (cs : List Char) : Option BlockHead :=
  match cs with
  | style :: rest =>
      let marks := rest.takeWhile (· != ' ')
      let comment := (rest.drop marks.length).dropWhile (· = ' ')
      if comment.isEmpty ∨ comment.head? = some '#' then
        marks.foldlM BlockHead.mark? ⟨style = '>', .clip, none⟩
      else none
  | [] => none

/-- The text of the lines of a literal block, without its last line feeds. -/
def blockText (folded : Bool) : List (List Char) → List Char
  | [] => []
  | [line] => line
  | line :: next :: rest =>
      let isText (cs : List Char) : Bool := cs.head?.isSome && cs.head? != some ' '
      if folded && isText line && isText next then
        line ++ ' ' :: blockText folded (next :: rest)
      else if folded && isText line && next.isEmpty then
        line ++ blockText folded (next :: rest)
      else line ++ '\n' :: blockText folded (next :: rest)

/-- The lines of a text. -/
def linesOf (cs : List Char) : List (List Char) :=
  (String.ofList cs).splitOn "\n" |>.map String.toList

/-- The line holds nothing but spaces. -/
def isBlankLine (line : List Char) : Bool :=
  line.all (· = ' ')

/-- The indentation of a literal block inside a node that is
indented by `indent`. -/
def blockWidth (head : BlockHead) (indent : Int) (lines : List (List Char)) : Nat :=
  match head.indent with
  | some n => indent.toNat + n
  | none =>
      let found := (lines.find? fun line => !isBlankLine line).map Cursor.spaces
      max (indent + 1).toNat (found.getD 0)

/-- The line feeds at the end of a literal block after whose text
there are so many. -/
def blockEnding (chomping : Chomping) (isEmpty : Bool) (breaks : Nat) : List Char :=
  match chomping with
  | .strip => []
  | .clip => if isEmpty ∨ breaks = 0 then [] else ['\n']
  | .keep => List.replicate breaks '\n'

/-- A literal block inside a node that is indented by `indent`, and the
cursor on the next line. -/
def literal? (indent : Int) (cursor : Cursor) : Option (Json × Cursor) := do
  match linesOf cursor.rest with
  | [] => none
  | first :: rest =>
      let head ← blockHead? first
      let endsLine := rest.getLast? == some []
      let lines := if endsLine then rest.dropLast else rest
      let width := blockWidth head indent lines
      let body :=
        lines.takeWhile fun line => isBlankLine line || width ≤ Cursor.spaces line
      let texts := body.map fun line => line.drop width
      let kept := (texts.reverse.dropWhile List.isEmpty).reverse
      let feeds :=
        texts.length - (if endsLine ∨ body.length < lines.length then 0 else 1)
      let breaks := feeds - (kept.length - 1)
      let ending := blockEnding head.chomping kept.isEmpty breaks
      let length := (first :: body).foldl (fun n line => n + line.length + 1) 0
      return (.string (String.ofList (blockText head.folded kept ++ ending)),
        cursor.advance length)

/-- A dash that starts an item stands here. -/
def startsItem : List Char → Bool
  | '-' :: rest => startsBlank rest
  | _ => false

/-- A scalar or a flow collection in a block. -/
def scalarOrFlow? (indent : Int) (cursor : Cursor) : Option (Json × Cursor) :=
  match cursor.rest with
  | '[' :: _ => flowNode? (2 * cursor.rest.length + 2) cursor
  | '\x7b' :: _ => flowNode? (2 * cursor.rest.length + 2) cursor
  | '"' :: _ => quoted? '"' cursor
  | '\'' :: _ => quoted? '\'' cursor
  | cs => if startsPlain false cs then plain? false indent cursor else none

/-- A node whose last line holds nothing more; the cursor goes to the next node. -/
def endLine? (node : Json) (cursor : Cursor) : Option (Json × Cursor) :=
  let next := cursor.skipLayout
  if next.isEnd || next.line != cursor.line then some (node, next) else none

mutual

/--
A node of a block, inside a node that is indented by `indent`, and the
cursor on the next one.

The cursor stands on its first character. Only where `fresh` holds can a
collection start here.
-/
def blockNode? (fuel : Nat) (indent : Int) (fresh : Bool) (cursor : Cursor) :
    Option (Json × Cursor) :=
  match fuel with
  | 0 => none
  | fuel + 1 =>
      if startsItem cursor.rest then
        if fresh then blockItems? fuel cursor.column [] cursor else none
      else
        match cursor.rest with
        | '|' :: _ => (literal? indent cursor).map fun (text, stop) =>
          (text, stop.skipLayout)
        | '>' :: _ => (literal? indent cursor).map fun (text, stop) =>
          (text, stop.skipLayout)
        | _ => do
            let (node, stop) ← scalarOrFlow? indent cursor
            let after := stop.skipSpaces
            if isSeparator false after.rest then
              if fresh && cursor.line == stop.line then
                blockMembers? fuel cursor.column [] cursor
              else none
            else endLine? node stop

/-- The items of a block sequence at a column; `done` holds those
before, in reverse. -/
def blockItems? (fuel : Nat) (column : Nat) (done : List Json) (cursor : Cursor) :
    Option (Json × Cursor) :=
  match fuel with
  | 0 => none
  | fuel + 1 =>
      if cursor.column = column ∧ startsItem cursor.rest then do
        let next := (cursor.advance 1).skipLayout
        let isMissing :=
          next.isEnd || (next.line != cursor.line && next.column ≤ column)
        let (item, after) ←
          if isMissing then pure (Json.null, next)
          else blockNode? fuel column true next
        blockItems? fuel column (item :: done) after
      else some (.array done.reverse, cursor)

/-- The members of a block mapping at a column; `done` holds those before. -/
def blockMembers?
    (fuel : Nat)
    (column : Nat)
    (done : List (String × Json))
    (cursor : Cursor) : Option (Json × Cursor) :=
  match fuel with
  | 0 => none
  | fuel + 1 =>
      if cursor.column = column ∧ ¬cursor.isEnd then do
        let (node, stop) ← scalarOrFlow? column cursor
        let key ← keyText? node
        let colon := stop.skipSpaces
        if !isSeparator false colon.rest || colon.line != cursor.line then none
        else
          let next := (colon.advance 1).skipLayout
          let (value, after) ←
            if next.isEnd then pure (Json.null, next)
            else if next.line = colon.line then blockNode? fuel column false next
            else if column < next.column then blockNode? fuel column true next
            else if next.column = column ∧ startsItem next.rest then
              blockItems? fuel column [] next
            else pure (Json.null, next)
          blockMembers? fuel column (Json.insertMember key value done) after
      else some (.object done, cursor)

end

/-- A character that a document may hold. -/
def isAllowed (c : Char) : Bool :=
  let code := c.toNat
  code == 9 || code == 10 || code == 13 || (32 ≤ code && code ≤ 126) ||
    code == 0x85 || (0xA0 ≤ code && code ≤ 0xFFFD) || 0x10000 ≤ code

/-- Line breaks of every form as line feeds. -/
def plainBreaks : List Char → List Char
  | [] => []
  | '\r' :: '\n' :: rest => '\n' :: plainBreaks rest
  | c :: rest => (if c = '\r' ∨ c.toNat = 0x85 then '\n' else c) :: plainBreaks rest

/-- The line is a mark between documents. -/
def isMark (mark : String) (line : List Char) : Bool :=
  mark.toList.isPrefixOf line && startsBlank (line.drop 3)

/-- The line holds nothing but blanks and a comment. -/
def isIdle (line : List Char) : Bool :=
  let content := line.dropWhile (· = ' ')
  content.isEmpty || content.head? = some '#'

/-- The lines of the only document of a text, after its start and before its end. -/
def documentLines? (lines : List (List Char)) : Option (List (List Char)) :=
  let body :=
    match lines.dropWhile isIdle with
    | [] => []
    | first :: rest =>
        if isMark "---" first then first.drop 3 :: rest else first :: rest
  let isEnding (line : List Char) : Bool := isMark "---" line || isMark "..." line
  let document := body.takeWhile fun line => !isEnding line
  let after := body.drop document.length
  match after with
  | [] => some document
  | mark :: rest =>
      if isMark "..." mark ∧ isIdle (mark.drop 3) ∧ rest.all isIdle then
        some (document ++ [[]])
      else none

/-- The document that a text holds; an empty one is null. -/
def parse? (text : String) : Option Json := do
  let cs := plainBreaks text.toList
  let cs :=
    match cs with
    | c :: rest => if c.toNat = 0xFEFF then rest else c :: rest
    | [] => []
  if !cs.all isAllowed then none
  else
    let lines ← documentLines? (linesOf cs)
    let body := List.intercalate ['\n'] lines
    let first := (Cursor.start body).skipLayout
    if first.isEnd then return .null
    else
      let (document, stop) ← blockNode? (2 * body.length + 2) (-1) true first
      if stop.isEnd then return document else none

end GridScript.Yaml
