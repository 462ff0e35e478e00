namespace GridScript.Parsing

/-!
# Tokens

A lexicon lists the kinds of tokens in the order in which they are tried. A
reader asks for the next token of the kinds that it can use; the first kind in
the order that matches wins, however short its match is. Ignored kinds are
always tried, and their lexemes are passed over.
-/

/-- A place in a text: line and column count from one, the position from zero. -/
structure Place where
  line : Nat
  column : Nat
  position : Nat
  deriving Repr, DecidableEq

namespace Place

/-- The first place of a text. -/
def start : Place := ⟨1, 1, 0⟩

/-- The place after a character. -/
def next (place : Place) (c : Char) : Place :=
  if c = '\n' then ⟨place.line + 1, 1, place.position + 1⟩
  else ⟨place.line, place.column + 1, place.position + 1⟩

/-- The place after some text. -/
def advance (place : Place) (cs : List Char) : Place :=
  cs.foldl next place

end Place

/-- A lexeme with its kind and its place. -/
structure Token (Kind : Type) where
  kind : Kind
  text : List Char
  place : Place
  deriving Repr, DecidableEq

/-- The text of a token. -/
def Token.string (token : Token Kind) : String :=
  String.ofList token.text

/-- The kinds of tokens of a language. -/
structure Lexicon (Kind : Type) where
  /-- Every kind, the first to be tried first. -/
  order : List Kind
  /-- Kinds whose lexemes are passed over. -/
  ignored : List Kind
  /-- Length of the lexeme of a kind at the head of a text. -/
  length? : Kind → List Char → Option Nat

/-- What stands at the head of a text. -/
inductive Scan (Kind : Type) where
  | token (token : Token Kind) (rest : List Char)
  | finished
  /-- No kind that was asked for matches this text. -/
  | stuck (place : Place) (text : List Char)

namespace Lexicon

/-- The first kind among the wanted ones that matches, and the
length of its lexeme. -/
def first?
    (lexicon : Lexicon Kind)
    (wanted : Kind → Bool)
    (cs : List Char) : Option (Kind × Nat) :=
  lexicon.order.findSome? fun kind =>
    if wanted kind then (lexicon.length? kind cs).map (kind, ·) else none

/-- The next token of a wanted kind, after at most `fuel` ignored lexemes. -/
def scanFrom
    [BEq Kind]
    (lexicon : Lexicon Kind)
    (wanted : Kind → Bool) : Nat → Place → List Char → Scan Kind
  | _, _, [] => .finished
  | 0, place, c :: cs => .stuck place (c :: cs)
  | fuel + 1, place, c :: cs =>
      match lexicon.first?
        (fun kind => lexicon.ignored.contains kind || wanted kind) (c :: cs) with
      | none => .stuck place (c :: cs)
      | some (kind, length) =>
          let lexeme := (c :: cs).take length
          let rest := (c :: cs).drop length
          if lexicon.ignored.contains kind then
            lexicon.scanFrom wanted fuel (place.advance lexeme) rest
          else .token ⟨kind, lexeme, place⟩ rest

/-- The next token of a wanted kind. -/
def scan
    [BEq Kind]
    (lexicon : Lexicon Kind)
    (wanted : Kind → Bool)
    (place : Place)
    (cs : List Char) : Scan Kind :=
  lexicon.scanFrom wanted cs.length place cs

end Lexicon

/-- Length of a fixed text at the head of another. -/
def fixedLength? : List Char → List Char → Option Nat
  | [], _ => some 0
  | _ :: _, [] => none
  | p :: pattern, c :: cs =>
      if p = c then (fixedLength? pattern cs).map (· + 1) else none

/-- Length of a run of characters of a class, if there is one. -/
def runLength? (inClass : Char → Bool) (cs : List Char) : Option Nat :=
  match (cs.takeWhile inClass).length with
  | 0 => none
  | n + 1 => some (n + 1)

/-- An ASCII letter or the underscore. -/
def isNameStart (c : Char) : Bool :=
  c.isAlpha || c == '_'

/-- An ASCII letter, an ASCII digit or the underscore. -/
def isNameChar (c : Char) : Bool :=
  c.isAlphanum || c == '_'

/-- Length of a name: a letter or underscore, then letters,
digits and underscores. -/
def nameLength? (cs : List Char) : Option Nat :=
  match cs with
  | c :: rest =>
      if isNameStart c then some ((rest.takeWhile isNameChar).length + 1) else none
  | [] => none

end GridScript.Parsing
