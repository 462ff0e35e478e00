namespace GridScript.Text

/-!
# Search in texts

Occurrences of one text in another, found from the left and without overlap.
-/

/-- The text after a leading `pattern`. -/
def dropLeading? : List Char → List Char → Option (List Char)
  | [], cs => some cs
  | _ :: _, [] => none
  | p :: pattern, c :: cs => if p = c then dropLeading? pattern cs else none

/-- The characters before the first occurrence of `pattern`, and those after it. -/
def cut? (pattern : List Char) : List Char → Option (List Char × List Char)
  | [] => if pattern.isEmpty then some ([], []) else none
  | c :: cs =>
      match dropLeading? pattern (c :: cs) with
      | some rest => some ([], rest)
      | none => (cut? pattern cs).map fun (before, after) => (c :: before, after)

/-- `pattern` occurs in the text. -/
def occurs (pattern cs : List Char) : Bool :=
  (cut? pattern cs).isSome

/-- The position of the first occurrence of `pattern`. -/
def find? (pattern cs : List Char) : Option Nat :=
  (cut? pattern cs).map fun (before, _) => before.length

/--
The pieces of a text between the occurrences of a non-empty separator.

`skip` characters of a separator just found are passed over, and `piece` holds
the current piece in reverse.
-/
def piecesAfter
    (separator : List Char)
    (skip : Nat)
    (piece : List Char) : List Char → List (List Char)
  | [] => [piece.reverse]
  | c :: cs =>
      match skip with
      | skip + 1 => piecesAfter separator skip piece cs
      | 0 =>
          if (dropLeading? separator (c :: cs)).isSome then
            piece.reverse :: piecesAfter separator (separator.length - 1) [] cs
          else piecesAfter separator 0 (c :: piece) cs

/-- The pieces of a text between the occurrences of a separator; the whole
text for an empty one. -/
def pieces (separator cs : List Char) : List (List Char) :=
  if separator.isEmpty then [cs] else piecesAfter separator 0 [] cs

/--
A text with a replacement in place of every occurrence of a non-empty pattern.

`skip` characters of an occurrence just found are passed over.
-/
def replaceAfter
    (pattern replacement : List Char)
    (skip : Nat) : List Char → List Char
  | [] => []
  | c :: cs =>
      match skip with
      | skip + 1 => replaceAfter pattern replacement skip cs
      | 0 =>
          if (dropLeading? pattern (c :: cs)).isSome then
            replacement ++ replaceAfter pattern replacement (pattern.length - 1) cs
          else c :: replaceAfter pattern replacement 0 cs

/-- Every occurrence of a pattern replaced; the whole text for an empty one. -/
def replaceAll (pattern replacement cs : List Char) : List Char :=
  if pattern.isEmpty then cs else replaceAfter pattern replacement 0 cs

/-- Every occurrence of a character replaced by a text. -/
def replaceChar (c : Char) (replacement cs : List Char) : List Char :=
  cs.flatMap fun d => if d = c then replacement else [d]

/-!
## Lines

A document is cut at line feeds, carriage returns and the other line separators;
a carriage return and the line feed after it end one line. Nothing follows the
last separator, so a text that ends in one has no empty last line.
-/

/-- A character that ends a line. -/
def isLineBreak (c : Char) : Bool :=
  let code := c.val.toNat
  (10 ≤ code && code ≤ 13) || (28 ≤ code && code ≤ 30) ||
    code == 133 || code == 8232 || code == 8233

/-- The lines of the characters, where `line` holds the current line in reverse. -/
def linesAfter (line : List Char) : List Char → List (List Char)
  | [] => if line.isEmpty then [] else [line.reverse]
  | '\r' :: '\n' :: rest => line.reverse :: linesAfter [] rest
  | c :: rest =>
      if isLineBreak c then line.reverse :: linesAfter [] rest
      else linesAfter (c :: line) rest

/-- The lines of a text, without their separators. -/
def splitLines (cs : List Char) : List (List Char) :=
  linesAfter [] cs

end GridScript.Text
