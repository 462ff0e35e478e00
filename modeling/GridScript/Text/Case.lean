import GridScript.Text.CaseTable

namespace GridScript.Text

/-!
# Letter case

Upper and lower case of whole texts. A character may become several, and
a capital sigma becomes the final form at the end of a word. ASCII
letters only move by 32.
-/

/-- The run that moves a code point. -/
def CaseRun.moves (run : CaseRun) (code : Nat) : Bool :=
  run.first ≤ code && code ≤ run.last && (code - run.first) % run.stride == 0

/-- The image of a code point under the runs and expansions of a table. -/
def mapCase
    (runs : List CaseRun)
    (expansions : List (Nat × List Nat))
    (c : Char) : List Char :=
  let code := c.val.toNat
  match expansions.find? fun entry => entry.1 == code with
  | some (_, image) => image.map Char.ofNat
  | none =>
      match runs.find? fun run => run.moves code with
      | some run => [Char.ofNat (code + run.shift).toNat]
      | none => [c]

/-- The upper-case form of one character. -/
def upperChar (c : Char) : List Char :=
  if c.val < 128 then [c.toUpper] else mapCase upperRuns upperExpansions c

/-- The lower-case form of one character that is not a capital sigma. -/
def lowerChar (c : Char) : List Char :=
  if c.val < 128 then [c.toLower] else mapCase lowerRuns lowerExpansions c

/-- The first character, marks skipped, is a letter with case. -/
def startsCased : List Char → Bool
  | [] => false
  | c :: rest =>
      if inRanges caseIgnorableRanges c then startsCased rest
      else inRanges casedRanges c

/-- The lower-case form of a capital sigma between the reversed text before
and the text after. -/
def lowerSigma (before after : List Char) : Char :=
  if startsCased before && !startsCased after then 'ς' else 'σ'

/-- Lower case of the text that follows the characters `before`,
which stand in reverse. -/
def lowerAfter (before : List Char) : List Char → List Char
  | [] => []
  | c :: rest =>
      let image := if c == 'Σ' then [lowerSigma before rest] else lowerChar c
      image ++ lowerAfter (c :: before) rest

/-- Text in upper case. -/
def upper (text : String) : String :=
  String.ofList (text.toList.flatMap upperChar)

/-- Text in lower case. -/
def lower (text : String) : String :=
  String.ofList (lowerAfter [] text.toList)

/--
A character that stands for a lower-case ASCII letter where case is ignored.

Besides the two cases of the letter these are the dotted and dotless `i`, the
long `s` and the Kelvin sign.
-/
def standsFor (letter c : Char) : Bool :=
  c.toLower == letter ||
    (letter == 'i' && (c == 'İ' || c == 'ı')) ||
    (letter == 's' && c == 'ſ') ||
    (letter == 'k' && c == '\u212a')

/-- Length of a word in any letter case. -/
def foldedLength? : List Char → List Char → Option Nat
  | [], _ => some 0
  | _ :: _, [] => none
  | p :: word, c :: cs =>
      if standsFor p c then (foldedLength? word cs).map (· + 1) else none

end GridScript.Text
