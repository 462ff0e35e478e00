import GridScript.Formula.Expression
import GridScript.Formula.Failure
import GridScript.Formula.Table
import GridScript.Number.Reading

namespace GridScript.Formula

/-!
# Reading formulas

Blanks around a formula and one equals sign before it have no effect.
Lines and columns of faults count from after the sign; the position counts
in the whole text.
-/

open GridScript.Number
open GridScript.Parsing
open GridScript.Text

/-!
## Phrases

What a rule of the grammar builds from its parts.
-/

/-- What a rule builds. -/
inductive Phrase where
  | token (token : Token Terminal)
  | expression (expression : Expression)
  | arguments (items : List Expression)

/-- The arguments of a phrase; other phrases have none. -/
def Phrase.argumentList : Phrase → List Expression
  | arguments items => items
  | _ => []

/-- The number of a token: a float if it has a point or an exponent. -/
def numberLiteral (token : Token Terminal) : Except Breach Phrase :=
  let cs := token.text
  if cs.any fun c => c == '.' || c == 'e' || c == 'E' then
    .ok (.expression (.literal (.float ((readFloat? cs).getD 0))))
  else
    match readInt cs with
    | .value i => .ok (.expression (.literal (.int i)))
    | .tooLong digits => .error (.longInteger digits)
    | .malformed => .ok (.expression (.literal (.int 0)))

/-- The text of a string token: escaped quotes are decoded first and
escaped backslashes then. -/
def decodeString (body : List Char) : List Char :=
  replaceAll ['\\', '\\'] ['\\'] (replaceAll ['\\', '"'] ['"'] body)

/-- The literal of a string token, without its quotes. -/
def stringLiteral (token : Token Terminal) : Expression :=
  .literal (.string (String.ofList (decodeString (token.text.drop 1).dropLast)))

/-- The literal of a truth word. -/
def truthLiteral (token : Token Terminal) : Expression :=
  .literal (.bool (upper token.string == "TRUE"))

/-- The phrase of a rule; none if the parts are not those of the rule. -/
def phrase? : Rule → List Phrase → Option Phrase
  | .formula, [part] => some part
  | .chain _ _, [part] => some part
  | .binary spelling, [.expression left, _, .expression right] =>
      some (.expression (.binary spelling.operator left right))
  | .minus, [_, .expression operand] => some (.expression (.signed .minus operand))
  | .plus, [_, .expression operand] => some (.expression (.signed .plus operand))
  | .percent, [.expression operand, _] =>
      some (.expression (.signed .percent operand))
  | .truth, [.token token] => some (.expression (truthLiteral token))
  | .string, [.token token] => some (.expression (stringLiteral token))
  | .call, [.token name, _, part, _] =>
      some (.expression (.call (upper name.string) part.argumentList))
  | .quotedSheetRange, [.token token] =>
      some (.expression (.reference (.ofSheetRange token.text)))
  | .sheetRange, [.token token] =>
      some (.expression (.reference (.ofSheetRange token.text)))
  | .quotedSheetCell, [.token token] =>
      some (.expression (.reference (.ofSheetCell token.text)))
  | .sheetCell, [.token token] =>
      some (.expression (.reference (.ofSheetCell token.text)))
  | .range, [.token token] => some (.expression (.reference (.ofRange token.text)))
  | .cell, [.token token] => some (.expression (.reference (.ofCell token.text)))
  | .dollarName, [_, .token name] => some (.expression (.name name.string))
  | .name, [.token name] => some (.expression (.name name.string))
  | .parenthesised, [_, part, _] => some part
  | .arguments false, [.expression first] => some (.arguments [first])
  | .arguments true, [.expression first, more] =>
      some (.arguments (first :: more.argumentList))
  | .noArguments, [] => some (.arguments [])
  | .secondArgument, [_, .expression item] => some (.arguments [item])
  | .nextArgument, [front, _, .expression item] =>
      some (.arguments (front.argumentList ++ [item]))
  | _, _ => none

/-- The phrase of a rule. Parts that are not those of the rule
give an empty list. -/
def buildPhrase (rule : Rule) (parts : List Phrase) : Except Breach Phrase :=
  match rule, parts with
  | .number, [.token token] => numberLiteral token
  | rule, parts => .ok ((phrase? rule parts).getD (.arguments []))

/-! ## Formulas -/

/-- The language of formulas. -/
def language : Language Terminal Rule Category Phrase Breach where
  lexicon := lexicon
  finish := .finish
  rows := Table.rows
  accepting := Table.accepting
  category := Rule.category
  arity := Rule.arity
  leaf := .token
  build := buildPhrase
  eager := true

/-- The formula without blanks around it and without its sign,
and where it begins. -/
def body (text : List Char) : List Char × Nat :=
  let offset := text.length - (trimLeft text).length
  match trim text with
  | '=' :: rest => (rest, offset + 1)
  | cs => (cs, offset)

/-- The error of a rejected text that begins at an offset. -/
def ParseError.ofRejection (offset : Nat) : Rejection Terminal → ParseError
  | .token token _ => ⟨.token token, offset + token.place.position⟩
  | .character c place _ => ⟨.character c place, offset + place.position⟩

/-- The expression of a text. -/
def parse (text : String) : Outcome ParseError Expression :=
  let (cs, offset) := body text.toList
  if (trim cs).isEmpty then fail ⟨.empty, 0⟩
  else
    match language.parse cs with
    | .accepted (.ok (.expression e)) => .ok e
    | .accepted (.ok _) => fail ⟨.empty, 0⟩
    | .accepted (.error b) => breach b
    | .rejected rejection => fail (ParseError.ofRejection offset rejection)
    | .stopped => fail ⟨.empty, 0⟩

end GridScript.Formula
