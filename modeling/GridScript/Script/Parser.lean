import GridScript.Script.Phrase
import GridScript.Script.Table

namespace GridScript.Script

/-!
# Reading scripts

A script is read as a whole or not at all. Its last line counts as ended even
without a line break.
-/

open GridScript.Parsing

/-- The language of scripts. -/
def language : Language Terminal Rule Category Phrase PhraseFailure where
  lexicon := lexicon
  finish := .finish
  rows := Table.rows
  accepting := Table.accepting
  category := Rule.category
  arity := Rule.arity
  leaf := .token
  build := buildPhrase
  eager := false

/-- What a token is in a message. -/
def Found.ofToken (token : Token Terminal) : Found :=
  match token.kind with
  | .finish => .endOfInput
  | .newline => .endOfLine
  | _ => .text token.string

/-- The error of a rejected text. -/
def ParseError.ofRejection : Rejection Terminal → ParseError
  | .token token expected =>
      ⟨.unexpected (Found.ofToken token) expected, token.place.line,
        some token.place.column⟩
  | .character c place expected =>
      ⟨.unexpected (.character c) expected, place.line, some place.column⟩

/-- A text whose last line is ended. -/
def endLine (cs : List Char) : List Char :=
  if cs.getLast? = some '\n' then cs else cs ++ ['\n']

/-- The program of a text. -/
def parse (text : String) : Outcome ParseError Program :=
  match language.parse (endLine text.toList) with
  | .accepted (.ok phrase) => .ok ⟨phrase.statementList⟩
  | .accepted (.error failure) => .error failure
  | .rejected rejection => fail (ParseError.ofRejection rejection)
  | .stopped => fail ⟨.unexpected .endOfInput [], 1, some 1⟩

end GridScript.Script
