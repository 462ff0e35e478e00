import GridScript.Parsing.Lexicon
import GridScript.Text.Case
import GridScript.Text.Character
import GridScript.Text.Quoted

namespace GridScript.Script

/-!
# Tokens of scripts

Keywords are tried first, in any letter case, and end where no word character
follows. A line break swallows the blank lines and comment lines after it.
Comments and blanks between tokens are passed over.
-/

open GridScript.Parsing
open GridScript.Text

/-- The keywords. -/
inductive Keyword where
  | paramarrayKw
  | functionKw
  | optionalKw
  | elseifKw
  | returnKw
  | byrefKw
  | byvalKw
  | falseKw
  | whileKw
  | callKw
  | eachKw
  | elseKw
  | exitKw
  | nextKw
  | nullKw
  | stepKw
  | thenKw
  | trueKw
  | wendKw
  | andKw
  | dimKw
  | endKw
  | forKw
  | modKw
  | notKw
  | subKw
  | ifKw
  | inKw
  | orKw
  | toKw
  deriving Repr, DecidableEq

namespace Keyword

/-- The word of a keyword. -/
def word : Keyword → String
  | paramarrayKw => "paramarray"
  | functionKw => "function"
  | optionalKw => "optional"
  | elseifKw => "elseif"
  | returnKw => "return"
  | byrefKw => "byref"
  | byvalKw => "byval"
  | falseKw => "false"
  | whileKw => "while"
  | callKw => "call"
  | eachKw => "each"
  | elseKw => "else"
  | exitKw => "exit"
  | nextKw => "next"
  | nullKw => "null"
  | stepKw => "step"
  | thenKw => "then"
  | trueKw => "true"
  | wendKw => "wend"
  | andKw => "and"
  | dimKw => "dim"
  | endKw => "end"
  | forKw => "for"
  | modKw => "mod"
  | notKw => "not"
  | subKw => "sub"
  | ifKw => "if"
  | inKw => "in"
  | orKw => "or"
  | toKw => "to"

/-- The keywords in the order in which they are tried. -/
def all : List Keyword :=
  [paramarrayKw, functionKw, optionalKw, elseifKw, returnKw, byrefKw, byvalKw,
    falseKw, whileKw, callKw, eachKw, elseKw, exitKw, nextKw, nullKw, stepKw,
    thenKw, trueKw, wendKw, andKw, dimKw, endKw, forKw, modKw, notKw, subKw, ifKw,
    inKw, orKw, toKw]

end Keyword

/-- Operators and punctuation. -/
inductive Mark where
  | doubleEqual
  | angles
  | bangEqual
  | lessEqual
  | greaterEqual
  | percent
  | ampersand
  | openParen
  | closeParen
  | star
  | plus
  | comma
  | minus
  | slash
  | less
  | equal
  | greater
  | openBracket
  | closeBracket
  | caret
  deriving Repr, DecidableEq

namespace Mark

/-- The text of a mark. -/
def text : Mark → String
  | doubleEqual => "=="
  | angles => "<>"
  | bangEqual => "!="
  | lessEqual => "<="
  | greaterEqual => ">="
  | percent => "%"
  | ampersand => "&"
  | openParen => "("
  | closeParen => ")"
  | star => "*"
  | plus => "+"
  | comma => ","
  | minus => "-"
  | slash => "/"
  | less => "<"
  | equal => "="
  | greater => ">"
  | openBracket => "["
  | closeBracket => "]"
  | caret => "^"

/-- The marks, the longer ones first. -/
def all : List Mark :=
  [doubleEqual, angles, bangEqual, lessEqual, greaterEqual, percent, ampersand,
    openParen, closeParen, star, plus, comma, minus, slash, less, equal, greater,
    openBracket, closeBracket, caret]

end Mark

/-- The kinds of tokens of scripts. -/
inductive Terminal where
  | keyword (keyword : Keyword)
  | name
  /-- A line break with the blank and comment lines after it. -/
  | newline
  | number
  | comment
  | string
  | blank
  | mark (mark : Mark)
  | finish
  deriving Repr, DecidableEq

/-- No word character stands at the head of the text. -/
def endsWord : List Char → Bool
  | [] => true
  | c :: _ => !isWord c

/-- Length of a keyword at the head of a text. -/
def keywordLength? (keyword : Keyword) (cs : List Char) : Option Nat :=
  match foldedLength? keyword.word.toList cs with
  | some n => if endsWord (cs.drop n) then some n else none
  | none => none

/-- A blank inside a line. -/
def isInlineBlank (c : Char) : Bool :=
  c == ' ' || c == '\t' || c == '\x0c'

mutual

/-- Length of the blanks, the comment and the further line breaks
after a line break. -/
def afterBreak : List Char → Nat
  | '\r' :: '\n' :: rest => afterBreak rest + 2
  | '/' :: '/' :: rest => inComment rest + 2
  | c :: rest =>
      if c = '\n' || isInlineBlank c then afterBreak rest + 1
      else if c = '\'' then inComment rest + 1
      else 0
  | [] => 0

/-- Length of the rest of a comment and of the line breaks after it. -/
def inComment : List Char → Nat
  | c :: rest => if c = '\n' then afterBreak rest + 1 else inComment rest + 1
  | [] => 0

end

/-- Length of a line break with the blank and comment lines after it. -/
def newlineLength? : List Char → Option Nat
  | '\n' :: rest => some (afterBreak rest + 1)
  | '\r' :: '\n' :: rest => some (afterBreak rest + 2)
  | _ => none

/-- Length of a comment, up to the end of the line. -/
def commentLength? : List Char → Option Nat
  | '\'' :: rest => some ((rest.takeWhile (· != '\n')).length + 1)
  | '/' :: '/' :: rest => some ((rest.takeWhile (· != '\n')).length + 2)
  | _ => none

/-- Length of the rest of a string after its opening quote. -/
def stringBodyLength? : List Char → Option Nat
  | '"' :: _ => some 1
  | '\\' :: c :: rest =>
      if c = '\n' then none else (stringBodyLength? rest).map (· + 2)
  | '\\' :: [] => none
  | c :: rest => if c = '\n' then none else (stringBodyLength? rest).map (· + 1)
  | [] => none

/-- Length of a string in double quotes within a line. -/
def stringLength? : List Char → Option Nat
  | '"' :: rest => (stringBodyLength? rest).map (· + 1)
  | _ => none

/-- Length of a point and digits; zero if there are none. -/
def fractionLength : List Char → Nat
  | '.' :: rest =>
      match runLength? isDecimalDigit rest with
      | some n => n + 1
      | none => 0
  | _ => 0

/-- Length of an optional sign. -/
def signLength : List Char → Nat
  | '+' :: _ => 1
  | '-' :: _ => 1
  | _ => 0

/-- Length of an exponent; zero if there is none. -/
def exponentLength : List Char → Nat
  | c :: rest =>
      if c = 'e' || c = 'E' then
        match runLength? isDecimalDigit (rest.drop (signLength rest)) with
        | some n => signLength rest + n + 1
        | none => 0
      else 0
  | [] => 0

/-- Length of a number: digits, an optional fraction, an optional exponent. -/
def numberLength? (cs : List Char) : Option Nat :=
  match runLength? isDecimalDigit cs with
  | none => none
  | some whole =>
      let fraction := fractionLength (cs.drop whole)
      let exponent := exponentLength (cs.drop (whole + fraction))
      some (whole + fraction + exponent)

/-- Length of a token of a kind at the head of a text. -/
def Terminal.length? : Terminal → List Char → Option Nat
  | keyword k, cs => keywordLength? k cs
  | name, cs => nameLength? cs
  | newline, cs => newlineLength? cs
  | number, cs => numberLength? cs
  | comment, cs => commentLength? cs
  | string, cs => stringLength? cs
  | blank, cs => runLength? isInlineBlank cs
  | mark m, cs => fixedLength? m.text.toList cs
  | finish, _ => none

/-- The kinds of tokens in the order in which they are tried. -/
def Terminal.order : List Terminal :=
  Keyword.all.map .keyword ++
    [.name, .newline, .number, .comment, .string, .blank] ++ Mark.all.map .mark

/-- The tokens of scripts. -/
def lexicon : Lexicon Terminal where
  order := Terminal.order
  ignored := [.blank, .comment]
  length? := Terminal.length?

/-- A kind of token in a list of what was expected. -/
def Terminal.description : Terminal → String
  | keyword k => k.word
  | name => "name"
  | newline => "newline"
  | number => "number"
  | comment => "comment"
  | string => "string"
  | blank => "ws_inline"
  | mark m => quoted m.text
  | finish => "$end"

end GridScript.Script
