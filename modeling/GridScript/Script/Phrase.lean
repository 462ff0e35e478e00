import GridScript.Number.Reading
import GridScript.Parsing.Automaton
import GridScript.Script.Grammar

namespace GridScript.Script

/-!
# Phrases

What a rule of the grammar builds from its parts. Statements get the line of
their first word; operators get the line of their left operand. A number, a
loop and a function definition can be well placed and still be wrong;
`ParseFault` lists how.
-/

open GridScript.Number
open GridScript.Parsing
open GridScript.Text

/-- What stood where something else was expected. -/
inductive Found where
  | character (c : Char)
  | text (text : String)
  | endOfLine
  | endOfInput
  deriving Repr, DecidableEq

/-- The wording of what was found. -/
def Found.wording : Found → String
  | character c => quoted (String.singleton c)
  | text t => quoted t
  | endOfLine => "end of line"
  | endOfInput => "end of input"

/-- What is wrong with a script text. -/
inductive ParseFault where
  | unexpected (found : Found) (expected : List Terminal)
  | integerRange (digits : String)
  /-- The name after `next` is not the name of the loop variable. -/
  | loopName (found expected : String)
  | duplicateParameter (function : String)
  | restParameterPlace
  deriving Repr, DecidableEq

/-- The wording of a fault, without what was expected. -/
def ParseFault.message : ParseFault → String
  | unexpected found _ => "Unexpected " ++ found.wording
  | integerRange digits => s!"Integer literal {digits} is out of range"
  | loopName found expected =>
      "'next " ++ found ++ "' does not match loop variable '" ++ expected ++ "'"
  | duplicateParameter function =>
      "Duplicate parameter name in function " ++ function
  | restParameterPlace => "paramarray must be the last parameter"

/-- A fault with its place. -/
structure ParseError where
  fault : ParseFault
  line : Nat
  column : Option Nat
  deriving Repr, DecidableEq

namespace ParseError

/-- The descriptions of the expected tokens, in order. -/
def expected (error : ParseError) : List String :=
  match error.fault with
  | .unexpected _ kinds =>
      (kinds.map Terminal.description).mergeSort (fun a b => decide (a ≤ b))
  | _ => []

/-- The wording of a fault with its column. -/
def message (error : ParseError) : String :=
  match error.column with
  | some column => error.fault.message ++ s!" (column {column})"
  | none => error.fault.message

/-- The wording of a fault with its column and the expected tokens. -/
def detail (error : ParseError) : String :=
  match error.expected with
  | [] => error.message
  | descriptions => error.message ++ "; expected one of: " ++
    ", ".intercalate descriptions

end ParseError

/-- An `elseif` or the first branch of a conditional. -/
abbrev Branch := Expression × List Statement

/-- What a rule builds. -/
inductive Phrase where
  | token (token : Token Terminal)
  | expression (expression : Expression)
  | arguments (items : List Expression)
  | target (target : Target)
  | statements (statements : List Statement)
  | parameters (parameters : List Parameter)
  | branches (branches : List Branch)
  | otherwise (body : List Statement)

/-- Why a phrase has no value. -/
abbrev PhraseFailure := Failure ParseError

namespace Phrase

/-- The statements of a phrase; a line break has none. -/
def statementList : Phrase → List Statement
  | statements body => body
  | _ => []

/-- The arguments of a phrase; other phrases have none. -/
def argumentList : Phrase → List Expression
  | arguments items => items
  | _ => []

/-- The parameters of a phrase; other phrases have none. -/
def parameterList : Phrase → List Parameter
  | parameters items => items
  | _ => []

end Phrase

/-- The fault at a token. -/
def faultAt (token : Token Terminal) (fault : ParseFault) : PhraseFailure :=
  .error ⟨fault, token.place.line, some token.place.column⟩

/-- The number of a token: a float if it has a point or an exponent. -/
def numberLiteral (token : Token Terminal) : Except PhraseFailure Expression :=
  let cs := token.text
  let line := token.place.line
  if cs.any fun c => c == '.' || c == 'e' || c == 'E' then
    .ok (.literal (.float ((readFloat? cs).getD 0)) line)
  else
    match readInt cs with
    | .value i =>
        if i > maxInt then .error (faultAt token (.integerRange token.string))
        else .ok (.literal (.int i) line)
    | _ => .error (.breach .longLiteral)

/-- A text without the backslashes of its escapes; unknown escapes stay. -/
def unescape : List Char → List Char
  | '\\' :: 'n' :: rest => '\n' :: unescape rest
  | '\\' :: 't' :: rest => '\t' :: unescape rest
  | '\\' :: 'r' :: rest => '\r' :: unescape rest
  | '\\' :: '0' :: rest => '\x00' :: unescape rest
  | '\\' :: '\\' :: rest => '\\' :: unescape rest
  | '\\' :: '"' :: rest => '"' :: unescape rest
  | '\\' :: c :: rest => '\\' :: c :: unescape rest
  | c :: rest => c :: unescape rest
  | [] => []

/-- The text of a string token, without its quotes. -/
def stringLiteral (token : Token Terminal) : Expression :=
  let body := (token.text.drop 1).dropLast
  .literal (.string (String.ofList (unescape body))) token.place.line

/-- A call of the function that a token names. -/
def callOf (name : Token Terminal) (arguments : List Expression) : Expression :=
  .call name.string arguments name.place.line

/-- A loop may repeat the name of its variable after `next`. -/
def checkLoopName
    (name : Token Terminal)
    (trailing : Option (Token Terminal)) : Except PhraseFailure Unit :=
  match trailing with
  | none => .ok ()
  | some found =>
      if found.text = name.text then .ok ()
      else .error (faultAt found (.loopName found.string name.string))

/-- A counted loop. -/
def countedLoop
    (word name : Token Terminal)
    (start finish : Expression)
    (step : Option Expression)
    (body : List Statement)
    (trailing : Option (Token Terminal)) : Except PhraseFailure Phrase := do
  checkLoopName name trailing
  return .statements [.forRange name.string start finish step body word.place.line]

/-- A loop over a collection. -/
def collectionLoop
    (word name : Token Terminal)
    (collection : Expression)
    (body : List Statement)
    (trailing : Option (Token Terminal)) : Except PhraseFailure Phrase := do
  checkLoopName name trailing
  return .statements [.forEach name.string collection body word.place.line]

/-- The first parameter that takes the rest and is not the last one. -/
def misplacedRest? (parameters : List Parameter) : Option Parameter :=
  parameters.dropLast.find? fun parameter => parameter.mode == .rest

/-- A function definition; parameter names differ in more than letter case. -/
def functionDefinition
    (word name : Token Terminal)
    (parameters : List Parameter)
    (body : List Statement) : Except PhraseFailure Phrase :=
  let names := parameters.map fun parameter => lower parameter.name
  let line := word.place.line
  if !decide names.Nodup then
    .error (.error ⟨.duplicateParameter name.string, line, none⟩)
  else
    match misplacedRest? parameters with
    | some parameter => .error (.error ⟨.restParameterPlace, parameter.line, none⟩)
    | none => .ok (.statements [.define name.string parameters body line])

/-- What an exit statement with a word leaves. -/
def ExitWord.kind : ExitWord → ExitKind
  | forWord => .forLoop
  | whileWord => .whileLoop
  | functionWord => .function
  | subWord => .function

/-- A parameter named by a token. -/
def parameterOf
    (name : Token Terminal)
    (mode : ParameterMode)
    (default : Option Expression) : Phrase :=
  .parameters [⟨name.string, mode, default, name.place.line⟩]

/-- A conditional statement. -/
def conditionalOf
    (word : Token Terminal)
    (branches : List Branch)
    (otherwise : Option (List Statement)) : Phrase :=
  .statements [.conditional branches otherwise word.place.line]

/-- The phrase of a rule for a single statement or for statements in a row. -/
def statementPhrase? : Rule → List Phrase → Option Phrase
  | .program _ _, parts => some (.statements (parts.flatMap Phrase.statementList))
  | .firstStatement, [part] => some (.statements part.statementList)
  | .nextStatement, [front, part] =>
      some (.statements (front.statementList ++ part.statementList))
  | .lineStatement, [part, _] => some part
  | .chain _ _, [part] => some part
  | .dim false, [.token word, .token name] =>
      some (.statements [.dim name.string none word.place.line])
  | .dim true, [.token word, .token name, _, .expression value] =>
      some (.statements [.dim name.string (some value) word.place.line])
  | .assign, [.target target, _, .expression value] =>
      some (.statements [.assign target value target.line])
  | .targetName, [.token name] => some (.target ⟨name.string, [], name.place.line⟩)
  | .targetIndex, [.target target, _, .expression index, _] =>
      some (.target { target with indexes := target.indexes ++ [index] })
  | .giveBack false, [.token word] =>
      some (.statements [.giveBack none word.place.line])
  | .giveBack true, [.token word, .expression value] =>
      some (.statements [.giveBack (some value) word.place.line])
  | .exit exitWord, [.token word, _] =>
      some (.statements [.exit exitWord.kind word.place.line])
  | .callBare, [_, .token name] =>
      some (.statements [.evaluate (callOf name []) name.place.line])
  | .callMarked _, _ :: .token name :: _ :: parts =>
      some (.statements
        [.evaluate (callOf name (parts.flatMap Phrase.argumentList))
          name.place.line])
  | .callPlain _, .token name :: _ :: parts =>
      some (.statements
        [.evaluate (callOf name (parts.flatMap Phrase.argumentList))
          name.place.line])
  | .block _, parts => some (.statements (parts.flatMap Phrase.statementList))
  | _, _ => none

/-- The phrase of a rule for conditionals and conditional loops. -/
def conditionalPhrase? : Rule → List Phrase → Option Phrase
  | .conditional false false,
      [.token word, .expression condition, _, _, .statements body, _, _, _] =>
      some (conditionalOf word [(condition, body)] none)
  | .conditional true false,
      [.token word, .expression condition, _, _, .statements body, .branches more,
        _, _, _] =>
      some (conditionalOf word ((condition, body) :: more) none)
  | .conditional false true,
      [.token word, .expression condition, _, _, .statements body, .otherwise last,
        _, _, _] =>
      some (conditionalOf word [(condition, body)] (some last))
  | .conditional true true,
      [.token word, .expression condition, _, _, .statements body, .branches more,
        .otherwise last, _, _, _] =>
      some (conditionalOf word ((condition, body) :: more) (some last))
  | .inlineConditional,
    [.token word, .expression condition, _, .statements body, _] =>
      some (conditionalOf word [(condition, body)] none)
  | .firstElseIf, [part] => some part
  | .nextElseIf, [.branches front, .branches more] =>
      some (.branches (front ++ more))
  | .elseIf, [_, .expression condition, _, _, .statements body] =>
      some (.branches [(condition, body)])
  | .elseClause, [_, _, .statements body] => some (.otherwise body)
  | .whileWend, [.token word, .expression condition, _, .statements body, _, _] =>
      some (.statements [.whileLoop condition body word.place.line])
  | .whileEnd, [.token word, .expression condition, _, .statements body, _, _, _] =>
      some (.statements [.whileLoop condition body word.place.line])
  | _, _ => none

/-- The phrase of a rule for parameters. -/
def parameterPhrase? : Rule → List Phrase → Option Phrase
  | .parameters false, [part] => some part
  | .parameters true, [first, more] =>
      some (.parameters (first.parameterList ++ more.parameterList))
  | .secondParameter, [_, part] => some part
  | .nextParameter, [front, _, part] =>
      some (.parameters (front.parameterList ++ part.parameterList))
  | .byValue false, [.token name] => some (parameterOf name .byValue none)
  | .byValue true, [_, .token name] => some (parameterOf name .byValue none)
  | .byReference, [_, .token name] => some (parameterOf name .byReference none)
  | .optional false, [_, .token name] => some (parameterOf name .optional none)
  | .optional true, [_, .token name, _, .expression default] =>
      some (parameterOf name .optional (some default))
  | .restParameter, [_, .token name] => some (parameterOf name .rest none)
  | _, _ => none

/-- The phrase of a rule for expressions and arguments. -/
def operandPhrase? : Rule → List Phrase → Option Phrase
  | .binary spelling, [.expression left, _, .expression right] =>
      some (.expression (.binary spelling.operator left right left.line))
  | .negate, [_, .expression operand] =>
      some (.expression (.unary .negate operand operand.line))
  | .plusSign, [_, part] => some part
  | .not, [.token word, .expression operand] =>
      some (.expression (.unary .not operand word.place.line))
  | .postfixIndex, [.expression target, _, .expression index, _] =>
      some (.expression (.index target index target.line))
  | .string, [.token token] => some (.expression (stringLiteral token))
  | .trueWord, [.token token] =>
      some (.expression (.literal (.bool true) token.place.line))
  | .falseWord, [.token token] =>
      some (.expression (.literal (.bool false) token.place.line))
  | .nullWord, [.token token] =>
      some (.expression (.literal .null token.place.line))
  | .call _, .token name :: _ :: parts =>
      some (.expression (callOf name (parts.flatMap Phrase.argumentList)))
  | .name, [.token name] => some (.expression (.name name.string name.place.line))
  | .array _, .token bracket :: parts =>
      some
        (.expression
          (.array (parts.flatMap Phrase.argumentList) bracket.place.line))
  | .parenthesised, [_, part, _] => some part
  | .arguments false, [.expression first] => some (.arguments [first])
  | .arguments true, [.expression first, more] =>
      some (.arguments (first :: more.argumentList))
  | .secondArgument, [_, .expression item] => some (.arguments [item])
  | .nextArgument, [front, _, .expression item] =>
      some (.arguments (front.argumentList ++ [item]))
  | _, _ => none

/-- The phrase of a rule without further conditions; none if the parts are not
those of the rule. -/
def plainPhrase? (rule : Rule) (parts : List Phrase) : Option Phrase :=
  statementPhrase? rule parts <|> conditionalPhrase? rule parts <|>
    parameterPhrase? rule parts <|> operandPhrase? rule parts

/-- The phrase of a rule. Parts that are not those of the rule
give an empty program. -/
def buildPhrase (rule : Rule) (parts : List Phrase) : Except PhraseFailure Phrase :=
  match rule, parts with
  | .number, [.token token] => (numberLiteral token).map .expression
  | .forRange false false,
      [.token word, .token name, _, .expression start, _, .expression finish, _,
        .statements body, _, _] =>
      countedLoop word name start finish none body none
  | .forRange false true,
      [.token word, .token name, _, .expression start, _, .expression finish, _,
        .statements body, _, .token trailing, _] =>
      countedLoop word name start finish none body (some trailing)
  | .forRange true false,
      [.token word, .token name, _, .expression start, _, .expression finish, _,
        .expression step, _, .statements body, _, _] =>
      countedLoop word name start finish (some step) body none
  | .forRange true true,
      [.token word, .token name, _, .expression start, _, .expression finish, _,
        .expression step, _, .statements body, _, .token trailing, _] =>
      countedLoop word name start finish (some step) body (some trailing)
  | .forEach false,
      [.token word, _, .token name, _, .expression collection, _, .statements body,
        _, _] =>
      collectionLoop word name collection body none
  | .forEach true,
      [.token word, _, .token name, _, .expression collection, _, .statements body,
        _, .token trailing, _] =>
      collectionLoop word name collection body (some trailing)
  | .function _ _ _, .token word :: .token name :: _ :: parts =>
      let parameters := parts.flatMap Phrase.parameterList
      let body := parts.flatMap Phrase.statementList
      functionDefinition word name parameters body
  | rule, parts => .ok ((plainPhrase? rule parts).getD (.statements []))

end GridScript.Script
