import GridScript.Script.Program
import GridScript.Script.Terminal

namespace GridScript.Script

/-!
# The grammar of scripts

The binary operators form levels, from `or` over `and`, comparisons, sums and
products to powers. They are left associative, powers apart: an exponent is a
unary expression, so `a ^ b ^ c` is `a ^ (b ^ c)` and an exponent may have a
sign. A sign or `not` binds weaker than a power and stronger than a product.
Lists of statements and arguments are left recursive.
-/

/-- The kinds of phrases. -/
inductive Category where
  | program
  | statements
  | statement
  | simpleStatement
  | dimStatement
  | assignStatement
  | target
  | returnStatement
  | exitStatement
  | callStatement
  | block
  | ifStatement
  | elseIfs
  | elseIf
  | elseClause
  | forStatement
  | forEachStatement
  | whileStatement
  | functionDefinition
  | parameters
  | moreParameters
  | parameter
  | expression
  | disjunction
  | conjunction
  | comparison
  | sum
  | product
  | unary
  | power
  | postfixed
  | atom
  | arguments
  | moreArguments
  deriving Repr, DecidableEq

/-- A part of a rule. -/
inductive Part where
  | terminal (terminal : Terminal)
  | phrase (category : Category)
  deriving Repr, DecidableEq

/-- The words that an exit statement can name. -/
inductive ExitWord where
  | forWord
  | whileWord
  | functionWord
  | subWord
  deriving Repr, DecidableEq

/-- The keyword of an exit word. -/
def ExitWord.keyword : ExitWord → Keyword
  | forWord => .forKw
  | whileWord => .whileKw
  | functionWord => .functionKw
  | subWord => .subKw

/-- The two keywords of function definitions. -/
inductive FunctionWord where
  | functionWord
  | subWord
  deriving Repr, DecidableEq

/-- The keyword of a function word. -/
def FunctionWord.keyword : FunctionWord → Keyword
  | functionWord => .functionKw
  | subWord => .subKw

/-- The spellings of the binary operators. -/
inductive Spelling where
  | orWord
  | andWord
  | equal
  | doubleEqual
  | angles
  | bangEqual
  | less
  | lessEqual
  | greater
  | greaterEqual
  | plus
  | minus
  | ampersand
  | star
  | slash
  | modWord
  | percent
  | caret
  deriving Repr, DecidableEq

namespace Spelling

/-- The token of a spelling. -/
def terminal : Spelling → Terminal
  | orWord => .keyword .orKw
  | andWord => .keyword .andKw
  | equal => .mark .equal
  | doubleEqual => .mark .doubleEqual
  | angles => .mark .angles
  | bangEqual => .mark .bangEqual
  | less => .mark .less
  | lessEqual => .mark .lessEqual
  | greater => .mark .greater
  | greaterEqual => .mark .greaterEqual
  | plus => .mark .plus
  | minus => .mark .minus
  | ampersand => .mark .ampersand
  | star => .mark .star
  | slash => .mark .slash
  | modWord => .keyword .modKw
  | percent => .mark .percent
  | caret => .mark .caret

/-- The operator of a spelling. -/
def operator : Spelling → BinaryOperator
  | orWord => .disjunction
  | andWord => .conjunction
  | equal | doubleEqual => .apply .equal
  | angles | bangEqual => .apply .notEqual
  | less => .apply .less
  | lessEqual => .apply .lessEqual
  | greater => .apply .greater
  | greaterEqual => .apply .greaterEqual
  | plus => .apply .add
  | minus => .apply .sub
  | ampersand => .apply .concat
  | star => .apply .mul
  | slash => .apply .div
  | modWord | percent => .apply .mod
  | caret => .apply .pow

/-- The level of a spelling: the category of the phrase that it makes. -/
def level : Spelling → Category
  | orWord => .disjunction
  | andWord => .conjunction
  | equal | doubleEqual | angles | bangEqual | less | lessEqual | greater
  | greaterEqual =>
      .comparison
  | plus | minus | ampersand => .sum
  | star | slash | modWord | percent => .product
  | caret => .power

/-- The category of the left operand. -/
def leftLevel : Spelling → Category
  | caret => .postfixed
  | spelling => spelling.level

/-- The category of the right operand. -/
def rightLevel : Spelling → Category
  | orWord => .conjunction
  | andWord => .comparison
  | equal | doubleEqual | angles | bangEqual | less | lessEqual | greater
  | greaterEqual => .sum
  | plus | minus | ampersand => .product
  | star | slash | modWord | percent => .unary
  | caret => .unary

end Spelling

/-- The rules. A flag tells whether an optional part is there. -/
inductive Rule where
  | program (lineBreak statements : Bool)
  | firstStatement
  | nextStatement
  | lineStatement
  /-- A phrase of the lower category is one of the upper category. -/
  | chain (upper lower : Category)
  | dim (value : Bool)
  | assign
  | targetName
  | targetIndex
  | giveBack (value : Bool)
  | exit (word : ExitWord)
  | callBare
  | callMarked (arguments : Bool)
  | callPlain (arguments : Bool)
  | block (statements : Bool)
  | conditional (elseIfs elseClause : Bool)
  | inlineConditional
  | firstElseIf
  | nextElseIf
  | elseIf
  | elseClause
  | forRange (step name : Bool)
  | forEach (name : Bool)
  | whileWend
  | whileEnd
  | function (opening : FunctionWord) (parameters : Bool) (closing : FunctionWord)
  | parameters (more : Bool)
  | secondParameter
  | nextParameter
  | byValue (marked : Bool)
  | byReference
  | optional (default : Bool)
  | restParameter
  | binary (spelling : Spelling)
  | negate
  | plusSign
  | not
  | postfixIndex
  | number
  | string
  | trueWord
  | falseWord
  | nullWord
  | call (arguments : Bool)
  | name
  | array (items : Bool)
  | parenthesised
  | arguments (more : Bool)
  | secondArgument
  | nextArgument
  deriving Repr, DecidableEq

/-- The category that a rule makes. -/
def Rule.category : Rule → Category
  | program .. => .program
  | firstStatement | nextStatement => .statements
  | lineStatement => .statement
  | chain upper _ => upper
  | dim _ => .dimStatement
  | assign => .assignStatement
  | targetName | targetIndex => .target
  | giveBack _ => .returnStatement
  | exit _ => .exitStatement
  | callBare | callMarked _ | callPlain _ => .callStatement
  | block _ => .block
  | conditional .. | inlineConditional => .ifStatement
  | firstElseIf | nextElseIf => .elseIfs
  | elseIf => .elseIf
  | elseClause => .elseClause
  | forRange .. => .forStatement
  | forEach _ => .forEachStatement
  | whileWend | whileEnd => .whileStatement
  | function .. => .functionDefinition
  | parameters _ => .parameters
  | secondParameter | nextParameter => .moreParameters
  | byValue _ | byReference | optional _ | restParameter => .parameter
  | binary spelling => spelling.level
  | negate | plusSign | not => .unary
  | postfixIndex => .postfixed
  | number | string | trueWord | falseWord | nullWord => .atom
  | call _ | name | array _ | parenthesised => .atom
  | arguments _ => .arguments
  | secondArgument | nextArgument => .moreArguments

/-- A part that is there if the flag is set. -/
def partIf (flag : Bool) (parts : List Part) : List Part :=
  if flag then parts else []

/-- A keyword as a part. -/
def word (keyword : Keyword) : Part :=
  .terminal (.keyword keyword)

/-- A mark as a part. -/
def sign (mark : Mark) : Part :=
  .terminal (.mark mark)

/-- A line break as a part. -/
def lineBreak : Part :=
  .terminal .newline

/-- A name as a part. -/
def nameToken : Part :=
  .terminal .name

/-- The parts of a rule, in order. -/
def Rule.parts : Rule → List Part
  | program lead body =>
      partIf lead [lineBreak] ++ partIf body [.phrase .statements]
  | firstStatement => [.phrase .statement]
  | nextStatement => [.phrase .statements, .phrase .statement]
  | lineStatement => [.phrase .simpleStatement, lineBreak]
  | chain _ lower => [.phrase lower]
  | dim value =>
      [word .dimKw, nameToken] ++ partIf value [sign .equal, .phrase .expression]
  | assign => [.phrase .target, sign .equal, .phrase .expression]
  | targetName => [nameToken]
  | targetIndex =>
      [.phrase .target, sign .openBracket, .phrase .expression, sign .closeBracket]
  | giveBack value => word .returnKw :: partIf value [.phrase .expression]
  | exit w => [word .exitKw, word w.keyword]
  | callBare => [word .callKw, nameToken]
  | callMarked given =>
      [word .callKw, nameToken, sign .openParen] ++
        partIf given [.phrase .arguments] ++ [sign .closeParen]
  | callPlain given =>
      [nameToken, sign .openParen] ++ partIf given [.phrase .arguments] ++
        [sign .closeParen]
  | block filled => partIf filled [.phrase .statements]
  | conditional middle last =>
      [word .ifKw, .phrase .expression, word .thenKw, lineBreak, .phrase .block] ++
        partIf middle [.phrase .elseIfs] ++ partIf last [.phrase .elseClause] ++
        [word .endKw, word .ifKw, lineBreak]
  | inlineConditional =>
      [word .ifKw, .phrase .expression, word .thenKw, .phrase .simpleStatement,
        lineBreak]
  | firstElseIf => [.phrase .elseIf]
  | nextElseIf => [.phrase .elseIfs, .phrase .elseIf]
  | elseIf =>
      [word .elseifKw, .phrase .expression, word .thenKw, lineBreak, .phrase .block]
  | elseClause => [word .elseKw, lineBreak, .phrase .block]
  | forRange step named =>
      [word .forKw, nameToken, sign .equal, .phrase .expression, word .toKw,
          .phrase .expression] ++
        partIf step [word .stepKw, .phrase .expression] ++
        [lineBreak, .phrase .block, word .nextKw] ++ partIf named [nameToken] ++
          [lineBreak]
  | forEach named =>
      [word .forKw, word .eachKw, nameToken, word .inKw, .phrase .expression,
        lineBreak, .phrase .block,
        word .nextKw] ++ partIf named [nameToken] ++ [lineBreak]
  | whileWend =>
      [word .whileKw, .phrase .expression, lineBreak, .phrase .block, word .wendKw,
        lineBreak]
  | whileEnd =>
      [word .whileKw, .phrase .expression, lineBreak, .phrase .block, word .endKw,
        word .whileKw, lineBreak]
  | function opening params closing =>
      [word opening.keyword, nameToken, sign .openParen] ++
        partIf params [.phrase .parameters] ++
        [sign .closeParen, lineBreak, .phrase .block, word .endKw,
          word closing.keyword, lineBreak]
  | parameters more => .phrase .parameter :: partIf more [.phrase .moreParameters]
  | secondParameter => [sign .comma, .phrase .parameter]
  | nextParameter => [.phrase .moreParameters, sign .comma, .phrase .parameter]
  | byValue marked => partIf marked [word .byvalKw] ++ [nameToken]
  | byReference => [word .byrefKw, nameToken]
  | optional default =>
      [word .optionalKw, nameToken] ++
        partIf default [sign .equal, .phrase .expression]
  | restParameter => [word .paramarrayKw, nameToken]
  | binary spelling =>
      [.phrase spelling.leftLevel, .terminal spelling.terminal,
        .phrase spelling.rightLevel]
  | negate => [sign .minus, .phrase .unary]
  | plusSign => [sign .plus, .phrase .unary]
  | not => [word .notKw, .phrase .unary]
  | postfixIndex =>
      [.phrase .postfixed, sign .openBracket, .phrase .expression,
        sign .closeBracket]
  | number => [.terminal .number]
  | string => [.terminal .string]
  | trueWord => [word .trueKw]
  | falseWord => [word .falseKw]
  | nullWord => [word .nullKw]
  | call given =>
      [nameToken, sign .openParen] ++ partIf given [.phrase .arguments] ++
        [sign .closeParen]
  | name => [nameToken]
  | array items =>
      sign .openBracket :: partIf items [.phrase .arguments] ++ [sign .closeBracket]
  | parenthesised => [sign .openParen, .phrase .expression, sign .closeParen]
  | arguments more => .phrase .expression :: partIf more [.phrase .moreArguments]
  | secondArgument => [sign .comma, .phrase .expression]
  | nextArgument => [.phrase .moreArguments, sign .comma, .phrase .expression]

/-- The number of parts of a rule. -/
def Rule.arity (rule : Rule) : Nat :=
  rule.parts.length

end GridScript.Script
