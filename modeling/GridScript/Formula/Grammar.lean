import GridScript.Formula.Terminal
import GridScript.Value.Arithmetic

namespace GridScript.Formula

/-!
# The grammar of formulas

The binary operators form levels, from comparisons over `&`, sums and products
to powers. They are left associative, powers apart: an exponent is a unary
expression, so `A1 ^ B1 ^ C1` is `A1 ^ (B1 ^ C1)` and an exponent may have a
sign. A sign binds weaker than a power and stronger than a product; a percent
sign binds strongest.
-/

/-- The kinds of phrases. -/
inductive Category where
  | formula
  | expression
  | comparison
  | concatenation
  | sum
  | product
  | unary
  | power
  | postfixed
  | atom
  | arguments
  | moreArguments
  deriving Repr, DecidableEq

/-- A part of a rule. -/
inductive Part where
  | terminal (terminal : Terminal)
  | phrase (category : Category)
  deriving Repr, DecidableEq

/-- The binary operators. -/
inductive Spelling where
  | greater
  | less
  | greaterEqual
  | lessEqual
  | equal
  | angles
  | ampersand
  | plus
  | minus
  | star
  | slash
  | caret
  deriving Repr, DecidableEq

namespace Spelling

/-- The mark of a spelling. -/
def mark : Spelling → Mark
  | greater => .greater
  | less => .less
  | greaterEqual => .greaterEqual
  | lessEqual => .lessEqual
  | equal => .equal
  | angles => .angles
  | ampersand => .ampersand
  | plus => .plus
  | minus => .minus
  | star => .star
  | slash => .slash
  | caret => .caret

/-- The operator of a spelling. -/
def operator : Spelling → Operator
  | greater => .greater
  | less => .less
  | greaterEqual => .greaterEqual
  | lessEqual => .lessEqual
  | equal => .equal
  | angles => .notEqual
  | ampersand => .concat
  | plus => .add
  | minus => .sub
  | star => .mul
  | slash => .div
  | caret => .pow

/-- The level of a spelling: the category of the phrase that it makes. -/
def level : Spelling → Category
  | greater | less | greaterEqual | lessEqual | equal | angles => .comparison
  | ampersand => .concatenation
  | plus | minus => .sum
  | star | slash => .product
  | caret => .power

/-- The category of the left operand. -/
def leftLevel : Spelling → Category
  | caret => .postfixed
  | spelling => spelling.level

/-- The category of the right operand. -/
def rightLevel : Spelling → Category
  | greater | less | greaterEqual | lessEqual | equal | angles => .concatenation
  | ampersand => .sum
  | plus | minus => .product
  | star | slash => .unary
  | caret => .unary

end Spelling

/-- The rules. -/
inductive Rule where
  | formula
  /-- A phrase of the lower category is one of the upper category. -/
  | chain (upper lower : Category)
  | binary (spelling : Spelling)
  | minus
  | plus
  | percent
  | number
  | truth
  | string
  | call
  | quotedSheetRange
  | sheetRange
  | quotedSheetCell
  | sheetCell
  | range
  | cell
  | dollarName
  | name
  | parenthesised
  | arguments (more : Bool)
  | noArguments
  | secondArgument
  | nextArgument
  deriving Repr, DecidableEq

/-- The category that a rule makes. -/
def Rule.category : Rule → Category
  | formula => .formula
  | chain upper _ => upper
  | binary spelling => spelling.level
  | minus | plus => .unary
  | percent => .postfixed
  | number | truth | string | call => .atom
  | quotedSheetRange | sheetRange | quotedSheetCell | sheetCell | range | cell =>
      .atom
  | dollarName | name | parenthesised => .atom
  | arguments _ | noArguments => .arguments
  | secondArgument | nextArgument => .moreArguments

/-- A mark as a part. -/
def sign (mark : Mark) : Part :=
  .terminal (.mark mark)

/-- The parts of a rule, in order. -/
def Rule.parts : Rule → List Part
  | formula => [.phrase .expression]
  | chain _ lower => [.phrase lower]
  | binary spelling =>
      [.phrase spelling.leftLevel, sign spelling.mark, .phrase spelling.rightLevel]
  | minus => [sign .minus, .phrase .unary]
  | plus => [sign .plus, .phrase .unary]
  | percent => [.phrase .postfixed, sign .percent]
  | number => [.terminal .number]
  | truth => [.terminal .truth]
  | string => [.terminal .string]
  | call => [.terminal .name, sign .openParen, .phrase .arguments, sign .closeParen]
  | quotedSheetRange => [.terminal .quotedSheetRange]
  | sheetRange => [.terminal .sheetRange]
  | quotedSheetCell => [.terminal .quotedSheetCell]
  | sheetCell => [.terminal .sheetCell]
  | range => [.terminal .range]
  | cell => [.terminal .cell]
  | dollarName => [sign .dollar, .terminal .name]
  | name => [.terminal .name]
  | parenthesised => [sign .openParen, .phrase .expression, sign .closeParen]
  | arguments false => [.phrase .expression]
  | arguments true => [.phrase .expression, .phrase .moreArguments]
  | noArguments => []
  | secondArgument => [sign .comma, .phrase .expression]
  | nextArgument => [.phrase .moreArguments, sign .comma, .phrase .expression]

/-- The number of parts of a rule. -/
def Rule.arity (rule : Rule) : Nat :=
  rule.parts.length

end GridScript.Formula
