import GridScript.Formula.Grammar
import GridScript.Parsing.Automaton

namespace GridScript.Formula.Table

/-!
# The table of the formula grammar

The LALR(1) rows of the grammar in `GridScript.Formula.Grammar`, with the
lookahead sets of equal item cores merged and without default reductions.
Each row is preceded by a phrase that its state has begun; the dot marks how
far it has been read.
-/

open GridScript.Parsing

/-- Tokens that can follow an expression. -/
def afterExpression : List Terminal :=
  [.mark .closeParen, .mark .comma, .finish]

/-- Tokens that can follow an operand of a comparison. -/
def afterComparand : List Terminal :=
  [.mark .greater, .mark .less, .mark .greaterEqual, .mark .lessEqual, .mark .equal,
    .mark .angles] ++ afterExpression

/-- Tokens that can follow an operand of `&`. -/
def afterText : List Terminal :=
  [.mark .ampersand] ++ afterComparand

/-- Tokens that can follow an operand of a sum. -/
def afterSummand : List Terminal :=
  [.mark .plus, .mark .minus] ++ afterText

/-- Tokens that can follow an operand of a product. -/
def afterFactor : List Terminal :=
  [.mark .star, .mark .slash] ++ afterSummand

/-- Tokens that can follow an atom. -/
def afterAtom : List Terminal :=
  [.mark .caret, .mark .percent] ++ afterFactor

/-- Tokens that begin an expression. -/
def operandShifts : List (Terminal × Nat) :=
  [(.sheetRange, 18), (.quotedSheetRange, 17), (.range, 21), (.sheetCell, 20),
    (.quotedSheetCell, 19), (.cell, 22), (.truth, 14), (.name, 16), (.number, 13),
    (.string, 15), (.mark .dollar, 23), (.mark .openParen, 24), (.mark .minus, 9),
    (.mark .plus, 10)]

/-- The signs of comparisons. -/
def comparisonShifts : List (Terminal × Nat) :=
  [(.mark .greater, 25), (.mark .less, 26), (.mark .greaterEqual, 27),
    (.mark .lessEqual, 28), (.mark .equal, 29), (.mark .angles, 30)]

/-- States after the parts of an expression. -/
def expressionGotos : List (Category × Nat) :=
  [(.comparison, 3), (.concatenation, 4), (.sum, 5), (.product, 6), (.unary, 7),
    (.power, 8), (.postfixed, 11), (.atom, 12)]

/-- States after the parts of the right operand of a comparison. -/
def comparandGotos : List (Category × Nat) :=
  [(.sum, 5), (.product, 6), (.unary, 7), (.power, 8), (.postfixed, 11),
    (.atom, 12)]

/-- States after the parts of the right operand of `&`. -/
def textGotos : List (Category × Nat) :=
  [(.product, 6), (.unary, 7), (.power, 8), (.postfixed, 11), (.atom, 12)]

/-- States after the parts of the right operand of a sum. -/
def summandGotos : List (Category × Nat) :=
  [(.unary, 7), (.power, 8), (.postfixed, 11), (.atom, 12)]

/-- States after the parts of the right operand of a product, or of a sign. -/
def signedGotos : List (Category × Nat) :=
  [(.power, 8), (.postfixed, 11), (.atom, 12)]

/-- The rows, with the phrases that each state has begun. -/
def rows : Array (Row Terminal Rule Category) := #[
  -- 0: text → · formula finish
  ⟨operandShifts, [], (.formula, 1) :: (.expression, 2) :: expressionGotos⟩,
  -- 1: text → formula · finish
  ⟨[], [], []⟩,
  -- 2: formula → expression ·
  ⟨[], [(.formula, [.finish])], []⟩,
  -- 3: expression → comparison · and 6 more
  ⟨comparisonShifts, [(.chain .expression .comparison, afterExpression)], []⟩,
  -- 4: comparison → concatenation · and 1 more
  ⟨[(.mark .ampersand, 31)], [(.chain .comparison .concatenation, afterComparand)],
    []⟩,
  -- 5: concatenation → sum · and 2 more
  ⟨[(.mark .plus, 32), (.mark .minus, 33)],
    [(.chain .concatenation .sum, afterText)], []⟩,
  -- 6: sum → product · and 2 more
  ⟨[(.mark .star, 34), (.mark .slash, 35)], [(.chain .sum .product, afterSummand)],
    []⟩,
  -- 7: product → unary ·
  ⟨[], [(.chain .product .unary, afterFactor)], []⟩,
  -- 8: unary → power ·
  ⟨[], [(.chain .unary .power, afterFactor)], []⟩,
  -- 9: unary → - · unary
  ⟨operandShifts, [], (.unary, 36) :: signedGotos⟩,
  -- 10: unary → + · unary
  ⟨operandShifts, [], (.unary, 37) :: signedGotos⟩,
  -- 11: power → postfixed · and 2 more
  ⟨[(.mark .percent, 39), (.mark .caret, 38)],
    [(.chain .power .postfixed, afterFactor)], []⟩,
  -- 12: postfixed → atom ·
  ⟨[], [(.chain .postfixed .atom, afterAtom)], []⟩,
  -- 13: atom → number ·
  ⟨[], [(.number, afterAtom)], []⟩,
  -- 14: atom → bool ·
  ⟨[], [(.truth, afterAtom)], []⟩,
  -- 15: atom → escaped_string ·
  ⟨[], [(.string, afterAtom)], []⟩,
  -- 16: atom → name · ( arguments ) and 1 more
  ⟨[(.mark .openParen, 40)], [(.name, afterAtom)], []⟩,
  -- 17: atom → quoted_sheet_range ·
  ⟨[], [(.quotedSheetRange, afterAtom)], []⟩,
  -- 18: atom → sheet_range ·
  ⟨[], [(.sheetRange, afterAtom)], []⟩,
  -- 19: atom → quoted_sheet_ref ·
  ⟨[], [(.quotedSheetCell, afterAtom)], []⟩,
  -- 20: atom → sheet_ref ·
  ⟨[], [(.sheetCell, afterAtom)], []⟩,
  -- 21: atom → cell_range ·
  ⟨[], [(.range, afterAtom)], []⟩,
  -- 22: atom → cell_ref ·
  ⟨[], [(.cell, afterAtom)], []⟩,
  -- 23: atom → $ · name
  ⟨[(.name, 41)], [], []⟩,
  -- 24: atom → ( · expression )
  ⟨operandShifts, [], (.expression, 42) :: expressionGotos⟩,
  -- 25: comparison → comparison > · concatenation
  ⟨operandShifts, [], (.concatenation, 43) :: comparandGotos⟩,
  -- 26: comparison → comparison < · concatenation
  ⟨operandShifts, [], (.concatenation, 44) :: comparandGotos⟩,
  -- 27: comparison → comparison >= · concatenation
  ⟨operandShifts, [], (.concatenation, 45) :: comparandGotos⟩,
  -- 28: comparison → comparison <= · concatenation
  ⟨operandShifts, [], (.concatenation, 46) :: comparandGotos⟩,
  -- 29: comparison → comparison = · concatenation
  ⟨operandShifts, [], (.concatenation, 47) :: comparandGotos⟩,
  -- 30: comparison → comparison <> · concatenation
  ⟨operandShifts, [], (.concatenation, 48) :: comparandGotos⟩,
  -- 31: concatenation → concatenation & · sum
  ⟨operandShifts, [], (.sum, 49) :: textGotos⟩,
  -- 32: sum → sum + · product
  ⟨operandShifts, [], (.product, 50) :: summandGotos⟩,
  -- 33: sum → sum - · product
  ⟨operandShifts, [], (.product, 51) :: summandGotos⟩,
  -- 34: product → product * · unary
  ⟨operandShifts, [], (.unary, 52) :: signedGotos⟩,
  -- 35: product → product / · unary
  ⟨operandShifts, [], (.unary, 53) :: signedGotos⟩,
  -- 36: unary → - unary ·
  ⟨[], [(.minus, afterFactor)], []⟩,
  -- 37: unary → + unary ·
  ⟨[], [(.plus, afterFactor)], []⟩,
  -- 38: power → postfixed ^ · unary
  ⟨operandShifts, [], (.unary, 54) :: signedGotos⟩,
  -- 39: postfixed → postfixed % ·
  ⟨[], [(.percent, afterAtom)], []⟩,
  -- 40: atom → name ( · arguments )
  ⟨operandShifts,
    [(.noArguments, [.mark .closeParen])],
    (.expression, 56) :: (.arguments, 55) :: expressionGotos⟩,
  -- 41: atom → $ name ·
  ⟨[], [(.dollarName, afterAtom)], []⟩,
  -- 42: atom → ( expression · )
  ⟨[(.mark .closeParen, 57)], [], []⟩,
  -- 43: comparison → comparison > concatenation · and 1 more
  ⟨[(.mark .ampersand, 31)], [(.binary .greater, afterComparand)], []⟩,
  -- 44: comparison → comparison < concatenation · and 1 more
  ⟨[(.mark .ampersand, 31)], [(.binary .less, afterComparand)], []⟩,
  -- 45: comparison → comparison >= concatenation · and 1 more
  ⟨[(.mark .ampersand, 31)], [(.binary .greaterEqual, afterComparand)], []⟩,
  -- 46: comparison → comparison <= concatenation · and 1 more
  ⟨[(.mark .ampersand, 31)], [(.binary .lessEqual, afterComparand)], []⟩,
  -- 47: comparison → comparison = concatenation · and 1 more
  ⟨[(.mark .ampersand, 31)], [(.binary .equal, afterComparand)], []⟩,
  -- 48: comparison → comparison <> concatenation · and 1 more
  ⟨[(.mark .ampersand, 31)], [(.binary .angles, afterComparand)], []⟩,
  -- 49: concatenation → concatenation & sum · and 2 more
  ⟨[(.mark .plus, 32), (.mark .minus, 33)], [(.binary .ampersand, afterText)], []⟩,
  -- 50: sum → sum + product · and 2 more
  ⟨[(.mark .star, 34), (.mark .slash, 35)], [(.binary .plus, afterSummand)], []⟩,
  -- 51: sum → sum - product · and 2 more
  ⟨[(.mark .star, 34), (.mark .slash, 35)], [(.binary .minus, afterSummand)], []⟩,
  -- 52: product → product * unary ·
  ⟨[], [(.binary .star, afterFactor)], []⟩,
  -- 53: product → product / unary ·
  ⟨[], [(.binary .slash, afterFactor)], []⟩,
  -- 54: power → postfixed ^ unary ·
  ⟨[], [(.binary .caret, afterFactor)], []⟩,
  -- 55: atom → name ( arguments · )
  ⟨[(.mark .closeParen, 58)], [], []⟩,
  -- 56: arguments → expression · moreArguments and 1 more
  ⟨[(.mark .comma, 60)], [(.arguments false, [.mark .closeParen])],
    [(.moreArguments, 59)]⟩,
  -- 57: atom → ( expression ) ·
  ⟨[], [(.parenthesised, afterAtom)], []⟩,
  -- 58: atom → name ( arguments ) ·
  ⟨[], [(.call, afterAtom)], []⟩,
  -- 59: arguments → expression moreArguments · and 1 more
  ⟨[(.mark .comma, 61)], [(.arguments true, [.mark .closeParen])], []⟩,
  -- 60: moreArguments → , · expression
  ⟨operandShifts, [], (.expression, 62) :: expressionGotos⟩,
  -- 61: moreArguments → moreArguments , · expression
  ⟨operandShifts, [], (.expression, 63) :: expressionGotos⟩,
  -- 62: moreArguments → , expression ·
  ⟨[], [(.secondArgument, [.mark .closeParen, .mark .comma])], []⟩,
  -- 63: moreArguments → moreArguments , expression ·
  ⟨[], [(.nextArgument, [.mark .closeParen, .mark .comma])], []⟩]

/-- The state in which a whole text has been read. -/
def accepting : Nat := 1

end GridScript.Formula.Table
