import GridScript.Parsing.Automaton
import GridScript.Script.Grammar

namespace GridScript.Script.Table

/-!
# The table of the script grammar

The LALR(1) rows of the grammar in `GridScript.Script.Grammar`, with the
lookahead sets of equal item cores merged and without default reductions.
Each row is preceded by a phrase that its state has begun; the dot marks how
far it has been read.
-/

open GridScript.Parsing

/-- Tokens that can follow an expression. -/
def afterExpression : List Terminal :=
  [.mark .closeParen, .mark .comma, .keyword .stepKw, .keyword .thenKw,
    .keyword .toKw, .mark .closeBracket, .newline]

/-- Tokens that can follow an operand of `or`. -/
def afterDisjunct : List Terminal :=
  [.keyword .orKw] ++ afterExpression

/-- Tokens that can follow an operand of `and`. -/
def afterConjunct : List Terminal :=
  [.keyword .andKw] ++ afterDisjunct

/-- Tokens that can follow an operand of a comparison. -/
def afterComparand : List Terminal :=
  [.mark .equal, .mark .doubleEqual, .mark .angles, .mark .bangEqual, .mark .less,
    .mark .lessEqual, .mark .greater, .mark .greaterEqual] ++ afterConjunct

/-- Tokens that can follow an operand of a sum. -/
def afterSummand : List Terminal :=
  [.mark .plus, .mark .minus, .mark .ampersand] ++ afterComparand

/-- Tokens that can follow an operand of a product. -/
def afterFactor : List Terminal :=
  [.mark .star, .mark .slash, .keyword .modKw, .mark .percent] ++ afterSummand

/-- Tokens that can follow an atom. -/
def afterAtom : List Terminal :=
  [.mark .openBracket, .mark .caret] ++ afterFactor

/-- Tokens that can follow a statement. -/
def afterStatement : List Terminal :=
  [.name, .keyword .dimKw, .keyword .ifKw, .keyword .forKw, .keyword .whileKw,
    .keyword .functionKw, .keyword .subKw, .keyword .returnKw, .keyword .exitKw,
    .keyword .callKw, .keyword .elseifKw, .keyword .elseKw, .keyword .endKw,
    .keyword .nextKw, .keyword .wendKw, .finish]

/-- Tokens that can follow a block. -/
def afterBlock : List Terminal :=
  [.keyword .elseifKw, .keyword .elseKw, .keyword .endKw, .keyword .nextKw,
    .keyword .wendKw]

/-- Tokens that begin an expression. -/
def operandShifts : List (Terminal × Nat) :=
  [(.number, 43), (.string, 44), (.keyword .trueKw, 45), (.keyword .falseKw, 46),
    (.keyword .nullKw, 47), (.name, 48), (.mark .openParen, 50),
    (.mark .openBracket, 49), (.mark .minus, 38), (.mark .plus, 39),
    (.keyword .notKw, 40)]

/-- Tokens that begin a statement of several lines. -/
def compoundShifts : List (Terminal × Nat) :=
  [(.keyword .ifKw, 16), (.keyword .forKw, 17), (.keyword .whileKw, 18),
    (.keyword .functionKw, 19), (.keyword .subKw, 20)]

/-- Tokens that begin a statement of one line. -/
def simpleShifts : List (Terminal × Nat) :=
  [(.keyword .dimKw, 21), (.keyword .returnKw, 23), (.keyword .exitKw, 24),
    (.keyword .callKw, 25), (.name, 26)]

/-- The signs of comparisons. -/
def comparisonShifts : List (Terminal × Nat) :=
  [(.mark .equal, 69), (.mark .doubleEqual, 70), (.mark .angles, 71),
    (.mark .bangEqual, 72), (.mark .less, 73), (.mark .lessEqual, 74),
    (.mark .greater, 75), (.mark .greaterEqual, 76)]

/-- The signs of sums. -/
def sumShifts : List (Terminal × Nat) :=
  [(.mark .plus, 77), (.mark .minus, 78), (.mark .ampersand, 79)]

/-- The signs of products. -/
def productShifts : List (Terminal × Nat) :=
  [(.mark .star, 80), (.mark .slash, 81), (.keyword .modKw, 82),
    (.mark .percent, 83)]

/-- States after the parts of an expression. -/
def expressionGotos : List (Category × Nat) :=
  [(.disjunction, 31), (.conjunction, 32), (.comparison, 33), (.sum, 34),
    (.product, 35), (.unary, 36), (.power, 37), (.postfixed, 41), (.atom, 42)]

/-- States after the parts of the right operand of `or`. -/
def conjunctGotos : List (Category × Nat) :=
  [(.comparison, 33), (.sum, 34), (.product, 35), (.unary, 36), (.power, 37),
    (.postfixed, 41), (.atom, 42)]

/-- States after the parts of the right operand of `and`. -/
def comparandGotos : List (Category × Nat) :=
  [(.sum, 34), (.product, 35), (.unary, 36), (.power, 37), (.postfixed, 41),
    (.atom, 42)]

/-- States after the parts of the right operand of a comparison. -/
def summandGotos : List (Category × Nat) :=
  [(.product, 35), (.unary, 36), (.power, 37), (.postfixed, 41), (.atom, 42)]

/-- States after the parts of the right operand of a sum. -/
def factorGotos : List (Category × Nat) :=
  [(.unary, 36), (.power, 37), (.postfixed, 41), (.atom, 42)]

/-- States after the parts of the right operand of a product, or of a sign. -/
def signedGotos : List (Category × Nat) :=
  [(.power, 37), (.postfixed, 41), (.atom, 42)]

/-- States after statements of several lines. -/
def compoundGotos : List (Category × Nat) :=
  [(.ifStatement, 6), (.forStatement, 7), (.forEachStatement, 8),
    (.whileStatement, 9), (.functionDefinition, 10)]

/-- States after the parts of statements. -/
def simpleGotos : List (Category × Nat) :=
  [(.simpleStatement, 5), (.dimStatement, 11), (.assignStatement, 12),
    (.target, 22), (.returnStatement, 13), (.exitStatement, 14),
    (.callStatement, 15)]

/-- States after the parts of a statement of one line. -/
def lineGotos : List (Category × Nat) :=
  [(.dimStatement, 11), (.assignStatement, 12), (.target, 22),
    (.returnStatement, 13), (.exitStatement, 14), (.callStatement, 15)]

/-- Tokens that begin a statement. -/
def statementShifts : List (Terminal × Nat) :=
  compoundShifts ++ simpleShifts

/-- States after statements and their parts. -/
def statementGotos : List (Category × Nat) :=
  compoundGotos ++ simpleGotos

/-- The rows of the states 0 to 27, with the phrases that each state has begun. -/
def rowsFrom0 : Array (Row Terminal Rule Category) := #[
  -- 0: text → · program finish
  ⟨(.newline, 2) :: statementShifts,
    [(.program false false, [.finish])],
    (.program, 1) :: (.statements, 3) :: (.statement, 4) :: statementGotos⟩,
  -- 1: text → program · finish
  ⟨[], [], []⟩,
  -- 2: program → newline · statements and 1 more
  ⟨statementShifts,
    [(.program true false, [.finish])],
    (.statements, 27) :: (.statement, 4) :: statementGotos⟩,
  -- 3: program → statements · and 1 more
  ⟨statementShifts,
    [(.program false true, [.finish])],
    (.statement, 28) :: statementGotos⟩,
  -- 4: statements → statement ·
  ⟨[], [(.firstStatement, afterStatement)], []⟩,
  -- 5: statement → simpleStatement · newline
  ⟨[(.newline, 29)], [], []⟩,
  -- 6: statement → ifStatement ·
  ⟨[], [(.chain .statement .ifStatement, afterStatement)], []⟩,
  -- 7: statement → forStatement ·
  ⟨[], [(.chain .statement .forStatement, afterStatement)], []⟩,
  -- 8: statement → forEachStatement ·
  ⟨[], [(.chain .statement .forEachStatement, afterStatement)], []⟩,
  -- 9: statement → whileStatement ·
  ⟨[], [(.chain .statement .whileStatement, afterStatement)], []⟩,
  -- 10: statement → functionDefinition ·
  ⟨[], [(.chain .statement .functionDefinition, afterStatement)], []⟩,
  -- 11: simpleStatement → dimStatement ·
  ⟨[], [(.chain .simpleStatement .dimStatement, [.newline])], []⟩,
  -- 12: simpleStatement → assignStatement ·
  ⟨[], [(.chain .simpleStatement .assignStatement, [.newline])], []⟩,
  -- 13: simpleStatement → returnStatement ·
  ⟨[], [(.chain .simpleStatement .returnStatement, [.newline])], []⟩,
  -- 14: simpleStatement → exitStatement ·
  ⟨[], [(.chain .simpleStatement .exitStatement, [.newline])], []⟩,
  -- 15: simpleStatement → callStatement ·
  ⟨[], [(.chain .simpleStatement .callStatement, [.newline])], []⟩,
  -- 16: ifStatement → if · expression then newline block elseIfs elseClause end …
  ⟨operandShifts, [], (.expression, 30) :: expressionGotos⟩,
  -- 17: forStatement → for · name = expression to expression step expression …
  ⟨[(.keyword .eachKw, 52), (.name, 51)], [], []⟩,
  -- 18: whileStatement → while · expression newline block wend newline and 1 more
  ⟨operandShifts, [], (.expression, 53) :: expressionGotos⟩,
  -- 19: functionDefinition → function · name ( parameters ) newline block end …
  ⟨[(.name, 54)], [], []⟩,
  -- 20: functionDefinition → sub · name ( parameters ) newline block end …
  ⟨[(.name, 55)], [], []⟩,
  -- 21: dimStatement → dim · name = expression and 1 more
  ⟨[(.name, 56)], [], []⟩,
  -- 22: assignStatement → target · = expression and 1 more
  ⟨[(.mark .equal, 57), (.mark .openBracket, 58)], [], []⟩,
  -- 23: returnStatement → return · expression and 1 more
  ⟨operandShifts, [(.giveBack false, [.newline])],
    (.expression, 59) :: expressionGotos⟩,
  -- 24: exitStatement → exit · for and 3 more
  ⟨[(.keyword .functionKw, 62), (.keyword .whileKw, 61), (.keyword .forKw, 60),
    (.keyword .subKw, 63)],
    [],
    []⟩,
  -- 25: callStatement → call · name ( arguments ) and 2 more
  ⟨[(.name, 64)], [], []⟩,
  -- 26: target → name · and 2 more
  ⟨[(.mark .openParen, 65)], [(.targetName, [.mark .equal, .mark .openBracket])],
    []⟩,
  -- 27: program → newline statements · and 1 more
  ⟨statementShifts,
    [(.program true true, [.finish])],
    (.statement, 28) :: statementGotos⟩]

/-- The rows of the states 28 to 55, with the phrases that each state has begun. -/
def rowsFrom28 : Array (Row Terminal Rule Category) := #[
  -- 28: statements → statements statement ·
  ⟨[], [(.nextStatement, afterStatement)], []⟩,
  -- 29: statement → simpleStatement newline ·
  ⟨[], [(.lineStatement, afterStatement)], []⟩,
  -- 30: ifStatement → if expression · then newline block elseIfs elseClause end …
  ⟨[(.keyword .thenKw, 66)], [], []⟩,
  -- 31: expression → disjunction · and 1 more
  ⟨[(.keyword .orKw, 67)], [(.chain .expression .disjunction, afterExpression)],
    []⟩,
  -- 32: disjunction → conjunction · and 1 more
  ⟨[(.keyword .andKw, 68)], [(.chain .disjunction .conjunction, afterDisjunct)],
    []⟩,
  -- 33: conjunction → comparison · and 8 more
  ⟨comparisonShifts, [(.chain .conjunction .comparison, afterConjunct)], []⟩,
  -- 34: comparison → sum · and 3 more
  ⟨sumShifts, [(.chain .comparison .sum, afterComparand)], []⟩,
  -- 35: sum → product · and 4 more
  ⟨productShifts, [(.chain .sum .product, afterSummand)], []⟩,
  -- 36: product → unary ·
  ⟨[], [(.chain .product .unary, afterFactor)], []⟩,
  -- 37: unary → power ·
  ⟨[], [(.chain .unary .power, afterFactor)], []⟩,
  -- 38: unary → - · unary
  ⟨operandShifts, [], (.unary, 84) :: signedGotos⟩,
  -- 39: unary → + · unary
  ⟨operandShifts, [], (.unary, 85) :: signedGotos⟩,
  -- 40: unary → not · unary
  ⟨operandShifts, [], (.unary, 86) :: signedGotos⟩,
  -- 41: power → postfixed · and 2 more
  ⟨[(.mark .openBracket, 88), (.mark .caret, 87)],
    [(.chain .power .postfixed, afterFactor)], []⟩,
  -- 42: postfixed → atom ·
  ⟨[], [(.chain .postfixed .atom, afterAtom)], []⟩,
  -- 43: atom → number ·
  ⟨[], [(.number, afterAtom)], []⟩,
  -- 44: atom → string ·
  ⟨[], [(.string, afterAtom)], []⟩,
  -- 45: atom → true ·
  ⟨[], [(.trueWord, afterAtom)], []⟩,
  -- 46: atom → false ·
  ⟨[], [(.falseWord, afterAtom)], []⟩,
  -- 47: atom → null ·
  ⟨[], [(.nullWord, afterAtom)], []⟩,
  -- 48: atom → name · ( arguments ) and 2 more
  ⟨[(.mark .openParen, 89)], [(.name, afterAtom)], []⟩,
  -- 49: atom → [ · arguments ] and 1 more
  ⟨(.mark .closeBracket, 91) :: operandShifts,
    [],
    (.expression, 92) :: (.arguments, 90) :: expressionGotos⟩,
  -- 50: atom → ( · expression )
  ⟨operandShifts, [], (.expression, 93) :: expressionGotos⟩,
  -- 51: forStatement → for name · = expression to expression step expression …
  ⟨[(.mark .equal, 94)], [], []⟩,
  -- 52: forEachStatement → for each · name in expression newline block next name …
  ⟨[(.name, 95)], [], []⟩,
  -- 53: whileStatement → while expression · newline block wend newline and 1 more
  ⟨[(.newline, 96)], [], []⟩,
  -- 54: functionDefinition → function name · ( parameters ) newline block end …
  ⟨[(.mark .openParen, 97)], [], []⟩,
  -- 55: functionDefinition → sub name · ( parameters ) newline block end …
  ⟨[(.mark .openParen, 98)], [], []⟩]

/-- The rows of the states 56 to 83, with the phrases that each state has begun. -/
def rowsFrom56 : Array (Row Terminal Rule Category) := #[
  -- 56: dimStatement → dim name · = expression and 1 more
  ⟨[(.mark .equal, 99)], [(.dim false, [.newline])], []⟩,
  -- 57: assignStatement → target = · expression
  ⟨operandShifts, [], (.expression, 100) :: expressionGotos⟩,
  -- 58: target → target [ · expression ]
  ⟨operandShifts, [], (.expression, 101) :: expressionGotos⟩,
  -- 59: returnStatement → return expression ·
  ⟨[], [(.giveBack true, [.newline])], []⟩,
  -- 60: exitStatement → exit for ·
  ⟨[], [(.exit .forWord, [.newline])], []⟩,
  -- 61: exitStatement → exit while ·
  ⟨[], [(.exit .whileWord, [.newline])], []⟩,
  -- 62: exitStatement → exit function ·
  ⟨[], [(.exit .functionWord, [.newline])], []⟩,
  -- 63: exitStatement → exit sub ·
  ⟨[], [(.exit .subWord, [.newline])], []⟩,
  -- 64: callStatement → call name · ( arguments ) and 2 more
  ⟨[(.mark .openParen, 102)], [(.callBare, [.newline])], []⟩,
  -- 65: callStatement → name ( · arguments ) and 1 more
  ⟨(.mark .closeParen, 104) :: operandShifts,
    [],
    (.expression, 92) :: (.arguments, 103) :: expressionGotos⟩,
  -- 66: ifStatement → if expression then · newline block elseIfs elseClause end …
  ⟨(.newline, 105) :: simpleShifts, [], (.simpleStatement, 106) :: lineGotos⟩,
  -- 67: disjunction → disjunction or · conjunction
  ⟨operandShifts, [], (.conjunction, 107) :: conjunctGotos⟩,
  -- 68: conjunction → conjunction and · comparison
  ⟨operandShifts, [], (.comparison, 108) :: comparandGotos⟩,
  -- 69: comparison → comparison = · sum
  ⟨operandShifts, [], (.sum, 109) :: summandGotos⟩,
  -- 70: comparison → comparison == · sum
  ⟨operandShifts, [], (.sum, 110) :: summandGotos⟩,
  -- 71: comparison → comparison <> · sum
  ⟨operandShifts, [], (.sum, 111) :: summandGotos⟩,
  -- 72: comparison → comparison != · sum
  ⟨operandShifts, [], (.sum, 112) :: summandGotos⟩,
  -- 73: comparison → comparison < · sum
  ⟨operandShifts, [], (.sum, 113) :: summandGotos⟩,
  -- 74: comparison → comparison <= · sum
  ⟨operandShifts, [], (.sum, 114) :: summandGotos⟩,
  -- 75: comparison → comparison > · sum
  ⟨operandShifts, [], (.sum, 115) :: summandGotos⟩,
  -- 76: comparison → comparison >= · sum
  ⟨operandShifts, [], (.sum, 116) :: summandGotos⟩,
  -- 77: sum → sum + · product
  ⟨operandShifts, [], (.product, 117) :: factorGotos⟩,
  -- 78: sum → sum - · product
  ⟨operandShifts, [], (.product, 118) :: factorGotos⟩,
  -- 79: sum → sum & · product
  ⟨operandShifts, [], (.product, 119) :: factorGotos⟩,
  -- 80: product → product * · unary
  ⟨operandShifts, [], (.unary, 120) :: signedGotos⟩,
  -- 81: product → product / · unary
  ⟨operandShifts, [], (.unary, 121) :: signedGotos⟩,
  -- 82: product → product mod · unary
  ⟨operandShifts, [], (.unary, 122) :: signedGotos⟩,
  -- 83: product → product % · unary
  ⟨operandShifts, [], (.unary, 123) :: signedGotos⟩]

/-- The rows of the states 84 to 111, with the phrases that each state has begun. -/
def rowsFrom84 : Array (Row Terminal Rule Category) := #[
  -- 84: unary → - unary ·
  ⟨[], [(.negate, afterFactor)], []⟩,
  -- 85: unary → + unary ·
  ⟨[], [(.plusSign, afterFactor)], []⟩,
  -- 86: unary → not unary ·
  ⟨[], [(.not, afterFactor)], []⟩,
  -- 87: power → postfixed ^ · unary
  ⟨operandShifts, [], (.unary, 124) :: signedGotos⟩,
  -- 88: postfixed → postfixed [ · expression ]
  ⟨operandShifts, [], (.expression, 125) :: expressionGotos⟩,
  -- 89: atom → name ( · arguments ) and 1 more
  ⟨(.mark .closeParen, 127) :: operandShifts,
    [],
    (.expression, 92) :: (.arguments, 126) :: expressionGotos⟩,
  -- 90: atom → [ arguments · ]
  ⟨[(.mark .closeBracket, 128)], [], []⟩,
  -- 91: atom → [ ] ·
  ⟨[], [(.array false, afterAtom)], []⟩,
  -- 92: arguments → expression · moreArguments and 1 more
  ⟨[(.mark .comma, 130)],
    [(.arguments false, [.mark .closeParen, .mark .closeBracket])],
    [(.moreArguments, 129)]⟩,
  -- 93: atom → ( expression · )
  ⟨[(.mark .closeParen, 131)], [], []⟩,
  -- 94: forStatement → for name = · expression to expression step expression …
  ⟨operandShifts, [], (.expression, 132) :: expressionGotos⟩,
  -- 95: forEachStatement → for each name · in expression newline block next name …
  ⟨[(.keyword .inKw, 133)], [], []⟩,
  -- 96: whileStatement → while expression newline · block wend newline and 1 more
  ⟨statementShifts,
    [(.block false, [.keyword .wendKw, .keyword .endKw])],
    (.statements, 135) :: (.statement, 4) :: (.block, 134) :: statementGotos⟩,
  -- 97: functionDefinition → function name ( · parameters ) newline block end …
  ⟨[(.keyword .paramarrayKw, 143), (.keyword .optionalKw, 142),
    (.keyword .byrefKw, 141), (.keyword .byvalKw, 139), (.name, 140),
      (.mark .closeParen, 137)],
    [],
    [(.parameters, 136), (.parameter, 138)]⟩,
  -- 98: functionDefinition → sub name ( · parameters ) newline block end …
  ⟨[(.keyword .paramarrayKw, 143), (.keyword .optionalKw, 142),
    (.keyword .byrefKw, 141), (.keyword .byvalKw, 139), (.name, 140),
      (.mark .closeParen, 145)],
    [],
    [(.parameters, 144), (.parameter, 138)]⟩,
  -- 99: dimStatement → dim name = · expression
  ⟨operandShifts, [], (.expression, 146) :: expressionGotos⟩,
  -- 100: assignStatement → target = expression ·
  ⟨[], [(.assign, [.newline])], []⟩,
  -- 101: target → target [ expression · ]
  ⟨[(.mark .closeBracket, 147)], [], []⟩,
  -- 102: callStatement → call name ( · arguments ) and 1 more
  ⟨(.mark .closeParen, 149) :: operandShifts,
    [],
    (.expression, 92) :: (.arguments, 148) :: expressionGotos⟩,
  -- 103: callStatement → name ( arguments · )
  ⟨[(.mark .closeParen, 150)], [], []⟩,
  -- 104: callStatement → name ( ) ·
  ⟨[], [(.callPlain false, [.newline])], []⟩,
  -- 105: ifStatement → if expression then newline · block elseIfs elseClause end …
  ⟨statementShifts,
    [(.block false, [.keyword .elseifKw, .keyword .elseKw, .keyword .endKw])],
    (.statements, 135) :: (.statement, 4) :: (.block, 151) :: statementGotos⟩,
  -- 106: ifStatement → if expression then simpleStatement · newline
  ⟨[(.newline, 152)], [], []⟩,
  -- 107: disjunction → disjunction or conjunction · and 1 more
  ⟨[(.keyword .andKw, 68)], [(.binary .orWord, afterDisjunct)], []⟩,
  -- 108: conjunction → conjunction and comparison · and 8 more
  ⟨comparisonShifts, [(.binary .andWord, afterConjunct)], []⟩,
  -- 109: comparison → comparison = sum · and 3 more
  ⟨sumShifts, [(.binary .equal, afterComparand)], []⟩,
  -- 110: comparison → comparison == sum · and 3 more
  ⟨sumShifts, [(.binary .doubleEqual, afterComparand)], []⟩,
  -- 111: comparison → comparison <> sum · and 3 more
  ⟨sumShifts, [(.binary .angles, afterComparand)], []⟩]

/-- The rows of the states 112 to 139, with the phrases that each state has
begun. -/
def rowsFrom112 : Array (Row Terminal Rule Category) := #[
  -- 112: comparison → comparison != sum · and 3 more
  ⟨sumShifts, [(.binary .bangEqual, afterComparand)], []⟩,
  -- 113: comparison → comparison < sum · and 3 more
  ⟨sumShifts, [(.binary .less, afterComparand)], []⟩,
  -- 114: comparison → comparison <= sum · and 3 more
  ⟨sumShifts, [(.binary .lessEqual, afterComparand)], []⟩,
  -- 115: comparison → comparison > sum · and 3 more
  ⟨sumShifts, [(.binary .greater, afterComparand)], []⟩,
  -- 116: comparison → comparison >= sum · and 3 more
  ⟨sumShifts, [(.binary .greaterEqual, afterComparand)], []⟩,
  -- 117: sum → sum + product · and 4 more
  ⟨productShifts, [(.binary .plus, afterSummand)], []⟩,
  -- 118: sum → sum - product · and 4 more
  ⟨productShifts, [(.binary .minus, afterSummand)], []⟩,
  -- 119: sum → sum & product · and 4 more
  ⟨productShifts, [(.binary .ampersand, afterSummand)], []⟩,
  -- 120: product → product * unary ·
  ⟨[], [(.binary .star, afterFactor)], []⟩,
  -- 121: product → product / unary ·
  ⟨[], [(.binary .slash, afterFactor)], []⟩,
  -- 122: product → product mod unary ·
  ⟨[], [(.binary .modWord, afterFactor)], []⟩,
  -- 123: product → product % unary ·
  ⟨[], [(.binary .percent, afterFactor)], []⟩,
  -- 124: power → postfixed ^ unary ·
  ⟨[], [(.binary .caret, afterFactor)], []⟩,
  -- 125: postfixed → postfixed [ expression · ]
  ⟨[(.mark .closeBracket, 153)], [], []⟩,
  -- 126: atom → name ( arguments · )
  ⟨[(.mark .closeParen, 154)], [], []⟩,
  -- 127: atom → name ( ) ·
  ⟨[], [(.call false, afterAtom)], []⟩,
  -- 128: atom → [ arguments ] ·
  ⟨[], [(.array true, afterAtom)], []⟩,
  -- 129: arguments → expression moreArguments · and 1 more
  ⟨[(.mark .comma, 155)],
    [(.arguments true, [.mark .closeParen, .mark .closeBracket])], []⟩,
  -- 130: moreArguments → , · expression
  ⟨operandShifts, [], (.expression, 156) :: expressionGotos⟩,
  -- 131: atom → ( expression ) ·
  ⟨[], [(.parenthesised, afterAtom)], []⟩,
  -- 132: forStatement → for name = expression · to expression step expression …
  ⟨[(.keyword .toKw, 157)], [], []⟩,
  -- 133: forEachStatement → for each name in · expression newline block next …
  ⟨operandShifts, [], (.expression, 158) :: expressionGotos⟩,
  -- 134: whileStatement → while expression newline block · wend newline and 1 more
  ⟨[(.keyword .wendKw, 159), (.keyword .endKw, 160)], [], []⟩,
  -- 135: statements → statements · statement and 1 more
  ⟨statementShifts,
    [(.block true, afterBlock)],
    (.statement, 28) :: statementGotos⟩,
  -- 136: functionDefinition → function name ( parameters · ) newline block end …
  ⟨[(.mark .closeParen, 161)], [], []⟩,
  -- 137: functionDefinition → function name ( ) · newline block end function …
  ⟨[(.newline, 162)], [], []⟩,
  -- 138: parameters → parameter · moreParameters and 1 more
  ⟨[(.mark .comma, 164)], [(.parameters false, [.mark .closeParen])],
    [(.moreParameters, 163)]⟩,
  -- 139: parameter → byval · name
  ⟨[(.name, 165)], [], []⟩]

/-- The rows of the states 140 to 167, with the phrases that each state has
begun. -/
def rowsFrom140 : Array (Row Terminal Rule Category) := #[
  -- 140: parameter → name ·
  ⟨[], [(.byValue false, [.mark .closeParen, .mark .comma])], []⟩,
  -- 141: parameter → byref · name
  ⟨[(.name, 166)], [], []⟩,
  -- 142: parameter → optional · name = expression and 1 more
  ⟨[(.name, 167)], [], []⟩,
  -- 143: parameter → paramarray · name
  ⟨[(.name, 168)], [], []⟩,
  -- 144: functionDefinition → sub name ( parameters · ) newline block end …
  ⟨[(.mark .closeParen, 169)], [], []⟩,
  -- 145: functionDefinition → sub name ( ) · newline block end function newline …
  ⟨[(.newline, 170)], [], []⟩,
  -- 146: dimStatement → dim name = expression ·
  ⟨[], [(.dim true, [.newline])], []⟩,
  -- 147: target → target [ expression ] ·
  ⟨[], [(.targetIndex, [.mark .equal, .mark .openBracket])], []⟩,
  -- 148: callStatement → call name ( arguments · )
  ⟨[(.mark .closeParen, 171)], [], []⟩,
  -- 149: callStatement → call name ( ) ·
  ⟨[], [(.callMarked false, [.newline])], []⟩,
  -- 150: callStatement → name ( arguments ) ·
  ⟨[], [(.callPlain true, [.newline])], []⟩,
  -- 151: ifStatement → if expression then newline block · elseIfs elseClause end …
  ⟨[(.keyword .elseifKw, 177), (.keyword .elseKw, 176), (.keyword .endKw, 174)],
    [],
    [(.elseIfs, 172), (.elseIf, 175), (.elseClause, 173)]⟩,
  -- 152: ifStatement → if expression then simpleStatement newline ·
  ⟨[], [(.inlineConditional, afterStatement)], []⟩,
  -- 153: postfixed → postfixed [ expression ] ·
  ⟨[], [(.postfixIndex, afterAtom)], []⟩,
  -- 154: atom → name ( arguments ) ·
  ⟨[], [(.call true, afterAtom)], []⟩,
  -- 155: moreArguments → moreArguments , · expression
  ⟨operandShifts, [], (.expression, 178) :: expressionGotos⟩,
  -- 156: moreArguments → , expression ·
  ⟨[], [(.secondArgument, [.mark .closeParen, .mark .comma, .mark .closeBracket])],
    []⟩,
  -- 157: forStatement → for name = expression to · expression step expression …
  ⟨operandShifts, [], (.expression, 179) :: expressionGotos⟩,
  -- 158: forEachStatement → for each name in expression · newline block next …
  ⟨[(.newline, 180)], [], []⟩,
  -- 159: whileStatement → while expression newline block wend · newline
  ⟨[(.newline, 181)], [], []⟩,
  -- 160: whileStatement → while expression newline block end · while newline
  ⟨[(.keyword .whileKw, 182)], [], []⟩,
  -- 161: functionDefinition → function name ( parameters ) · newline block end …
  ⟨[(.newline, 183)], [], []⟩,
  -- 162: functionDefinition → function name ( ) newline · block end function …
  ⟨statementShifts,
    [(.block false, [.keyword .endKw])],
    (.statements, 135) :: (.statement, 4) :: (.block, 184) :: statementGotos⟩,
  -- 163: parameters → parameter moreParameters · and 1 more
  ⟨[(.mark .comma, 185)], [(.parameters true, [.mark .closeParen])], []⟩,
  -- 164: moreParameters → , · parameter
  ⟨[(.keyword .paramarrayKw, 143), (.keyword .optionalKw, 142),
    (.keyword .byrefKw, 141), (.keyword .byvalKw, 139), (.name, 140)],
    [],
    [(.parameter, 186)]⟩,
  -- 165: parameter → byval name ·
  ⟨[], [(.byValue true, [.mark .closeParen, .mark .comma])], []⟩,
  -- 166: parameter → byref name ·
  ⟨[], [(.byReference, [.mark .closeParen, .mark .comma])], []⟩,
  -- 167: parameter → optional name · = expression and 1 more
  ⟨[(.mark .equal, 187)], [(.optional false, [.mark .closeParen, .mark .comma])],
    []⟩]

/-- The rows of the states 168 to 195, with the phrases that each state has
begun. -/
def rowsFrom168 : Array (Row Terminal Rule Category) := #[
  -- 168: parameter → paramarray name ·
  ⟨[], [(.restParameter, [.mark .closeParen, .mark .comma])], []⟩,
  -- 169: functionDefinition → sub name ( parameters ) · newline block end …
  ⟨[(.newline, 188)], [], []⟩,
  -- 170: functionDefinition → sub name ( ) newline · block end function newline …
  ⟨statementShifts,
    [(.block false, [.keyword .endKw])],
    (.statements, 135) :: (.statement, 4) :: (.block, 189) :: statementGotos⟩,
  -- 171: callStatement → call name ( arguments ) ·
  ⟨[], [(.callMarked true, [.newline])], []⟩,
  -- 172: ifStatement → if expression then newline block elseIfs · elseClause end …
  ⟨[(.keyword .elseifKw, 177), (.keyword .elseKw, 176), (.keyword .endKw, 191)],
    [],
    [(.elseIf, 192), (.elseClause, 190)]⟩,
  -- 173: ifStatement → if expression then newline block elseClause · end if newline
  ⟨[(.keyword .endKw, 193)], [], []⟩,
  -- 174: ifStatement → if expression then newline block end · if newline
  ⟨[(.keyword .ifKw, 194)], [], []⟩,
  -- 175: elseIfs → elseIf ·
  ⟨[], [(.firstElseIf, [.keyword .elseifKw, .keyword .elseKw, .keyword .endKw])],
    []⟩,
  -- 176: elseClause → else · newline block
  ⟨[(.newline, 195)], [], []⟩,
  -- 177: elseIf → elseif · expression then newline block
  ⟨operandShifts, [], (.expression, 196) :: expressionGotos⟩,
  -- 178: moreArguments → moreArguments , expression ·
  ⟨[], [(.nextArgument, [.mark .closeParen, .mark .comma, .mark .closeBracket])],
    []⟩,
  -- 179: forStatement → for name = expression to expression · step expression …
  ⟨[(.keyword .stepKw, 197), (.newline, 198)], [], []⟩,
  -- 180: forEachStatement → for each name in expression newline · block next …
  ⟨statementShifts,
    [(.block false, [.keyword .nextKw])],
    (.statements, 135) :: (.statement, 4) :: (.block, 199) :: statementGotos⟩,
  -- 181: whileStatement → while expression newline block wend newline ·
  ⟨[], [(.whileWend, afterStatement)], []⟩,
  -- 182: whileStatement → while expression newline block end while · newline
  ⟨[(.newline, 200)], [], []⟩,
  -- 183: functionDefinition → function name ( parameters ) newline · block end …
  ⟨statementShifts,
    [(.block false, [.keyword .endKw])],
    (.statements, 135) :: (.statement, 4) :: (.block, 201) :: statementGotos⟩,
  -- 184: functionDefinition → function name ( ) newline block · end function …
  ⟨[(.keyword .endKw, 202)], [], []⟩,
  -- 185: moreParameters → moreParameters , · parameter
  ⟨[(.keyword .paramarrayKw, 143), (.keyword .optionalKw, 142),
    (.keyword .byrefKw, 141), (.keyword .byvalKw, 139), (.name, 140)],
    [],
    [(.parameter, 203)]⟩,
  -- 186: moreParameters → , parameter ·
  ⟨[], [(.secondParameter, [.mark .closeParen, .mark .comma])], []⟩,
  -- 187: parameter → optional name = · expression
  ⟨operandShifts, [], (.expression, 204) :: expressionGotos⟩,
  -- 188: functionDefinition → sub name ( parameters ) newline · block end …
  ⟨statementShifts,
    [(.block false, [.keyword .endKw])],
    (.statements, 135) :: (.statement, 4) :: (.block, 205) :: statementGotos⟩,
  -- 189: functionDefinition → sub name ( ) newline block · end function newline …
  ⟨[(.keyword .endKw, 206)], [], []⟩,
  -- 190: ifStatement → if expression then newline block elseIfs elseClause · end …
  ⟨[(.keyword .endKw, 207)], [], []⟩,
  -- 191: ifStatement → if expression then newline block elseIfs end · if newline
  ⟨[(.keyword .ifKw, 208)], [], []⟩,
  -- 192: elseIfs → elseIfs elseIf ·
  ⟨[], [(.nextElseIf, [.keyword .elseifKw, .keyword .elseKw, .keyword .endKw])],
    []⟩,
  -- 193: ifStatement → if expression then newline block elseClause end · if newline
  ⟨[(.keyword .ifKw, 209)], [], []⟩,
  -- 194: ifStatement → if expression then newline block end if · newline
  ⟨[(.newline, 210)], [], []⟩,
  -- 195: elseClause → else newline · block
  ⟨statementShifts,
    [(.block false, [.keyword .endKw])],
    (.statements, 135) :: (.statement, 4) :: (.block, 211) :: statementGotos⟩]

/-- The rows of the states 196 to 223, with the phrases that each state has
begun. -/
def rowsFrom196 : Array (Row Terminal Rule Category) := #[
  -- 196: elseIf → elseif expression · then newline block
  ⟨[(.keyword .thenKw, 212)], [], []⟩,
  -- 197: forStatement → for name = expression to expression step · expression …
  ⟨operandShifts, [], (.expression, 213) :: expressionGotos⟩,
  -- 198: forStatement → for name = expression to expression newline · block next …
  ⟨statementShifts,
    [(.block false, [.keyword .nextKw])],
    (.statements, 135) :: (.statement, 4) :: (.block, 214) :: statementGotos⟩,
  -- 199: forEachStatement → for each name in expression newline block · next …
  ⟨[(.keyword .nextKw, 215)], [], []⟩,
  -- 200: whileStatement → while expression newline block end while newline ·
  ⟨[], [(.whileEnd, afterStatement)], []⟩,
  -- 201: functionDefinition → function name ( parameters ) newline block · end …
  ⟨[(.keyword .endKw, 216)], [], []⟩,
  -- 202: functionDefinition → function name ( ) newline block end · function …
  ⟨[(.keyword .functionKw, 217), (.keyword .subKw, 218)], [], []⟩,
  -- 203: moreParameters → moreParameters , parameter ·
  ⟨[], [(.nextParameter, [.mark .closeParen, .mark .comma])], []⟩,
  -- 204: parameter → optional name = expression ·
  ⟨[], [(.optional true, [.mark .closeParen, .mark .comma])], []⟩,
  -- 205: functionDefinition → sub name ( parameters ) newline block · end …
  ⟨[(.keyword .endKw, 219)], [], []⟩,
  -- 206: functionDefinition → sub name ( ) newline block end · function newline …
  ⟨[(.keyword .functionKw, 220), (.keyword .subKw, 221)], [], []⟩,
  -- 207: ifStatement → if expression then newline block elseIfs elseClause end · …
  ⟨[(.keyword .ifKw, 222)], [], []⟩,
  -- 208: ifStatement → if expression then newline block elseIfs end if · newline
  ⟨[(.newline, 223)], [], []⟩,
  -- 209: ifStatement → if expression then newline block elseClause end if · newline
  ⟨[(.newline, 224)], [], []⟩,
  -- 210: ifStatement → if expression then newline block end if newline ·
  ⟨[], [(.conditional false false, afterStatement)], []⟩,
  -- 211: elseClause → else newline block ·
  ⟨[], [(.elseClause, [.keyword .endKw])], []⟩,
  -- 212: elseIf → elseif expression then · newline block
  ⟨[(.newline, 225)], [], []⟩,
  -- 213: forStatement → for name = expression to expression step expression · …
  ⟨[(.newline, 226)], [], []⟩,
  -- 214: forStatement → for name = expression to expression newline block · next …
  ⟨[(.keyword .nextKw, 227)], [], []⟩,
  -- 215: forEachStatement → for each name in expression newline block next · …
  ⟨[(.name, 228), (.newline, 229)], [], []⟩,
  -- 216: functionDefinition → function name ( parameters ) newline block end · …
  ⟨[(.keyword .functionKw, 230), (.keyword .subKw, 231)], [], []⟩,
  -- 217: functionDefinition → function name ( ) newline block end function · …
  ⟨[(.newline, 232)], [], []⟩,
  -- 218: functionDefinition → function name ( ) newline block end sub · newline
  ⟨[(.newline, 233)], [], []⟩,
  -- 219: functionDefinition → sub name ( parameters ) newline block end · …
  ⟨[(.keyword .functionKw, 234), (.keyword .subKw, 235)], [], []⟩,
  -- 220: functionDefinition → sub name ( ) newline block end function · newline
  ⟨[(.newline, 236)], [], []⟩,
  -- 221: functionDefinition → sub name ( ) newline block end sub · newline
  ⟨[(.newline, 237)], [], []⟩,
  -- 222: ifStatement → if expression then newline block elseIfs elseClause end …
  ⟨[(.newline, 238)], [], []⟩,
  -- 223: ifStatement → if expression then newline block elseIfs end if newline ·
  ⟨[], [(.conditional true false, afterStatement)], []⟩]

/-- The rows of the states 224 to 251, with the phrases that each state has
begun. -/
def rowsFrom224 : Array (Row Terminal Rule Category) := #[
  -- 224: ifStatement → if expression then newline block elseClause end if newline ·
  ⟨[], [(.conditional false true, afterStatement)], []⟩,
  -- 225: elseIf → elseif expression then newline · block
  ⟨statementShifts,
    [(.block false, [.keyword .elseifKw, .keyword .elseKw, .keyword .endKw])],
    (.statements, 135) :: (.statement, 4) :: (.block, 239) :: statementGotos⟩,
  -- 226: forStatement → for name = expression to expression step expression …
  ⟨statementShifts,
    [(.block false, [.keyword .nextKw])],
    (.statements, 135) :: (.statement, 4) :: (.block, 240) :: statementGotos⟩,
  -- 227: forStatement → for name = expression to expression newline block next · …
  ⟨[(.name, 241), (.newline, 242)], [], []⟩,
  -- 228: forEachStatement → for each name in expression newline block next name …
  ⟨[(.newline, 243)], [], []⟩,
  -- 229: forEachStatement → for each name in expression newline block next …
  ⟨[], [(.forEach false, afterStatement)], []⟩,
  -- 230: functionDefinition → function name ( parameters ) newline block end …
  ⟨[(.newline, 244)], [], []⟩,
  -- 231: functionDefinition → function name ( parameters ) newline block end sub …
  ⟨[(.newline, 245)], [], []⟩,
  -- 232: functionDefinition → function name ( ) newline block end function …
  ⟨[], [(.function .functionWord false .functionWord, afterStatement)], []⟩,
  -- 233: functionDefinition → function name ( ) newline block end sub newline ·
  ⟨[], [(.function .functionWord false .subWord, afterStatement)], []⟩,
  -- 234: functionDefinition → sub name ( parameters ) newline block end function …
  ⟨[(.newline, 246)], [], []⟩,
  -- 235: functionDefinition → sub name ( parameters ) newline block end sub · …
  ⟨[(.newline, 247)], [], []⟩,
  -- 236: functionDefinition → sub name ( ) newline block end function newline ·
  ⟨[], [(.function .subWord false .functionWord, afterStatement)], []⟩,
  -- 237: functionDefinition → sub name ( ) newline block end sub newline ·
  ⟨[], [(.function .subWord false .subWord, afterStatement)], []⟩,
  -- 238: ifStatement → if expression then newline block elseIfs elseClause end …
  ⟨[], [(.conditional true true, afterStatement)], []⟩,
  -- 239: elseIf → elseif expression then newline block ·
  ⟨[], [(.elseIf, [.keyword .elseifKw, .keyword .elseKw, .keyword .endKw])], []⟩,
  -- 240: forStatement → for name = expression to expression step expression …
  ⟨[(.keyword .nextKw, 248)], [], []⟩,
  -- 241: forStatement → for name = expression to expression newline block next …
  ⟨[(.newline, 249)], [], []⟩,
  -- 242: forStatement → for name = expression to expression newline block next …
  ⟨[], [(.forRange false false, afterStatement)], []⟩,
  -- 243: forEachStatement → for each name in expression newline block next name …
  ⟨[], [(.forEach true, afterStatement)], []⟩,
  -- 244: functionDefinition → function name ( parameters ) newline block end …
  ⟨[], [(.function .functionWord true .functionWord, afterStatement)], []⟩,
  -- 245: functionDefinition → function name ( parameters ) newline block end sub …
  ⟨[], [(.function .functionWord true .subWord, afterStatement)], []⟩,
  -- 246: functionDefinition → sub name ( parameters ) newline block end function …
  ⟨[], [(.function .subWord true .functionWord, afterStatement)], []⟩,
  -- 247: functionDefinition → sub name ( parameters ) newline block end sub …
  ⟨[], [(.function .subWord true .subWord, afterStatement)], []⟩,
  -- 248: forStatement → for name = expression to expression step expression …
  ⟨[(.name, 250), (.newline, 251)], [], []⟩,
  -- 249: forStatement → for name = expression to expression newline block next …
  ⟨[], [(.forRange false true, afterStatement)], []⟩,
  -- 250: forStatement → for name = expression to expression step expression …
  ⟨[(.newline, 252)], [], []⟩,
  -- 251: forStatement → for name = expression to expression step expression …
  ⟨[], [(.forRange true false, afterStatement)], []⟩]

/-- The rows of the states 252 to 252, with the phrases that each state has
begun. -/
def rowsFrom252 : Array (Row Terminal Rule Category) := #[
  -- 252: forStatement → for name = expression to expression step expression …
  ⟨[], [(.forRange true true, afterStatement)], []⟩]

/-- The rows of all states. -/
def rows : Array (Row Terminal Rule Category) :=
  rowsFrom0 ++ rowsFrom28 ++ rowsFrom56 ++ rowsFrom84 ++ rowsFrom112 ++
    rowsFrom140 ++ rowsFrom168 ++ rowsFrom196 ++ rowsFrom224 ++ rowsFrom252

/-- The state in which a whole text has been read. -/
def accepting : Nat := 1

end GridScript.Script.Table
