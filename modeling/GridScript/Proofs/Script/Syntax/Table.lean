import GridScript.Proofs.Parsing.Soundness
import GridScript.Proofs.Parsing.Validation
import GridScript.Proofs.Script.Syntax.Lexemes
import GridScript.Script.Parser
import Mathlib.Data.List.GetD

namespace GridScript.Script

/-!
# The table of scripts is complete and sound

Every phrase that the rules of the script grammar derive is read by the table,
and what the table accepts is derived by the rules. The rules are listed here,
and every row is checked for every rule.
-/

open GridScript.Parsing

/-!
## The table of scripts is complete

Every phrase that the rules of the script grammar derive is read by the table.
The rules are listed here, and every row is checked for every rule.
-/

/-- A part of a rule as a symbol. -/
def Part.symbol : Part → GrammarSymbol Terminal Category
  | terminal k => .token k
  | phrase category => .phrase category

namespace Rule

/-- The phrases of one category that are phrases of another one. -/
def chains : List (Category × Category) :=
  [(.statement, .ifStatement), (.statement, .forStatement),
    (.statement, .forEachStatement), (.statement, .whileStatement),
    (.statement, .functionDefinition), (.simpleStatement, .dimStatement),
    (.simpleStatement, .assignStatement), (.simpleStatement, .returnStatement),
    (.simpleStatement, .exitStatement), (.simpleStatement, .callStatement),
    (.expression, .disjunction), (.disjunction, .conjunction),
    (.conjunction, .comparison), (.comparison, .sum), (.sum, .product),
    (.product, .unary), (.unary, .power), (.power, .postfixed), (.postfixed, .atom)]

/-- The spellings of the binary operators. -/
def spellings : List Spelling :=
  [.orWord, .andWord, .equal, .doubleEqual, .angles, .bangEqual, .less, .lessEqual,
    .greater, .greaterEqual, .plus, .minus, .ampersand, .star, .slash, .modWord,
    .percent, .caret]

/-- The rules of statements without blocks. -/
def ofSimpleStatements : List Rule :=
  [.assign, .targetName, .targetIndex, .dim false, .dim true, .giveBack false,
    .giveBack true, .exit .forWord, .exit .whileWord, .exit .functionWord,
    .exit .subWord, .callBare, .callMarked false, .callMarked true,
    .callPlain false, .callPlain true]

/-- The rules of conditionals and loops. -/
def ofBlocks : List Rule :=
  [.block false, .block true, .conditional false false, .conditional false true,
    .conditional true false, .conditional true true, .inlineConditional,
    .firstElseIf, .nextElseIf, .elseIf, .elseClause, .forRange false false,
    .forRange false true, .forRange true false, .forRange true true, .forEach false,
    .forEach true, .whileWend, .whileEnd]

/-- The rules of function definitions. -/
def ofFunctions : List Rule :=
  [.function .functionWord false .functionWord,
    .function .functionWord false .subWord,
    .function .functionWord true .functionWord,
    .function .functionWord true .subWord, .function .subWord false .functionWord,
    .function .subWord false .subWord, .function .subWord true .functionWord,
    .function .subWord true .subWord, .parameters false, .parameters true,
    .secondParameter, .nextParameter, .byValue false, .byValue true, .byReference,
    .optional false, .optional true, .restParameter]

/-- The rules of programs. -/
def ofPrograms : List Rule :=
  [.program false false, .program false true, .program true false,
    .program true true, .firstStatement, .nextStatement, .lineStatement]

/-- The rules of expressions. -/
def ofExpressions : List Rule :=
  [.negate, .plusSign, .not, .postfixIndex, .number, .string, .trueWord, .falseWord,
    .nullWord, .call false, .call true, .name, .array false, .array true,
    .parenthesised, .arguments false, .arguments true, .secondArgument,
    .nextArgument]

/-- Every rule. -/
def all : List Rule :=
  chains.map (fun (upper, lower) => .chain upper lower) ++ spellings.map .binary ++
    ofExpressions ++ ofPrograms ++ ofSimpleStatements ++ ofBlocks ++ ofFunctions

end Rule

/-- The grammar of scripts. -/
def grammar : Grammar Terminal Rule Category where
  rules := Rule.all
  symbols rule := rule.parts.map Part.symbol

namespace Table

/-- A row without entries. -/
def emptyRow : Row Terminal Rule Category :=
  ⟨[], [], []⟩

/-- The row of a state, found in the part of some rows that holds it. -/
def rowIn
    (state : Nat) :
    List (Array (Row Terminal Rule Category)) → Row Terminal Rule Category
  | [] => emptyRow
  | rows :: later =>
      if state < rows.size then rows.toList.getD state emptyRow
      else rowIn (state - rows.size) later

/-- The parts of the table. -/
def parts : List (Array (Row Terminal Rule Category)) :=
  [rowsFrom0, rowsFrom28, rowsFrom56, rowsFrom84, rowsFrom112, rowsFrom140,
    rowsFrom168, rowsFrom196, rowsFrom224, rowsFrom252]

/-- Finding a row in parts is finding it in all of them together. -/
theorem rowIn_eq
    (state : Nat)
    (parts : List (Array (Row Terminal Rule Category))) :
    rowIn state parts = (parts.flatMap Array.toList).getD state emptyRow := by
  induction parts generalizing state with
  | nil =>
      rfl
  | cons rows later inductionHypothesis =>
      rw [rowIn, inductionHypothesis, List.flatMap_cons]
      split
      next inside =>
        exact (List.getD_append _ _ _ _ inside).symm
      next outside =>
        exact (List.getD_append_right _ _ _ _ (Nat.le_of_not_lt outside)).symm

/-- The rows of the table are found in its parts. -/
theorem row_eq (state : Nat) : language.row state = rowIn state parts := by
  rw [rowIn_eq]
  simp [Language.row, language, rows, parts, emptyRow, Array.getD_eq_getD_getElem?,
    List.getD_eq_getElem?_getD, ← Array.getElem?_toList]

/-- Every row is valid. -/
theorem validates_rows :
    ((List.range 253).all fun state =>
      language.validates grammar (rowIn · parts) state) = true := by
  decide +kernel

/-- Beyond the last row there are no entries. -/
theorem rowIn_of_le {state : Nat} (beyond : 253 ≤ state) :
    rowIn state parts = emptyRow := by
  have size : (parts.flatMap Array.toList).length = 253 := by decide +kernel
  rw [rowIn_eq, List.getD_eq_default _ _ (by omega)]

/-- Beyond the last row no phrase is followed by a state. -/
theorem validates_all (state : Nat) :
    language.validates grammar (rowIn · parts) state = true := by
  by_cases inside : state < 253
  · exact List.all_eq_true.mp validates_rows state (List.mem_range.mpr inside)
  · simp [Language.validates, rowIn_of_le (Nat.le_of_not_lt inside), emptyRow]

end Table

/-- The table reads every phrase of the grammar. -/
theorem complete_language : language.Complete grammar :=
  Language.complete_of_validates Table.row_eq
    (fun rule _ => by simp [language, grammar, Rule.arity]) Table.validates_all

/-!
## The table of scripts is sound

What the table accepts is derived by the rules of the grammar. Every state is
listed with the longest item that it begins with.
-/

namespace Table

/-- The items of the states: a rule and the number of its symbols
that have been read. -/
def items : List (Rule × Nat) :=
  [(.firstStatement, 0), (.firstStatement, 0), (.program true true, 1),
    (.program false true, 1), (.firstStatement, 1), (.lineStatement, 1),
    (.chain .statement .ifStatement, 1), (.chain .statement .forStatement, 1),
    (.chain .statement .forEachStatement, 1),
    (.chain .statement .whileStatement, 1),
    (.chain .statement .functionDefinition, 1),
    (.chain .simpleStatement .dimStatement, 1),
    (.chain .simpleStatement .assignStatement, 1),
    (.chain .simpleStatement .returnStatement, 1),
    (.chain .simpleStatement .exitStatement, 1),
    (.chain .simpleStatement .callStatement, 1), (.conditional true true, 1),
    (.forRange true true, 1), (.whileWend, 1),
    (.function .functionWord true .functionWord, 1),
    (.function .subWord true .functionWord, 1), (.dim true, 1), (.assign, 1),
    (.giveBack true, 1), (.exit .forWord, 1), (.callMarked true, 1),
    (.targetName, 1), (.program true true, 2), (.nextStatement, 2),
    (.lineStatement, 2), (.conditional true true, 2),
    (.chain .expression .disjunction, 1), (.chain .disjunction .conjunction, 1),
    (.chain .conjunction .comparison, 1), (.chain .comparison .sum, 1),
    (.chain .sum .product, 1), (.chain .product .unary, 1),
    (.chain .unary .power, 1), (.negate, 1), (.plusSign, 1), (.not, 1),
    (.chain .power .postfixed, 1), (.chain .postfixed .atom, 1), (.number, 1),
    (.string, 1), (.trueWord, 1), (.falseWord, 1), (.nullWord, 1), (.call true, 1),
    (.array true, 1), (.parenthesised, 1), (.forRange true true, 2),
    (.forEach true, 2), (.whileWend, 2),
    (.function .functionWord true .functionWord, 2),
    (.function .subWord true .functionWord, 2), (.dim true, 2), (.assign, 2),
    (.targetIndex, 2), (.giveBack true, 2), (.exit .forWord, 2),
    (.exit .whileWord, 2), (.exit .functionWord, 2), (.exit .subWord, 2),
    (.callMarked true, 2), (.callPlain true, 2), (.conditional true true, 3),
    (.binary .orWord, 2), (.binary .andWord, 2), (.binary .equal, 2),
    (.binary .doubleEqual, 2), (.binary .angles, 2), (.binary .bangEqual, 2),
    (.binary .less, 2), (.binary .lessEqual, 2), (.binary .greater, 2),
    (.binary .greaterEqual, 2), (.binary .plus, 2), (.binary .minus, 2),
    (.binary .ampersand, 2), (.binary .star, 2), (.binary .slash, 2),
    (.binary .modWord, 2), (.binary .percent, 2), (.negate, 2), (.plusSign, 2),
    (.not, 2), (.binary .caret, 2), (.postfixIndex, 2), (.call true, 2),
    (.array true, 2), (.array false, 2), (.arguments true, 1), (.parenthesised, 2),
    (.forRange true true, 3), (.forEach true, 3), (.whileWend, 3),
    (.function .functionWord true .functionWord, 3),
    (.function .subWord true .functionWord, 3), (.dim true, 3), (.assign, 3),
    (.targetIndex, 3), (.callMarked true, 3), (.callPlain true, 3),
    (.callPlain false, 3), (.conditional true true, 4), (.inlineConditional, 4),
    (.binary .orWord, 3), (.binary .andWord, 3), (.binary .equal, 3),
    (.binary .doubleEqual, 3), (.binary .angles, 3), (.binary .bangEqual, 3),
    (.binary .less, 3), (.binary .lessEqual, 3), (.binary .greater, 3),
    (.binary .greaterEqual, 3), (.binary .plus, 3), (.binary .minus, 3),
    (.binary .ampersand, 3), (.binary .star, 3), (.binary .slash, 3),
    (.binary .modWord, 3), (.binary .percent, 3), (.binary .caret, 3),
    (.postfixIndex, 3), (.call true, 3), (.call false, 3), (.array true, 3),
    (.arguments true, 2), (.secondArgument, 1), (.parenthesised, 3),
    (.forRange true true, 4), (.forEach true, 4), (.whileWend, 4),
    (.nextStatement, 1), (.function .functionWord true .functionWord, 4),
    (.function .functionWord false .functionWord, 4), (.parameters true, 1),
    (.byValue true, 1), (.byValue false, 1), (.byReference, 1), (.optional true, 1),
    (.restParameter, 1), (.function .subWord true .functionWord, 4),
    (.function .subWord false .functionWord, 4), (.dim true, 4), (.targetIndex, 4),
    (.callMarked true, 4), (.callMarked false, 4), (.callPlain true, 4),
    (.conditional true true, 5), (.inlineConditional, 5), (.postfixIndex, 4),
    (.call true, 4), (.nextArgument, 2), (.secondArgument, 2),
    (.forRange true true, 5), (.forEach true, 5), (.whileWend, 5), (.whileEnd, 5),
    (.function .functionWord true .functionWord, 5),
    (.function .functionWord false .functionWord, 5), (.parameters true, 2),
    (.secondParameter, 1), (.byValue true, 2), (.byReference, 2),
    (.optional true, 2), (.restParameter, 2),
    (.function .subWord true .functionWord, 5),
    (.function .subWord false .functionWord, 5), (.callMarked true, 5),
    (.conditional true true, 6), (.conditional false true, 6),
    (.conditional false false, 6), (.firstElseIf, 1), (.elseClause, 1),
    (.elseIf, 1), (.nextArgument, 3), (.forRange true true, 6), (.forEach true, 6),
    (.whileWend, 6), (.whileEnd, 6),
    (.function .functionWord true .functionWord, 6),
    (.function .functionWord false .functionWord, 6), (.nextParameter, 2),
    (.secondParameter, 2), (.optional true, 3),
    (.function .subWord true .functionWord, 6),
    (.function .subWord false .functionWord, 6), (.conditional true true, 7),
    (.conditional true false, 7), (.nextElseIf, 2), (.conditional false true, 7),
    (.conditional false false, 7), (.elseClause, 2), (.elseIf, 2),
    (.forRange true true, 7), (.forRange false true, 7), (.forEach true, 7),
    (.whileEnd, 7), (.function .functionWord true .functionWord, 7),
    (.function .functionWord false .functionWord, 7), (.nextParameter, 3),
    (.optional true, 4), (.function .subWord true .functionWord, 7),
    (.function .subWord false .functionWord, 7), (.conditional true true, 8),
    (.conditional true false, 8), (.conditional false true, 8),
    (.conditional false false, 8), (.elseClause, 3), (.elseIf, 3),
    (.forRange true true, 8), (.forRange false true, 8), (.forEach true, 8),
    (.function .functionWord true .functionWord, 8),
    (.function .functionWord false .functionWord, 8),
    (.function .functionWord false .subWord, 8),
    (.function .subWord true .functionWord, 8),
    (.function .subWord false .functionWord, 8),
    (.function .subWord false .subWord, 8), (.conditional true true, 9),
    (.conditional true false, 9), (.conditional false true, 9), (.elseIf, 4),
    (.forRange true true, 9), (.forRange false true, 9), (.forEach true, 9),
    (.forEach false, 9), (.function .functionWord true .functionWord, 9),
    (.function .functionWord true .subWord, 9),
    (.function .functionWord false .functionWord, 9),
    (.function .functionWord false .subWord, 9),
    (.function .subWord true .functionWord, 9),
    (.function .subWord true .subWord, 9),
    (.function .subWord false .functionWord, 9),
    (.function .subWord false .subWord, 9), (.conditional true true, 10),
    (.elseIf, 5), (.forRange true true, 10), (.forRange false true, 10),
    (.forRange false false, 10), (.forEach true, 10),
    (.function .functionWord true .functionWord, 10),
    (.function .functionWord true .subWord, 10),
    (.function .subWord true .functionWord, 10),
    (.function .subWord true .subWord, 10), (.forRange true true, 11),
    (.forRange false true, 11), (.forRange true true, 12),
    (.forRange true false, 12), (.forRange true true, 13)]

/-- The last symbols before each state. -/
def past (state : Nat) : List (GrammarSymbol Terminal Category) :=
  grammar.before (items.getD state (.firstStatement, 0))

/-- Every row keeps to the items. -/
theorem traces_rows :
    ((List.range 253).all fun state =>
      language.traces grammar .program (rowIn · parts) past state) = true := by
  decide +kernel

/-- Beyond the last row there is nothing to keep to. -/
theorem traces_all (state : Nat) :
    language.traces grammar .program (rowIn · parts) past state = true := by
  by_cases inside : state < 253
  · exact List.all_eq_true.mp traces_rows state (List.mem_range.mpr inside)
  · have beyond := rowIn_of_le (Nat.le_of_not_lt inside)
    simp [Language.traces, Language.tracesShifts, Language.tracesGotos,
      Language.tracesReductions, beyond, emptyRow]

end Table

/-- The table leads only over the symbols that the grammar has. -/
theorem traced_language : language.Traced grammar .program Table.past :=
  Language.traced_of_traces Table.row_eq
    (fun rule _ => by simp [language, grammar, Rule.arity])
    (by decide) rfl Table.traces_all

/-!
## The length of runs

A token weighs as much as twelve rules, and each rule makes its parts lighter.
So fourteen steps for each token suffice.
-/

/-- The weight of a phrase. -/
def Category.weight : Category → Int
  | .atom => 11
  | .postfixed => 10
  | .power => 9
  | .unary => 8
  | .product => 7
  | .sum => 6
  | .comparison => 5
  | .conjunction => 4
  | .disjunction => 3
  | .expression => 2
  | .dimStatement | .assignStatement | .returnStatement | .exitStatement
  | .callStatement
  | .ifStatement | .forStatement | .forEachStatement | .whileStatement
  | .functionDefinition => 2
  | .arguments | .target | .simpleStatement | .statement | .elseIf | .parameter => 1
  | .moreArguments | .statements | .elseIfs | .elseClause | .moreParameters
  | .parameters => 0
  | .block | .program => -1

/-- The weight of a symbol. -/
def symbolWeight : GrammarSymbol Terminal Category → Int
  | .token _ => 12
  | .phrase category => category.weight

theorem weighs_grammar : language.Weighs grammar symbolWeight 12 where
  token _ := Int.le_refl 12
  rule := by decide +kernel

/-- A script that is accepted in any number of steps is accepted. -/
theorem parse_of_run
    {fuel : Nat}
    {text : List Char}
    {phrase : Phrase}
    (ran : language.run fuel (Language.initial text) = .accepted (.ok phrase)) :
    language.parse text = .accepted (.ok phrase) :=
  Language.parse_of_run traced_language weighs_grammar (by decide)
    Terminal.length?_pos (by decide) ran

end GridScript.Script
