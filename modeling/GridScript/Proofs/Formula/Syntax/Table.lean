import GridScript.Formula.Parser
import GridScript.Proofs.Parsing.Validation

namespace GridScript.Formula

/-!
# The table of formulas is complete and sound

Every phrase that the rules of the formula grammar derive is read by the table,
and what the table accepts is derived by the rules. The rules are listed here,
and every row is checked for every rule. Every state is listed with the longest
item that it begins with.
-/

open GridScript.Parsing

/-- A part of a rule as a symbol. -/
def Part.symbol : Part → GrammarSymbol Terminal Category
  | terminal k => .token k
  | phrase category => .phrase category

namespace Rule

/-- The phrases of one category that are phrases of another one. -/
def chains : List (Category × Category) :=
  [(.expression, .comparison), (.comparison, .concatenation),
    (.concatenation, .sum), (.sum, .product), (.product, .unary), (.unary, .power),
    (.power, .postfixed), (.postfixed, .atom)]

/-- The spellings of the binary operators. -/
def spellings : List Spelling :=
  [.greater, .less, .greaterEqual, .lessEqual, .equal, .angles, .ampersand, .plus,
    .minus, .star, .slash, .caret]

/-- Every rule. -/
def all : List Rule :=
  chains.map (fun (upper, lower) => .chain upper lower) ++ spellings.map .binary ++
    [.formula, .minus, .plus, .percent, .number, .truth, .string, .call,
      .quotedSheetRange, .sheetRange, .quotedSheetCell, .sheetCell, .range, .cell,
      .dollarName, .name, .parenthesised, .arguments false, .arguments true,
      .noArguments, .secondArgument, .nextArgument]

end Rule

/-- The grammar of formulas. -/
def grammar : Grammar Terminal Rule Category where
  rules := Rule.all
  symbols rule := rule.parts.map Part.symbol

namespace Table

/-- Every row is valid. -/
theorem validates_rows :
    ((List.range 64).all fun state =>
      language.validates grammar language.row state) = true := by
  decide +kernel

/-- Beyond the last row the rows are empty. -/
theorem row_of_le
    {state : Nat}
    (beyond : 64 ≤ state) :
    language.row state = ⟨[], [], []⟩ := by
  have size : rows.size = 64 := by decide +kernel
  show rows.getD state ⟨[], [], []⟩ = _
  rw [Array.getD_eq_getD_getElem?, Array.getElem?_eq_none (by omega)]
  rfl

/-- Beyond the last row no phrase is followed by a state. -/
theorem validates_all (state : Nat) :
    language.validates grammar language.row state = true := by
  by_cases inside : state < 64
  · exact List.all_eq_true.mp validates_rows state (List.mem_range.mpr inside)
  · simp [Language.validates, row_of_le (Nat.le_of_not_lt inside)]

/-- The items of the states: a rule and the number of its symbols
that have been read. -/
def items : List (Rule × Nat) :=
  [(.formula, 0), (.formula, 0), (.formula, 1), (.chain .expression .comparison, 1),
    (.chain .comparison .concatenation, 1), (.chain .concatenation .sum, 1),
    (.chain .sum .product, 1), (.chain .product .unary, 1),
    (.chain .unary .power, 1), (.minus, 1), (.plus, 1),
    (.chain .power .postfixed, 1), (.chain .postfixed .atom, 1), (.number, 1),
    (.truth, 1), (.string, 1), (.call, 1), (.quotedSheetRange, 1), (.sheetRange, 1),
    (.quotedSheetCell, 1), (.sheetCell, 1), (.range, 1), (.cell, 1),
    (.dollarName, 1), (.parenthesised, 1), (.binary .greater, 2),
    (.binary .less, 2), (.binary .greaterEqual, 2), (.binary .lessEqual, 2),
    (.binary .equal, 2), (.binary .angles, 2), (.binary .ampersand, 2),
    (.binary .plus, 2), (.binary .minus, 2), (.binary .star, 2),
    (.binary .slash, 2), (.minus, 2), (.plus, 2), (.binary .caret, 2),
    (.percent, 2), (.call, 2), (.dollarName, 2), (.parenthesised, 2),
    (.binary .greater, 3), (.binary .less, 3), (.binary .greaterEqual, 3),
    (.binary .lessEqual, 3), (.binary .equal, 3), (.binary .angles, 3),
    (.binary .ampersand, 3), (.binary .plus, 3), (.binary .minus, 3),
    (.binary .star, 3), (.binary .slash, 3), (.binary .caret, 3), (.call, 3),
    (.arguments false, 1), (.parenthesised, 3), (.call, 4), (.arguments true, 2),
    (.secondArgument, 1), (.nextArgument, 2), (.secondArgument, 2),
    (.nextArgument, 3)]

/-- The last symbols before each state. -/
def past (state : Nat) : List (GrammarSymbol Terminal Category) :=
  grammar.before (items.getD state (.formula, 0))

/-- Every row keeps to the items. -/
theorem traces_rows :
    ((List.range 64).all fun state =>
      language.traces grammar .formula language.row past state) = true := by
  decide +kernel

/-- Beyond the last row there is nothing to keep to. -/
theorem traces_all (state : Nat) :
    language.traces grammar .formula language.row past state = true := by
  by_cases inside : state < 64
  · exact List.all_eq_true.mp traces_rows state (List.mem_range.mpr inside)
  · simp [Language.traces, Language.tracesShifts, Language.tracesGotos,
      Language.tracesReductions, row_of_le (Nat.le_of_not_lt inside)]

end Table

/-- The table reads every phrase of the grammar. -/
theorem complete_language : language.Complete grammar :=
  Language.complete_of_validates (fun _ => rfl)
    (fun rule _ => by simp [language, grammar, Rule.arity]) Table.validates_all

/-- The table leads only over the symbols that the grammar has. -/
theorem traced_language : language.Traced grammar .formula Table.past :=
  Language.traced_of_traces (fun _ => rfl)
    (fun rule _ => by simp [language, grammar, Rule.arity])
    (by decide) rfl Table.traces_all

end GridScript.Formula
