import GridScript.Parsing.Automaton
import GridScript.Proofs.Parsing.Spelling

namespace GridScript.Parsing

/-!
# Derivations

A grammar gives the symbols of the rules of a language, and a derivation says
which tokens stand for a phrase by these rules. It does not speak of the
table of a parser.
-/

/-- A symbol of a rule. -/
inductive GrammarSymbol (Kind Category : Type) where
  | token (kind : Kind)
  | phrase (category : Category)
  deriving Repr, DecidableEq

/-- Rules with their symbols, in order. -/
structure Grammar (Kind Rule Category : Type) where
  rules : List Rule
  symbols : Rule → List (GrammarSymbol Kind Category)

namespace Language

variable {Kind Rule Category Phrase Fault : Type}
variable {language : Language Kind Rule Category Phrase Fault}
variable {grammar : Grammar Kind Rule Category}

/--
Tokens that spell phrases for some symbols.

The count is the number of rules that are applied.
-/
inductive Derives
    (language : Language Kind Rule Category Phrase Fault)
    (grammar : Grammar Kind Rule Category) :
    List (GrammarSymbol Kind Category) → List (Token Kind) → List Phrase → Nat →
      Prop where
  | nil : Derives language grammar [] [] [] 0
  | token
      {symbols : List (GrammarSymbol Kind Category)}
      {tokens : List (Token Kind)}
      {phrases : List Phrase}
      {count : Nat}
      (token : Token Kind)
      (rest : Derives language grammar symbols tokens phrases count) :
      Derives language grammar (.token token.kind :: symbols) (token :: tokens)
        (language.leaf token :: phrases) count
  | phrase
      {symbols : List (GrammarSymbol Kind Category)}
      {tokens later : List (Token Kind)}
      {parts phrases : List Phrase}
      {phrase : Phrase}
      {count laterCount : Nat}
      (rule : Rule)
      (member : rule ∈ grammar.rules)
      (inner : Derives language grammar (grammar.symbols rule) tokens parts count)
      (built : language.build rule parts = .ok phrase)
      (rest : Derives language grammar symbols later phrases laterCount) :
      Derives language grammar (.phrase (language.category rule) :: symbols)
        (tokens ++ later) (phrase :: phrases) (count + laterCount + 1)

/-- Derivations of some symbols and of further ones. -/
theorem Derives.append
    {symbols laterSymbols : List (GrammarSymbol Kind Category)}
    {tokens later : List (Token Kind)}
    {phrases laterPhrases : List Phrase}
    {count laterCount : Nat}
    (first : Derives language grammar symbols tokens phrases count)
    (second : Derives language grammar laterSymbols later laterPhrases laterCount) :
    Derives language grammar (symbols ++ laterSymbols) (tokens ++ later)
      (phrases ++ laterPhrases) (count + laterCount) := by
  induction first with
  | nil =>
      rw [Nat.zero_add]
      exact second
  | token token _ inductionHypothesis =>
      exact .token token inductionHypothesis
  | phrase rule member inner built _ _ inductionHypothesis =>
      have whole := Derives.phrase rule member inner built inductionHypothesis
      rw [← Nat.add_assoc, Nat.add_right_comm] at whole
      rw [List.append_assoc]
      exact whole

/-- The phrase of a rule. -/
theorem Derives.of_rule
    {tokens : List (Token Kind)}
    {parts : List Phrase}
    {phrase : Phrase}
    {count : Nat}
    (rule : Rule)
    (member : rule ∈ grammar.rules)
    (inner : Derives language grammar (grammar.symbols rule) tokens parts count)
    (built : language.build rule parts = .ok phrase) :
    Derives language grammar [.phrase (language.category rule)] tokens [phrase]
      (count + 1) := by
  have whole := Derives.phrase rule member inner built .nil
  rwa [List.append_nil] at whole

/-- The phrase of a rule of one token. -/
theorem Derives.of_token
    {phrase : Phrase}
    (rule : Rule)
    (member : rule ∈ grammar.rules)
    (token : Token Kind)
    (isToken : grammar.symbols rule = [.token token.kind])
    (built : language.build rule [language.leaf token] = .ok phrase) :
    Derives language grammar [.phrase (language.category rule)] [token]
      [phrase] 1 := by
  have inner :
      Derives language grammar (grammar.symbols rule) [token]
        [language.leaf token] 0 := by
    rw [isToken]
    exact .token token .nil
  exact .of_rule rule member inner built

/-- Each symbol has its phrase. -/
theorem Derives.length_eq
    {symbols : List (GrammarSymbol Kind Category)}
    {tokens : List (Token Kind)}
    {phrases : List Phrase}
    {count : Nat}
    (derives : Derives language grammar symbols tokens phrases count) :
    phrases.length = symbols.length := by
  induction derives with
  | nil =>
      rfl
  | token _ _ inductionHypothesis =>
      simp [inductionHypothesis]
  | phrase _ _ _ _ _ _ inductionHypothesis =>
      simp [inductionHypothesis]

/-! ## Induction over derivations -/

/-- Symbols with the tokens and the phrase of each. -/
inductive Aligned
    (P : GrammarSymbol Kind Category → List (Token Kind) → Phrase → Prop) :
    List (GrammarSymbol Kind Category) → List (Token Kind) → List Phrase →
      Prop where
  | nil : Aligned P [] [] []
  | cons
      {symbol : GrammarSymbol Kind Category}
      {symbols : List (GrammarSymbol Kind Category)}
      {segment tokens : List (Token Kind)}
      {phrase : Phrase}
      {phrases : List Phrase}
      (first : P symbol segment phrase)
      (later : Aligned P symbols tokens phrases) :
      Aligned P (symbol :: symbols) (segment ++ tokens) (phrase :: phrases)

section Aligned

variable {P : GrammarSymbol Kind Category → List (Token Kind) → Phrase → Prop}
variable {symbol : GrammarSymbol Kind Category}
variable {symbols : List (GrammarSymbol Kind Category)}
variable {tokens : List (Token Kind)}
variable {phrases : List Phrase}

/-- What holds of tokens and is handed on by every rule holds of all
phrases that are derived. -/
theorem Derives.aligned
    {count : Nat}
    (leaf : ∀ token, P (.token token.kind) [token] (language.leaf token))
    (build :
      ∀ rule ∈ grammar.rules, ∀ {tokens parts phrase},
        Aligned P (grammar.symbols rule) tokens parts →
          language.build rule parts = .ok phrase →
          P (.phrase (language.category rule)) tokens phrase)
    (derives : Derives language grammar symbols tokens phrases count) :
    Aligned P symbols tokens phrases := by
  induction derives with
  | nil =>
      exact .nil
  | token token _ inductionHypothesis =>
      exact .cons (leaf token) inductionHypothesis
  | phrase rule member _ built _ inner later =>
      exact .cons (build rule member inner built) later

theorem Aligned.single
    {phrase : Phrase}
    (aligned : Aligned P [symbol] tokens [phrase]) :
    P symbol tokens phrase := by
  cases aligned with
  | cons first later =>
      cases later
      rwa [List.append_nil]

/-- Each phrase belongs to a symbol and to some of the tokens. -/
theorem Aligned.exists_of_mem
    {phrase : Phrase}
    (aligned : Aligned P symbols tokens phrases)
    (member : phrase ∈ phrases) :
    ∃ symbol ∈ symbols, ∃ segment, segment <:+: tokens ∧
      P symbol segment phrase := by
  induction aligned with
  | nil =>
      cases member
  | @cons symbol symbols segment tokens _ _ first _ inductionHypothesis =>
      rcases List.mem_cons.mp member with rfl | isLater
      · exact ⟨symbol, List.mem_cons_self, segment,
          (List.prefix_append _ _).isInfix, first⟩
      · obtain ⟨found, isSymbol, part, inside, holds⟩ := inductionHypothesis isLater
        exact ⟨found, List.mem_cons_of_mem _ isSymbol, part,
          inside.trans (List.suffix_append _ _).isInfix, holds⟩

/-- The last symbol has the last tokens. -/
theorem Aligned.exists_of_getLast?
    (aligned : Aligned P symbols tokens phrases)
    (isLast : symbols.getLast? = some symbol) :
    ∃ segment phrase, segment <:+ tokens ∧ P symbol segment phrase := by
  induction aligned with
  | nil =>
      cases isLast
  | @cons first symbols segment tokens phrase _ holds later inductionHypothesis =>
      cases symbols with
      | nil =>
          cases later
          cases isLast
          exact ⟨segment, phrase, by simp, holds⟩
      | cons second symbols =>
          rw [List.getLast?_cons_cons] at isLast
          obtain ⟨part, found, isSuffix, inner⟩ := inductionHypothesis isLast
          exact ⟨part, found, isSuffix.trans (List.suffix_append _ _), inner⟩

end Aligned

end Language

end GridScript.Parsing
