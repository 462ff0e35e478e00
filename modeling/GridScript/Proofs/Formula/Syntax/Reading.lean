import GridScript.Proofs.Formula.Syntax.References
import GridScript.Proofs.Parsing.Derivation
import GridScript.Proofs.Parsing.Spelling
import Mathlib.Data.List.Induction

namespace GridScript.Formula

/-!
# Reading written operands

A text is read as a phrase of a category if, wherever it stands, it is a segment
whose tokens derive the phrase. Operators, parentheses and arguments make such
texts of such texts.
-/

open GridScript.Parsing
open GridScript.Parsing.Lexicon
open GridScript.Parsing.Language
open GridScript.Text

/-! ## Operands -/

/-- A text that can stand after an operator: no longer operator begins where it
does, and no blank stands at its ends. -/
structure IsOperand (text : List Char) : Prop where
  nonempty : text ≠ []
  head : ∀ c ∈ text.head?, isBlank c = false ∧ c ≠ '=' ∧ c ≠ '>'
  last : ∀ c ∈ text.getLast?, isBlank c = false

namespace IsOperand

variable {text later : List Char}

/-- A text of characters that can stand at either end. -/
theorem of_forall
    (nonempty : text ≠ [])
    (each : ∀ c ∈ text, isBlank c = false ∧ c ≠ '=' ∧ c ≠ '>') :
    IsOperand text :=
  ⟨nonempty, fun c isFirst => each c (List.mem_of_mem_head? isFirst),
    fun c isLast => (each c (List.mem_of_getLast? isLast)).1⟩

/-- What follows an operand decides about its end alone. -/
theorem append
    (operand : IsOperand text)
    (nonempty : later ≠ [])
    (last : ∀ c ∈ later.getLast?, isBlank c = false) :
    IsOperand (text ++ later) where
  nonempty := List.append_ne_nil_of_left_ne_nil operand.nonempty later
  head := by
    rw [List.head?_append_of_ne_nil _ operand.nonempty]
    exact operand.head
  last := by
    rw [List.getLast?_append_of_ne_nil _ nonempty]
    exact last

/-- Anything between two visible characters. -/
theorem enclosed
    {first last : Char}
    (begins : isBlank first = false ∧ first ≠ '=' ∧ first ≠ '>')
    (ends : isBlank last = false)
    (inside : List Char) :
    IsOperand (first :: inside ++ [last]) where
  nonempty := List.cons_ne_nil _ _
  head := by
    intro c isFirst
    obtain rfl := Option.some.inj isFirst
    exact begins
  last := by
    intro c isLast
    rw [List.getLast?_concat] at isLast
    obtain rfl := Option.some.inj isLast
    exact ends

/-- An operand does not begin with a separator. -/
theorem stops
    (operand : IsOperand text)
    (tail : List Char) :
    Stops isSeparator (text ++ tail) := by
  intro c isFirst
  rw [List.head?_append_of_ne_nil _ operand.nonempty] at isFirst
  have visible := (operand.head c isFirst).1
  rw [Bool.eq_false_iff]
  intro separator
  have blank : ∀ c ∈ separators, isBlank c = true := forall_mem_of_all (by decide)
  rw [blank c (mem_separators separator)] at visible
  cases visible

/-- No longer operator goes on into an operand. -/
theorem apart
    (operand : IsOperand text)
    (tail : List Char) :
    ∀ c ∈ (text ++ tail).head?, c ≠ '=' ∧ c ≠ '>' := by
  rw [List.head?_append_of_ne_nil _ operand.nonempty]
  exact fun c isFirst => (operand.head c isFirst).2

/-- A comma and blanks before an operand. -/
theorem afterComma
    (style : Style)
    (operand : IsOperand text) :
    IsOperand (',' :: style.gap ++ text) := by
  have comma : IsOperand [','] :=
    of_forall (List.cons_ne_nil _ _) (forall_mem_of_all (by decide))
  have last : ∀ c ∈ (style.gap ++ text).getLast?, isBlank c = false := by
    rw [List.getLast?_append_of_ne_nil _ operand.nonempty]
    exact operand.last
  exact comma.append (List.append_ne_nil_of_right_ne_nil _ operand.nonempty) last

end IsOperand

/-! ## Segments -/

/-- The token of a mark. -/
def Mark.token (mark : Mark) (place : Place) : Token Terminal :=
  ⟨.mark mark, mark.text.toList, place⟩

/-- A mark is a segment, unless it is part of a longer mark. -/
theorem Mark.segment
    {m : Mark}
    (place : Place)
    {tail : List Char}
    (notDollar : m ≠ .dollar)
    (apart : m = .less ∨ m = .greater → ∀ c ∈ tail.head?, c ≠ '=' ∧ c ≠ '>') :
    lexicon.Segment place m.text.toList [m.token place]
      (place.advance m.text.toList) tail :=
  .token place tail (first?_mark notDollar apart) (by cases m <;> decide) rfl

/-- A mark that no longer mark begins with is a segment whatever follows it. -/
theorem Mark.segment_bracket
    {m : Mark}
    (place : Place)
    (tail : List Char)
    (bracket : m ∈ [Mark.openParen, .closeParen, .comma, .minus, .plus, .percent]) :
    lexicon.Segment place m.text.toList [m.token place]
      (place.advance m.text.toList) tail := by
  have plain : ∀ m ∈ [Mark.openParen, .closeParen, .comma, .minus, .plus, .percent],
      m ≠ .dollar ∧ m ≠ .less ∧ m ≠ .greater := by
    decide
  obtain ⟨notDollar, notLess, notGreater⟩ := plain m bracket
  exact Mark.segment place notDollar fun either =>
    absurd either (by simp [notLess, notGreater])

variable (style : Style)

/-- What holds of separators and of what follows a gap holds of the first
character from the gap on. -/
theorem head_gap
    {P : Char → Prop}
    [DecidablePred P]
    {later : List Char}
    (blank : (separators.all fun c => decide (P c)) = true)
    (head : ∀ c ∈ later.head?, P c) :
    ∀ c ∈ (style.gap ++ later).head?, P c := by
  by_cases empty : style.gap = []
  · rw [empty]
    exact head
  · intro c isFirst
    rw [List.head?_append_of_ne_nil _ empty] at isFirst
    exact forall_mem_of_all blank c
      (mem_separators (style.isGap c (List.mem_of_mem_head? isFirst)))

/-- Blanks before a segment are passed over. -/
theorem segment_gap
    {place after : Place}
    {text tail : List Char}
    {tokens : List (Token Terminal)}
    (segment : lexicon.Segment (place.advance style.gap) text tokens after tail)
    (stops : Stops isSeparator (text ++ tail))
    (nonempty : tokens ≠ []) :
    lexicon.Segment place (style.gap ++ text) tokens after tail := by
  by_cases empty : style.gap = []
  · rw [empty] at segment ⊢
    exact segment
  · exact .ignore segment (first?_gap empty style.isGap stops) empty rfl nonempty

/-! ## Phrases -/

/--
A text is read as a phrase of a category, up to whatever delimits it.

The slack is what the rules applied may number less than twelve for each token.
-/
structure ReadsAs
    (category : Category)
    (slack : Nat)
    (text : List Char)
    (phrase : Phrase) : Prop where
  operand : IsOperand text
  derives :
    ∀ (place : Place) (tail : List Char), Delimits tail →
      ∃ (tokens : List (Token Terminal)) (after : Place) (count : Nat),
        lexicon.Segment place text tokens after tail ∧
        Derives language grammar [.phrase category] tokens [phrase] count ∧
        count + slack ≤ 12 * tokens.length

/-- The category of the phrases that bind at least so tightly. -/
def categoryOf : Nat → Category
  | 0 => .expression
  | 1 => .comparison
  | 2 => .concatenation
  | 3 => .sum
  | 4 => .product
  | 5 => .unary
  | 6 => .power
  | 7 => .postfixed
  | _ => .atom

/-- An operator of formulas has a spelling whose rule makes what binds as
tightly as the operator, of what its operands may be. -/
theorem exists_spelling
    {operator : Operator}
    (inFormulas : operator ≠ .mod) :
    ∃ spelling : Spelling,
      spelling.operator = operator ∧
      spelling.mark.text = operator.sign ∧
      spelling.level = categoryOf (operatorLevel operator) ∧
      spelling.leftLevel = categoryOf (leftLevel operator) ∧
      spelling.rightLevel = categoryOf (rightLevel operator) ∧
      Rule.binary spelling ∈ Rule.all := by
  cases operator with
  | mod =>
      exact absurd rfl inFormulas
  | add =>
      exact ⟨.plus, by decide⟩
  | sub =>
      exact ⟨.minus, by decide⟩
  | mul =>
      exact ⟨.star, by decide⟩
  | div =>
      exact ⟨.slash, by decide⟩
  | pow =>
      exact ⟨.caret, by decide⟩
  | concat =>
      exact ⟨.ampersand, by decide⟩
  | equal =>
      exact ⟨.equal, by decide⟩
  | notEqual =>
      exact ⟨.angles, by decide⟩
  | less =>
      exact ⟨.less, by decide⟩
  | lessEqual =>
      exact ⟨.lessEqual, by decide⟩
  | greater =>
      exact ⟨.greater, by decide⟩
  | greaterEqual =>
      exact ⟨.greaterEqual, by decide⟩

theorem level_bounds (operator : Operator) :
    operatorLevel operator ≤ 6 ∧ leftLevel operator ≤ 8 ∧
      rightLevel operator ≤ 8 := by
  cases operator <;> decide

/-- A mark of an operator is no dollar sign, begins with no separator
and ends an operand. -/
theorem Spelling.mark_spec (spelling : Spelling) :
    spelling.mark ≠ .dollar ∧
    ∃ c rest, spelling.mark.text.toList = c :: rest ∧ c ∈ delimiters ∧
      isSeparator c = false := by
  cases spelling <;> exact ⟨by decide, _, _, rfl, by decide⟩

/-- The slack of expressions that bind at least so tightly. -/
def slackOf (level : Nat) : Nat :=
  level + 2

namespace ReadsAs

/-- A phrase that binds more tightly is one that binds less tightly. -/
theorem step
    {level : Nat}
    {text : List Char}
    {phrase : Phrase}
    (weak : level < 8)
    (reads : ReadsAs (categoryOf (level + 1)) (slackOf (level + 1)) text phrase) :
    ReadsAs (categoryOf level) (slackOf level) text phrase := by
  refine ⟨reads.operand, fun place tail delimits => ?_⟩
  obtain ⟨tokens, after, count, segment, derives, bound⟩ :=
    reads.derives place tail delimits
  have member :
      Rule.chain (categoryOf level) (categoryOf (level + 1)) ∈ Rule.all := by
    have each :
        ∀ l < 8, Rule.chain (categoryOf l) (categoryOf (l + 1)) ∈ Rule.all := by
      decide
    exact each level weak
  refine ⟨tokens, after, count + 1, segment, ?_, ?_⟩
  · exact .of_rule (Rule.chain (categoryOf level) (categoryOf (level + 1))) member
      derives rfl
  · simp only [slackOf] at bound ⊢
    omega

/-- A phrase may stand where less tightly binding ones may stand. -/
theorem weaken
    {strong weak : Nat}
    {text : List Char}
    {phrase : Phrase}
    (le : weak ≤ strong)
    (bounded : strong ≤ 8)
    (reads : ReadsAs (categoryOf strong) (slackOf strong) text phrase) :
    ReadsAs (categoryOf weak) (slackOf weak) text phrase := by
  obtain ⟨more, rfl⟩ := Nat.exists_eq_add_of_le le
  induction more with
  | zero =>
      exact reads
  | succ more inductionHypothesis =>
      exact inductionHypothesis (by omega) (by omega) (step (by omega) reads)

/-- A lexeme that is an atom of its own. -/
theorem ofLexeme
    {kind : Terminal}
    {lexeme : List Char}
    {phrase : Phrase}
    (rule : Rule)
    (member : rule ∈ Rule.all)
    (isAtom : rule.category = .atom)
    (parts : rule.parts = [.terminal kind])
    (first : ∀ tail, Delimits tail →
      lexicon.first? (fun _ => true) (lexeme ++ tail) = some (kind, lexeme.length))
    (kept : lexicon.ignored.contains kind = false)
    (operand : IsOperand lexeme)
    (built :
      ∀ place : Place,
        buildPhrase rule [.token ⟨kind, lexeme, place⟩] = .ok phrase) :
    ReadsAs .atom (slackOf 8) lexeme phrase := by
  refine ⟨operand, fun place tail delimits => ?_⟩
  refine ⟨[⟨kind, lexeme, place⟩], place.advance lexeme, 1,
    .token place tail (first tail delimits) operand.nonempty kept, ?_,
    Nat.le_succ 11⟩
  have isToken : grammar.symbols rule = [.token kind] := by
    show rule.parts.map Part.symbol = _
    rw [parts]
    rfl
  rw [← isAtom]
  exact .of_token rule member ⟨kind, lexeme, place⟩ isToken (built place)

/-- A phrase in parentheses is an atom. -/
theorem parenthesised
    {text : List Char}
    {phrase : Phrase}
    (reads : ReadsAs .expression (slackOf 0) text phrase) :
    ReadsAs .atom (slackOf 8) ('(' :: text ++ [')']) phrase := by
  refine ⟨.enclosed (by decide) rfl text, fun place tail delimits => ?_⟩
  obtain ⟨tokens, after, count, segment, derives, bound⟩ :=
    reads.derives (place.advance Mark.openParen.text.toList) (')' :: tail)
      (.cons (by decide) tail)
  have opened :=
    Mark.segment_bracket place (text ++ [')'] ++ tail) (m := .openParen) (by decide)
  have closed := Mark.segment_bracket after tail (m := .closeParen) (by decide)
  refine ⟨_, _, count + 1, opened.append (segment.append closed), ?_, ?_⟩
  · exact .of_rule Rule.parenthesised (by decide)
      (.token (Mark.openParen.token place)
        (derives.append (.token (Mark.closeParen.token after) .nil))) rfl
  · simp only [slackOf, List.length_append, List.length_cons, List.length_nil]
      at bound ⊢
    omega

/-- An expression may be written as an operand, in parentheses if need be. -/
theorem enclose
    {e : Expression}
    {text : List Char}
    {phrase : Phrase}
    (least : Nat)
    (reads : ReadsAs (categoryOf e.level) (slackOf e.level) text phrase)
    (bounded : e.level ≤ 8)
    (leastBounded : least ≤ 8) :
    ReadsAs (categoryOf least) (slackOf least) (e.enclose least text) phrase := by
  unfold Expression.enclose
  split
  · exact weaken leastBounded (Nat.le_refl 8)
      (parenthesised (weaken (Nat.zero_le _) bounded reads))
  · exact weaken (by omega) bounded reads

/-- A sign before an operand. -/
theorem signed
    {m : Mark}
    {sign : Sign}
    {text : List Char}
    {operand : Expression}
    (rule : Rule)
    (member : rule ∈ Rule.all)
    (isUnary : rule.category = .unary)
    (parts : rule.parts = [.terminal (.mark m), .phrase .unary])
    (isSign : m ∈ [Mark.minus, .plus])
    (built : ∀ token, buildPhrase rule [.token token, .expression operand] =
      .ok (.expression (.signed sign operand)))
    (reads : ReadsAs .unary (slackOf 5) text (.expression operand)) :
    ReadsAs .unary (slackOf 5) (m.text.toList ++ text)
      (.expression (.signed sign operand)) := by
  have bracket :
      m ∈ [Mark.openParen, .closeParen, .comma, .minus, .plus, .percent] := by
    have each : ∀ m ∈ [Mark.minus, .plus],
        m ∈ [Mark.openParen, .closeParen, .comma, .minus, .plus, .percent] := by
      decide
    exact each m isSign
  have signOperand : IsOperand m.text.toList := by
    have each : ∀ m ∈ [Mark.minus, .plus], m.text.toList ≠ [] ∧
        (m.text.toList.all fun c =>
          decide (isBlank c = false ∧ c ≠ '=' ∧ c ≠ '>')) = true := by
      decide
    exact .of_forall (each m isSign).1 (forall_mem_of_all (each m isSign).2)
  refine ⟨signOperand.append reads.operand.nonempty reads.operand.last,
    fun place tail delimits => ?_⟩
  obtain ⟨tokens, after, count, segment, derives, bound⟩ :=
    reads.derives (place.advance m.text.toList) tail delimits
  have signed := Mark.segment_bracket place (text ++ tail) bracket
  have inner :
      Derives language grammar (grammar.symbols rule) (m.token place :: tokens)
      [.token (m.token place), .expression operand] count := by
    show Derives language grammar (rule.parts.map Part.symbol) _ _ _
    rw [parts]
    exact .token (m.token place) derives
  have whole := Derives.of_rule rule member inner (built _)
  refine ⟨_, after, count + 1, signed.append segment, ?_, ?_⟩
  · rw [← isUnary]
    exact whole
  · simp only [slackOf, List.length_append, List.length_cons, List.length_nil]
      at bound ⊢
    omega

/-- A percent sign after an operand. -/
theorem percent
    {text : List Char}
    {operand : Expression}
    (reads : ReadsAs .postfixed (slackOf 7) text (.expression operand)) :
    ReadsAs .postfixed (slackOf 7) (text ++ ['%'])
      (.expression (.signed .percent operand)) := by
  have sign : IsOperand ['%'] :=
    .of_forall (List.cons_ne_nil _ _) (forall_mem_of_all (by decide))
  refine ⟨reads.operand.append sign.nonempty sign.last,
    fun place tail delimits => ?_⟩
  obtain ⟨tokens, after, count, segment, derives, bound⟩ :=
    reads.derives place ('%' :: tail) (.cons (by decide) tail)
  have sign := Mark.segment_bracket after tail (m := .percent) (by decide)
  refine ⟨_, _, count + 1, segment.append sign, ?_, ?_⟩
  · exact .of_rule Rule.percent (by decide)
      (derives.append (.token (Mark.percent.token after) .nil)) rfl
  · simp only [slackOf, List.length_append, List.length_cons, List.length_nil]
      at bound ⊢
    omega

/-- The operands of a binary operator. -/
theorem binary
    {operator : Operator}
    {left right : Expression}
    {leftText rightText : List Char}
    (inFormulas : operator ≠ .mod)
    (leftReads :
      ReadsAs (categoryOf (leftLevel operator)) (slackOf (leftLevel operator))
      leftText (.expression left))
    (rightReads :
      ReadsAs (categoryOf (rightLevel operator)) (slackOf (rightLevel operator))
      rightText (.expression right)) :
    ReadsAs (categoryOf (operatorLevel operator)) (slackOf (operatorLevel operator))
      (leftText ++ (style.gap ++ operator.sign.toList ++ (style.gap ++ rightText)))
      (.expression (.binary operator left right)) := by
  obtain ⟨spelling, rfl, isSign, level, leftLevel, rightLevel, member⟩ :=
    exists_spelling inFormulas
  obtain ⟨notDollar, c, rest, chars, delimiter, notSeparator⟩ := spelling.mark_spec
  rw [← isSign]
  have operand : IsOperand (leftText ++
      (style.gap ++ spelling.mark.text.toList ++ (style.gap ++ rightText))) := by
    have nonempty : style.gap ++ rightText ≠ [] :=
      List.append_ne_nil_of_right_ne_nil _ rightReads.operand.nonempty
    refine leftReads.operand.append
      (List.append_ne_nil_of_right_ne_nil _ nonempty) ?_
    rw [List.getLast?_append_of_ne_nil _ nonempty,
      List.getLast?_append_of_ne_nil _ rightReads.operand.nonempty]
    exact rightReads.operand.last
  refine ⟨operand, fun place tail delimits => ?_⟩
  have afterLeft : Delimits
      (style.gap ++ spelling.mark.text.toList ++ (style.gap ++ rightText) ++
        tail) := by
    rw [List.append_assoc, List.append_assoc, chars]
    exact head_gap style (P := (· ∈ delimiters)) (by decide)
      (Delimits.cons delimiter _)
  obtain ⟨leftTokens, between, leftCount, leftSegment, leftDerives, leftBound⟩ :=
    leftReads.derives place _ afterLeft
  obtain ⟨rightTokens, after, rightCount, rightSegment, rightDerives, rightBound⟩ :=
    rightReads.derives
      (((between.advance style.gap).advance spelling.mark.text.toList).advance
        style.gap) tail
      delimits
  have apart : ∀ c ∈ (style.gap ++ rightText ++ tail).head?, c ≠ '=' ∧ c ≠ '>' := by
    rw [List.append_assoc]
    exact head_gap style (by decide) (rightReads.operand.apart tail)
  have sign : lexicon.Segment between (style.gap ++ spelling.mark.text.toList)
      [spelling.mark.token (between.advance style.gap)]
      ((between.advance style.gap).advance spelling.mark.text.toList)
      (style.gap ++ rightText ++ tail) :=
    segment_gap style (Mark.segment _ notDollar fun _ => apart)
      (by rw [chars]; exact .cons notSeparator _) (List.cons_ne_nil _ _)
  have gapRight := segment_gap style rightSegment (rightReads.operand.stops tail)
    (List.ne_nil_of_length_pos (Nat.pos_of_lt_mul_left rightBound))
  refine ⟨_, after, leftCount + rightCount + 1,
    leftSegment.append (sign.append gapRight), ?_, ?_⟩
  · rw [← leftLevel] at leftDerives
    rw [← rightLevel] at rightDerives
    rw [← level]
    exact .of_rule (Rule.binary spelling) member (leftDerives.append
      (.token (spelling.mark.token (between.advance style.gap)) rightDerives)) rfl
  · have small := (level_bounds spelling.operator).1
    simp only [slackOf, List.length_append, List.length_cons, List.length_nil]
      at leftBound rightBound ⊢
    omega

/-- What follows a comma and blanks. -/
theorem afterComma
    {text : List Char}
    {phrase : Phrase}
    (reads : ReadsAs .expression (slackOf 0) text phrase)
    (place : Place)
    {tail : List Char}
    (delimits : Delimits tail) :
    ∃ (tokens : List (Token Terminal)) (after : Place) (count : Nat),
      lexicon.Segment place (',' :: style.gap ++ text)
        (Mark.comma.token place :: tokens) after tail ∧
      Derives language grammar [.token (.mark .comma), .phrase .expression]
        (Mark.comma.token place :: tokens)
        [.token (Mark.comma.token place), phrase] count ∧
      count + 2 ≤ 12 * tokens.length := by
  obtain ⟨tokens, after, count, segment, derives, bound⟩ :=
    reads.derives ((place.advance Mark.comma.text.toList).advance style.gap) tail
      delimits
  have comma :=
    Mark.segment_bracket place (style.gap ++ text ++ tail) (m := .comma) (by decide)
  have nonempty := List.ne_nil_of_length_pos (Nat.pos_of_lt_mul_left bound)
  have later := segment_gap style segment (reads.operand.stops tail) nonempty
  exact ⟨tokens, after, count, comma.append later,
    .token (Mark.comma.token place) derives, bound⟩

end ReadsAs

/-! ## Arguments -/

/-- The characters of further arguments, each after a comma. -/
def Style.textOfMore (items : List Expression) : List Char :=
  items.flatMap fun e => ',' :: style.gap ++ style.text e

theorem textOfAll_cons
    (e : Expression)
    (rest : List Expression) :
    style.textOfAll (e :: rest) = style.text e ++ style.textOfMore rest := by
  induction rest generalizing e with
  | nil =>
      simp [Style.textOfAll, Style.textOfMore]
  | cons next rest inductionHypothesis =>
      rw [Style.textOfAll, inductionHypothesis]
      simp [Style.textOfMore]

/-- An expression is read wherever one may stand. -/
def ReadsBack (e : Expression) : Prop :=
  ReadsAs .expression (slackOf 0) (style.text e) (.expression e)

namespace ReadsAs

variable {style}

/-- Further arguments; all but the last one make a phrase that comes first. -/
theorem moreArguments
    {items : List Expression}
    (nonempty : items ≠ [])
    (reads : ∀ e ∈ items, ReadsBack style e) :
    ReadsAs .moreArguments 0 (style.textOfMore items) (.arguments items) := by
  induction items using List.reverseRecOn with
  | nil =>
      exact absurd rfl nonempty
  | append_singleton front e inductionHypothesis =>
      have split : style.textOfMore (front ++ [e]) =
          style.textOfMore front ++ (',' :: style.gap ++ style.text e) := by
        simp [Style.textOfMore]
      have lastReads : ReadsBack style e := reads e (by simp)
      have last : IsOperand (',' :: style.gap ++ style.text e) :=
        lastReads.operand.afterComma style
      rw [split]
      by_cases single : front = []
      · subst single
        refine ⟨last, fun place tail delimits => ?_⟩
        obtain ⟨tokens, after, count, segment, derives, bound⟩ :=
          lastReads.afterComma style place delimits
        refine ⟨_, after, count + 1, segment,
          .of_rule Rule.secondArgument (by decide) derives rfl, ?_⟩
        rw [List.length_cons]
        omega
      · have frontReads :=
          inductionHypothesis single fun e member => reads e (by simp [member])
        refine ⟨frontReads.operand.append last.nonempty last.last,
          fun place tail delimits => ?_⟩
        obtain ⟨frontTokens, between, frontCount, frontSegment, frontDerives,
          frontBound⟩ :=
          frontReads.derives place (',' :: style.gap ++ style.text e ++ tail)
            (.cons (by decide) _)
        obtain ⟨tokens, after, count, segment, derives, bound⟩ :=
          lastReads.afterComma style between delimits
        refine ⟨_, after, frontCount + count + 1, frontSegment.append segment,
          .of_rule Rule.nextArgument (by decide) (frontDerives.append derives) rfl,
          ?_⟩
        rw [List.length_append, List.length_cons]
        omega

/-- Arguments between parentheses, which may be missing. -/
theorem arguments
    {items : List Expression}
    (reads : ∀ e ∈ items, ReadsBack style e)
    (place : Place)
    {tail : List Char}
    (delimits : Delimits tail) :
    ∃ (tokens : List (Token Terminal)) (after : Place) (count : Nat),
      lexicon.Segment place (style.textOfAll items) tokens after tail ∧
      Derives language grammar [.phrase .arguments] tokens
        [.arguments items] count ∧
      count ≤ 12 * tokens.length + 1 := by
  cases items with
  | nil =>
      exact ⟨[], place, 1, fun _ spells => spells,
        .of_rule Rule.noArguments (by decide) .nil rfl, Nat.le_refl 1⟩
  | cons e rest =>
      have firstReads : ReadsBack style e := reads e List.mem_cons_self
      rw [textOfAll_cons]
      by_cases single : rest = []
      · subst single
        obtain ⟨tokens, after, count, segment, derives, bound⟩ :=
          firstReads.derives place tail delimits
        refine ⟨tokens, after, count + 1, ?_,
          .of_rule (Rule.arguments false) (by decide) derives rfl, by omega⟩
        rw [Style.textOfMore, List.flatMap_nil, List.append_nil]
        exact segment
      · have restReads := moreArguments single fun e member =>
          reads e (List.mem_cons_of_mem _ member)
        have comma : Delimits (style.textOfMore rest ++ tail) := by
          obtain ⟨next, further, rfl⟩ := List.exists_cons_of_ne_nil single
          exact .cons (by decide) _
        obtain ⟨tokens, between, count, segment, derives, bound⟩ :=
          firstReads.derives place (style.textOfMore rest ++ tail) comma
        obtain ⟨restTokens, after, restCount, restSegment, restDerives,
          restBound⟩ :=
          restReads.derives between tail delimits
        refine ⟨_, after, count + restCount + 1, segment.append restSegment,
          .of_rule (Rule.arguments true) (by decide) (derives.append restDerives)
            rfl, ?_⟩
        rw [List.length_append]
        omega

/-- A call of a function. -/
theorem call
    {f : String}
    {items : List Expression}
    (isFunction : IsFunction f)
    (operand : IsOperand f.toList)
    (isUpper : upper f = f)
    (reads : ∀ e ∈ items, ReadsBack style e) :
    ReadsAs .atom (slackOf 8) (f.toList ++ '(' :: style.textOfAll items ++ [')'])
      (.expression (.call f items)) := by
  have whole : IsOperand (f.toList ++ '(' :: style.textOfAll items ++ [')']) := by
    rw [List.append_assoc]
    have parentheses : IsOperand ('(' :: style.textOfAll items ++ [')']) :=
      .enclosed (by decide) rfl _
    exact operand.append parentheses.nonempty parentheses.last
  refine ⟨whole, fun place tail delimits => ?_⟩
  rw [List.append_assoc]
  have named := Segment.token place ('(' :: style.textOfAll items ++ [')'] ++ tail)
    (first?_function isFunction (.cons (by decide) _)) operand.nonempty rfl
  have opened := Mark.segment_bracket (place.advance f.toList)
    (style.textOfAll items ++ [')'] ++ tail) (m := .openParen) (by decide)
  obtain ⟨tokens, after, count, segment, derives, bound⟩ :=
    arguments reads ((place.advance f.toList).advance Mark.openParen.text.toList)
      (Delimits.cons (c := ')') (by decide) tail)
  have closed := Mark.segment_bracket after tail (m := .closeParen) (by decide)
  have built : buildPhrase .call [.token ⟨.name, f.toList, place⟩,
      .token (Mark.openParen.token (place.advance f.toList)), .arguments items,
      .token (Mark.closeParen.token after)] =
        .ok (.expression (.call f items)) := by
    show Except.ok
      (Phrase.expression (.call (upper (String.ofList f.toList)) items)) = _
    rw [String.ofList_toList, isUpper]
  refine ⟨_, _, count + 1, named.append (opened.append (segment.append closed)),
    .of_rule Rule.call (by decide) ?_ built, ?_⟩
  · exact .token ⟨.name, f.toList, place⟩
      (.token (Mark.openParen.token (place.advance f.toList))
        (derives.append (.token (Mark.closeParen.token after) .nil)))
  · simp only [slackOf, List.length_append, List.length_cons, List.length_nil]
    omega

end ReadsAs

end GridScript.Formula
