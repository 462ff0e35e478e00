import GridScript.Proofs.Script.Syntax.Lexemes
import GridScript.Proofs.Script.Syntax.Table
import Mathlib.Data.List.Induction

namespace GridScript.Script

/-!
# Reading written operands

A text is read as a phrase of a category if, on every place of a line, it is a
segment whose tokens derive the phrase. Operators, brackets and arguments make
such texts of such texts.
-/

open GridScript.Parsing
open GridScript.Parsing.Lexicon
open GridScript.Parsing.Language
open GridScript.Text

/--
On a line, a text is read as a phrase of a category, up to whatever delimits it.

The slack is what the rules applied may number less than twelve for each token.
-/
structure ReadsAs
    (line : Nat)
    (category : Category)
    (slack : Nat)
    (text : List Char)
    (phrase : Phrase) : Prop where
  inLine : InLine text
  derives :
    ∀ (place : Place) (tail : List Char), place.line = line → Delimits tail →
      ∃ (tokens : List (Token Terminal)) (after : Place) (count : Nat),
        lexicon.Segment place text tokens after tail ∧
        after.line = line ∧
        Derives language grammar [.phrase category] tokens [phrase] count ∧
        count + slack ≤ 12 * tokens.length

/-- The category of the phrases that bind at least so tightly. -/
def categoryOf : Nat → Category
  | 0 => .expression
  | 1 => .disjunction
  | 2 => .conjunction
  | 3 => .comparison
  | 4 => .sum
  | 5 => .product
  | 6 => .unary
  | 7 => .power
  | 8 => .postfixed
  | _ => .atom

/-- The rule of an operator makes what binds as tightly as the operator, of what
its operands may be. -/
theorem BinaryOperator.spelling_spec (operator : BinaryOperator) :
    operator.spelling.operator = operator ∧
    operator.spelling.level = categoryOf operator.precedence ∧
    operator.spelling.leftLevel = categoryOf operator.leftPrecedence ∧
    operator.spelling.rightLevel = categoryOf operator.rightPrecedence ∧
    Rule.binary operator.spelling ∈ Rule.all ∧
    lexicon.ignored.contains operator.spelling.terminal = false := by
  cases operator with
  | disjunction =>
      decide
  | conjunction =>
      decide
  | apply operator =>
      cases operator <;> decide

/-- The sign of an operator stands within a line. -/
theorem BinaryOperator.inLine_sign (operator : BinaryOperator) :
    InLine operator.sign.toList := by
  cases operator with
  | disjunction =>
      exact ⟨⟨_, _, rfl, by decide⟩, forall_mem_of_all (by decide)⟩
  | conjunction =>
      exact ⟨⟨_, _, rfl, by decide⟩, forall_mem_of_all (by decide)⟩
  | apply operator =>
      cases operator <;>
        exact ⟨⟨_, _, rfl, by decide⟩, forall_mem_of_all (by decide)⟩

theorem BinaryOperator.precedence_le (operator : BinaryOperator) :
    operator.precedence ≤ 7 ∧ operator.leftPrecedence ≤ 9 ∧
      operator.rightPrecedence ≤ 9 := by
  cases operator with
  | disjunction =>
      decide
  | conjunction =>
      decide
  | apply operator =>
      cases operator <;> decide

/-- The slack of expressions that bind at least so tightly. -/
def slackOf (precedence : Nat) : Nat :=
  precedence + 2

namespace ReadsAs

variable {line : Nat}

/-- A phrase that binds more tightly is one that binds less tightly. -/
theorem step
    {precedence : Nat}
    {text : List Char}
    {phrase : Phrase}
    (weak : precedence < 9)
    (reads :
      ReadsAs line (categoryOf (precedence + 1)) (slackOf (precedence + 1)) text
        phrase) :
    ReadsAs line (categoryOf precedence) (slackOf precedence) text phrase := by
  refine ⟨reads.inLine, fun place tail onLine delimits => ?_⟩
  obtain ⟨tokens, after, count, segment, afterLine, derives, bound⟩ :=
    reads.derives place tail onLine delimits
  have member :
      Rule.chain (categoryOf precedence) (categoryOf (precedence + 1)) ∈
        Rule.all := by
    have each :
        ∀ p < 9, Rule.chain (categoryOf p) (categoryOf (p + 1)) ∈ Rule.all := by
      decide
    exact each precedence weak
  refine ⟨tokens, after, count + 1, segment, afterLine, ?_, ?_⟩
  · exact .of_rule
      (Rule.chain (categoryOf precedence) (categoryOf (precedence + 1)))
      member derives
      rfl
  · simp only [slackOf] at bound ⊢
    omega

/-- A phrase may stand where less tightly binding ones may stand. -/
theorem weaken
    {strong weak : Nat}
    {text : List Char}
    {phrase : Phrase}
    (le : weak ≤ strong)
    (bounded : strong ≤ 9)
    (reads : ReadsAs line (categoryOf strong) (slackOf strong) text phrase) :
    ReadsAs line (categoryOf weak) (slackOf weak) text phrase := by
  obtain ⟨more, rfl⟩ := Nat.exists_eq_add_of_le le
  induction more with
  | zero =>
      exact reads
  | succ more inductionHypothesis =>
      exact inductionHypothesis (by omega) (by omega) (step (by omega) reads)

/-- A lexeme that is an atom of its own. -/
theorem ofLexeme
    {kind : Terminal}
    {lexeme : List Char}
    {phrase : Phrase}
    (rule : Rule)
    (member : rule ∈ Rule.all)
    (isAtom : rule.category = .atom)
    (parts : rule.parts = [.terminal kind])
    (first : ∀ tail, Delimits tail →
      lexicon.first? (fun _ => true) (lexeme ++ tail) = some (kind, lexeme.length))
    (kept : lexicon.ignored.contains kind = false)
    (inLine : InLine lexeme)
    (built : ∀ place : Place, place.line = line →
      buildPhrase rule [.token ⟨kind, lexeme, place⟩] = .ok phrase) :
    ReadsAs line .atom (slackOf 9) lexeme phrase := by
  refine ⟨inLine, fun place tail onLine delimits => ?_⟩
  refine ⟨[⟨kind, lexeme, place⟩], place.advance lexeme, 1,
    .token place tail (first tail delimits) inLine.ne_nil kept,
    (line_advance inLine.noBreak place).trans onLine, ?_, Nat.le_refl 12⟩
  have isToken : grammar.symbols rule = [.token kind] := by
    show rule.parts.map Part.symbol = _
    rw [parts]
    rfl
  rw [← isAtom]
  exact .of_token rule member ⟨kind, lexeme, place⟩ isToken (built place onLine)

/-- A phrase in parentheses is an atom. -/
theorem parenthesised
    {text : List Char}
    {phrase : Phrase}
    (reads : ReadsAs line .expression (slackOf 0) text phrase) :
    ReadsAs line .atom (slackOf 9) ('(' :: text ++ [')']) phrase := by
  have inLine : InLine ('(' :: text ++ [')']) :=
    ⟨⟨'(', _, rfl, by decide⟩, List.forall_mem_cons.mpr ⟨by decide,
      List.forall_mem_append.mpr ⟨reads.inLine.noBreak,
        forall_mem_of_all (by decide)⟩⟩⟩
  refine ⟨inLine, fun place tail onLine delimits => ?_⟩
  obtain ⟨tokens, after, count, segment, afterLine, derives, bound⟩ :=
    reads.derives (place.advance Mark.openParen.text.toList) (')' :: tail)
      ((line_mark .openParen place).trans onLine) (delimits_cons (by decide) tail)
  have opened :=
    Mark.segment place (text ++ [')'] ++ tail) (m := .openParen) (by decide)
  have closed := Mark.segment after tail (m := .closeParen) (by decide)
  refine ⟨_, _, count + 1, opened.append (segment.append closed),
    (line_mark .closeParen after).trans afterLine, ?_, ?_⟩
  · exact .of_rule Rule.parenthesised (by decide)
      (.token (Mark.openParen.token place)
        (derives.append (.token (Mark.closeParen.token after) .nil))) rfl
  · simp only [slackOf, List.length_append, List.length_cons, List.length_nil]
      at bound ⊢
    omega

/-- An expression may be written as an operand, in parentheses if need be. -/
theorem enclose
    {e : Expression}
    {text : List Char}
    {phrase : Phrase}
    (least : Nat)
    (reads :
      ReadsAs line (categoryOf e.precedence) (slackOf e.precedence) text phrase)
    (bounded : e.precedence ≤ 9)
    (leastBounded : least ≤ 9) :
    ReadsAs line (categoryOf least) (slackOf least) (e.enclose least text)
      phrase := by
  unfold Expression.enclose
  split
  · exact weaken leastBounded (Nat.le_refl 9)
      (parenthesised (weaken (Nat.zero_le _) bounded reads))
  · exact weaken (by omega) bounded reads

/-- An operand after a blank. -/
theorem blank
    {category : Category}
    {slack : Nat}
    {text : List Char}
    {phrase : Phrase}
    (reads : ReadsAs line category (slack + 1) text phrase)
    (place : Place)
    (tail : List Char)
    (onLine : place.line = line)
    (delimits : Delimits tail) :
    ∃ (tokens : List (Token Terminal)) (after : Place) (count : Nat),
      lexicon.Segment place (' ' :: text) tokens after tail ∧
      after.line = line ∧
      Derives language grammar [.phrase category] tokens [phrase] count ∧
      count + (slack + 1) ≤ 12 * tokens.length := by
  obtain ⟨tokens, after, count, segment, afterLine, derives, bound⟩ :=
    reads.derives (place.next ' ') tail onLine delimits
  have nonempty := List.ne_nil_of_length_pos (Nat.pos_of_lt_mul_left bound)
  exact ⟨tokens, after, count, segment_blank segment reads.inLine.head nonempty,
    afterLine, derives, bound⟩

/-- A negated operand. -/
theorem negate
    {text : List Char}
    {operand : Expression}
    (reads : ReadsAs line .unary (slackOf 6) text (.expression operand))
    (operandLine : operand.line = line) :
    ReadsAs line .unary (slackOf 6) ('-' :: text)
      (.expression (.unary .negate operand line)) := by
  have inLine : InLine ('-' :: text) :=
    ⟨⟨'-', _, rfl, by decide⟩,
      List.forall_mem_cons.mpr ⟨by decide, reads.inLine.noBreak⟩⟩
  refine ⟨inLine, fun place tail onLine delimits => ?_⟩
  obtain ⟨tokens, after, count, segment, afterLine, derives, bound⟩ :=
    reads.derives (place.advance Mark.minus.text.toList) tail
      ((line_mark .minus place).trans onLine) delimits
  have sign := Mark.segment place (text ++ tail) (m := .minus) (by decide)
  refine ⟨_, after, count + 1, sign.append segment, afterLine, ?_, ?_⟩
  · refine .of_rule Rule.negate (by decide)
      (.token (Mark.minus.token place) derives) ?_
    rw [← operandLine]
    rfl
  · simp only [slackOf, List.length_append, List.length_cons, List.length_nil]
      at bound ⊢
    omega

/-- The negation of a truth. -/
theorem not
    {text : List Char}
    {operand : Expression}
    (reads : ReadsAs line .unary (slackOf 6) text (.expression operand)) :
    ReadsAs line .unary (slackOf 6) ("not ".toList ++ text)
      (.expression (.unary .not operand line)) := by
  have inLine : InLine ("not ".toList ++ text) :=
    InLine.append ⟨⟨'n', _, rfl, by decide⟩, forall_mem_of_all (by decide)⟩
      reads.inLine.noBreak
  refine ⟨inLine, fun place tail onLine delimits => ?_⟩
  have word := Segment.token place (' ' :: text ++ tail)
    (first?_keyword (k := .notKw) (by decide) rfl) (by decide) rfl
  have wordLine : (place.advance Keyword.notKw.word.toList).line = line :=
    (line_advance (forall_mem_of_all (by decide)) place).trans onLine
  obtain ⟨tokens, after, count, segment, afterLine, derives, bound⟩ :=
    reads.blank _ tail wordLine delimits
  refine ⟨_, after, count + 1, word.append segment, afterLine, ?_, ?_⟩
  · refine .of_rule Rule.not (by decide)
      (.token (⟨.keyword .notKw, Keyword.notKw.word.toList, place⟩ : Token Terminal)
        derives) ?_
    rw [← onLine]
    rfl
  · simp only [slackOf, List.length_append, List.length_cons, List.length_nil]
      at bound ⊢
    omega

/-- The operands of a binary operator. -/
theorem binary
    {operator : BinaryOperator}
    {left right : Expression}
    {leftText rightText : List Char}
    (leftReads : ReadsAs line (categoryOf operator.leftPrecedence)
      (slackOf operator.leftPrecedence) leftText (.expression left))
    (rightReads : ReadsAs line (categoryOf operator.rightPrecedence)
      (slackOf operator.rightPrecedence) rightText (.expression right))
    (leftLine : left.line = line) :
    ReadsAs line (categoryOf operator.precedence) (slackOf operator.precedence)
      (leftText ++ ' ' :: operator.sign.toList ++ ' ' :: rightText)
      (.expression (.binary operator left right line)) := by
  obtain ⟨isOperator, level, leftLevel, rightLevel, member, kept⟩ :=
    operator.spelling_spec
  have signInLine := operator.inLine_sign
  have inLine :
      InLine (leftText ++ (' ' :: operator.sign.toList ++ ' ' :: rightText)) :=
    leftReads.inLine.append (List.forall_mem_cons.mpr ⟨by decide,
      List.forall_mem_append.mpr ⟨signInLine.noBreak,
        List.forall_mem_cons.mpr ⟨by decide, rightReads.inLine.noBreak⟩⟩⟩)
  rw [List.append_assoc]
  refine ⟨inLine, fun place tail onLine delimits => ?_⟩
  obtain ⟨leftTokens, between, leftCount, leftSegment, betweenLine, leftDerives,
    leftBound⟩ :=
    leftReads.derives place
      (' ' :: operator.sign.toList ++ ' ' :: rightText ++ tail) onLine
      (delimits_cons (by decide) _)
  have sign :=
    segment_blank (Segment.token (between.next ' ') (' ' :: rightText ++ tail)
    (first?_operator operator _) signInLine.ne_nil kept) signInLine.head
      (List.cons_ne_nil _ _)
  have signLine : ((between.next ' ').advance operator.sign.toList).line = line :=
    (line_advance signInLine.noBreak _).trans betweenLine
  obtain ⟨rightTokens, after, rightCount, rightSegment, afterLine, rightDerives,
    rightBound⟩ :=
    rightReads.blank _ tail signLine delimits
  refine ⟨_, after, leftCount + rightCount + 1,
    leftSegment.append (sign.append rightSegment), afterLine, ?_, ?_⟩
  · rw [← leftLevel] at leftDerives
    rw [← rightLevel] at rightDerives
    rw [← level]
    refine .of_rule (Rule.binary operator.spelling) member (leftDerives.append
      (.token ⟨operator.spelling.terminal, _, between.next ' '⟩ rightDerives)) ?_
    show Except.ok
      (Phrase.expression
        (.binary operator.spelling.operator left right left.line)) = _
    rw [isOperator, leftLine]
  · have small := operator.precedence_le.1
    simp only [slackOf, List.length_append, List.length_cons, List.length_nil]
      at leftBound rightBound ⊢
    omega

/-- An index in brackets after what it is an index of. -/
theorem index
    {targetText text : List Char}
    {target position : Expression}
    (targetReads :
      ReadsAs line .postfixed (slackOf 8) targetText (.expression target))
    (reads : ReadsAs line .expression (slackOf 0) text (.expression position))
    (targetLine : target.line = line) :
    ReadsAs line .postfixed (slackOf 8) (targetText ++ '[' :: text ++ [']'])
      (.expression (.index target position line)) := by
  have inLine : InLine (targetText ++ ('[' :: text ++ [']'])) :=
    targetReads.inLine.append (List.forall_mem_cons.mpr ⟨by decide,
      List.forall_mem_append.mpr ⟨reads.inLine.noBreak,
        forall_mem_of_all (by decide)⟩⟩)
  rw [List.append_assoc]
  refine ⟨inLine, fun place tail onLine delimits => ?_⟩
  obtain ⟨targetTokens, between, targetCount, targetSegment, betweenLine,
    targetDerives,
      targetBound⟩ :=
    targetReads.derives place ('[' :: text ++ [']'] ++ tail) onLine
      (delimits_cons (by decide) _)
  obtain ⟨tokens, after, count, segment, afterLine, derives, bound⟩ :=
    reads.derives (between.advance Mark.openBracket.text.toList) (']' :: tail)
      ((line_mark .openBracket between).trans betweenLine)
      (delimits_cons (by decide) tail)
  have opened :=
    Mark.segment between (text ++ [']'] ++ tail) (m := .openBracket) (by decide)
  have closed := Mark.segment after tail (m := .closeBracket) (by decide)
  refine ⟨_, _, targetCount + count + 1,
    targetSegment.append (opened.append (segment.append closed)),
    (line_mark .closeBracket after).trans afterLine, ?_, ?_⟩
  · refine .of_rule Rule.postfixIndex (by decide)
      (targetDerives.append (.token (Mark.openBracket.token between)
        (derives.append (.token (Mark.closeBracket.token after) .nil)))) ?_
    rw [← targetLine]
    rfl
  · simp only [slackOf, List.length_append, List.length_cons, List.length_nil]
      at targetBound bound ⊢
    omega

/-- What follows a comma and a blank. -/
theorem afterComma
    {text : List Char}
    {phrase : Phrase}
    (reads : ReadsAs line .expression (slackOf 0) text phrase)
    {place : Place}
    {tail : List Char}
    (onLine : place.line = line)
    (delimits : Delimits tail) :
    ∃ (tokens : List (Token Terminal)) (after : Place) (count : Nat),
      lexicon.Segment place (", ".toList ++ text) (Mark.comma.token place :: tokens)
        after tail ∧
      after.line = line ∧
      Derives language grammar [.token (.mark .comma), .phrase .expression]
        (Mark.comma.token place :: tokens)
        [.token (Mark.comma.token place), phrase] count ∧
      count + 2 ≤ 12 * tokens.length := by
  have comma := Mark.segment place (' ' :: text ++ tail) (m := .comma) (by decide)
  obtain ⟨tokens, after, count, segment, afterLine, derives, bound⟩ :=
    reads.blank _ tail ((line_mark .comma place).trans onLine) delimits
  exact ⟨tokens, after, count, comma.append segment, afterLine,
    .token (Mark.comma.token place) derives, bound⟩

end ReadsAs

/-- The characters of further arguments, each after a comma. -/
def textOfMore (items : List Expression) : List Char :=
  items.flatMap fun e => ", ".toList ++ e.text

theorem textOfAll_cons
    (e : Expression)
    (rest : List Expression) :
    Expression.textOfAll (e :: rest) = e.text ++ textOfMore rest := by
  induction rest generalizing e with
  | nil =>
      simp [Expression.textOfAll, textOfMore]
  | cons next rest inductionHypothesis =>
      rw [Expression.textOfAll, inductionHypothesis]
      simp [textOfMore]

theorem allOnLine_eq_map
    (line : Nat)
    (items : List Expression) :
    Expression.allOnLine line items = items.map (Expression.onLine line) := by
  induction items with
  | nil =>
      rfl
  | cons e rest inductionHypothesis =>
      rw [Expression.allOnLine, inductionHypothesis, List.map_cons]

/-- On a line, an expression is read wherever one may stand. -/
def ReadsBack (line : Nat) (e : Expression) : Prop :=
  ReadsAs line .expression (slackOf 0) e.text (.expression (e.onLine line))

namespace ReadsAs

variable {line : Nat}

/-- Further arguments stand within the line. -/
theorem inLine_textOfMore
    {items : List Expression}
    (nonempty : items ≠ [])
    (reads : ∀ e ∈ items, ReadsBack line e) :
    InLine (textOfMore items) := by
  constructor
  · obtain ⟨e, rest, rfl⟩ := List.exists_cons_of_ne_nil nonempty
    exact ⟨',', _, rfl, by decide⟩
  · intro c member
    obtain ⟨e, isItem, inText⟩ := List.mem_flatMap.mp member
    rcases List.mem_append.mp inText with inComma | inText
    · exact forall_mem_of_all (P := (· ≠ '\n')) (by decide) c inComma
    · exact (reads e isItem).inLine.noBreak c inText

/-- Further arguments; all but the last one make a phrase that comes first. -/
theorem moreArguments
    {items : List Expression}
    (nonempty : items ≠ [])
    (reads : ∀ e ∈ items, ReadsBack line e) :
    ReadsAs line .moreArguments 0 (textOfMore items)
      (.arguments (items.map (Expression.onLine line))) := by
  induction items using List.reverseRecOn with
  | nil =>
      exact absurd rfl nonempty
  | append_singleton front e inductionHypothesis =>
      refine ⟨inLine_textOfMore nonempty reads,
        fun place tail onLine delimits => ?_⟩
      have lastReads : ReadsBack line e := reads e (by simp)
      by_cases single : front = []
      · subst single
        obtain ⟨tokens, after, count, segment, afterLine, derives, bound⟩ :=
          lastReads.afterComma onLine delimits
        refine ⟨_, after, count + 1, ?_, afterLine,
          .of_rule Rule.secondArgument (by decide) derives rfl, ?_⟩
        · simpa [textOfMore] using segment
        · rw [List.length_cons]
          omega
      · have frontReads :=
          inductionHypothesis single fun e member => reads e (by simp [member])
        obtain ⟨frontTokens, between, frontCount, frontSegment, betweenLine,
          frontDerives,
            frontBound⟩ :=
          frontReads.derives place (", ".toList ++ e.text ++ tail) onLine
            (delimits_cons (by decide) _)
        obtain ⟨tokens, after, count, segment, afterLine, derives, bound⟩ :=
          lastReads.afterComma betweenLine delimits
        refine ⟨_, after, frontCount + count + 1, ?_, afterLine,
          .of_rule Rule.nextArgument (by decide) (frontDerives.append derives) ?_,
          ?_⟩
        · have whole := frontSegment.append segment
          simpa [textOfMore] using whole
        · rw [List.map_append]
          rfl
        · rw [List.length_append, List.length_cons]
          omega

/-- Arguments between commas. -/
theorem arguments
    {items : List Expression}
    (nonempty : items ≠ [])
    (reads : ∀ e ∈ items, ReadsBack line e) :
    ReadsAs line .arguments 0 (Expression.textOfAll items)
      (.arguments (items.map (Expression.onLine line))) := by
  obtain ⟨e, rest, rfl⟩ := List.exists_cons_of_ne_nil nonempty
  have firstReads : ReadsBack line e := reads e (by simp)
  rw [textOfAll_cons]
  by_cases single : rest = []
  · subst single
    simp only [textOfMore, List.flatMap_nil, List.append_nil]
    refine ⟨firstReads.inLine, fun place tail onLine delimits => ?_⟩
    obtain ⟨tokens, after, count, segment, afterLine, derives, bound⟩ :=
      firstReads.derives place tail onLine delimits
    refine ⟨tokens, after, count + 1, segment, afterLine,
      .of_rule (Rule.arguments false) (by decide) derives rfl, ?_⟩
    simp only [slackOf] at bound
    omega
  · have restReads :=
      moreArguments single fun e member => reads e (by simp [member])
    refine ⟨firstReads.inLine.append restReads.inLine.noBreak,
      fun place tail onLine delimits => ?_⟩
    have comma : Delimits (textOfMore rest ++ tail) := by
      obtain ⟨next, further, rfl⟩ := List.exists_cons_of_ne_nil single
      exact delimits_cons (by decide) _
    obtain ⟨tokens, between, count, segment, betweenLine, derives, bound⟩ :=
      firstReads.derives place (textOfMore rest ++ tail) onLine comma
    obtain ⟨restTokens, after, restCount, restSegment, afterLine, restDerives,
      restBound⟩ :=
      restReads.derives between tail betweenLine delimits
    refine ⟨_, after, count + restCount + 1, segment.append restSegment, afterLine,
      .of_rule (Rule.arguments true) (by decide) (derives.append restDerives) rfl,
      ?_⟩
    simp only [slackOf, List.length_append] at bound ⊢
    omega

/-- The arguments inside brackets, which may be missing. -/
theorem optionalArguments
    {items : List Expression}
    (reads : ∀ e ∈ items, ReadsBack line e)
    {place : Place}
    {tail : List Char}
    (onLine : place.line = line)
    (delimits : Delimits tail) :
    ∃ (given : Bool) (tokens : List (Token Terminal)) (parts : List Phrase)
      (after : Place) (count : Nat),
      lexicon.Segment place (Expression.textOfAll items) tokens after tail ∧
      after.line = line ∧
      Derives language grammar ((partIf given [.phrase .arguments]).map Part.symbol)
        tokens parts count ∧
      parts.flatMap Phrase.argumentList = items.map (Expression.onLine line) ∧
      count ≤ 12 * tokens.length := by
  by_cases empty : items = []
  · subst empty
    exact ⟨false, [], [], place, 0, fun _ spells => spells, onLine, .nil, rfl,
      Nat.le_refl 0⟩
  · obtain ⟨tokens, after, count, segment, afterLine, derives, bound⟩ :=
      (arguments empty reads).derives place tail onLine delimits
    exact ⟨true, tokens, _, after, count, segment, afterLine, derives,
      List.append_nil _, bound⟩

/-- No line ends inside arguments. -/
theorem noBreak_textOfAll
    {items : List Expression}
    (reads : ∀ e ∈ items, ReadsBack line e) :
    ∀ c ∈ Expression.textOfAll items, c ≠ '\n' := by
  by_cases empty : items = []
  · subst empty
    exact nofun
  · exact (arguments empty reads).inLine.noBreak

/-- A call of a function. -/
theorem call
    {n : String}
    {items : List Expression}
    (isName : IsName n)
    (nameInLine : InLine n.toList)
    (reads : ∀ e ∈ items, ReadsBack line e) :
    ReadsAs line .atom (slackOf 9)
      (n.toList ++ '(' :: Expression.textOfAll items ++ [')'])
      (.expression (.call n (items.map (Expression.onLine line)) line)) := by
  have inLine : InLine (n.toList ++ ('(' :: Expression.textOfAll items ++ [')'])) :=
    nameInLine.append (List.forall_mem_cons.mpr ⟨by decide,
      List.forall_mem_append.mpr ⟨noBreak_textOfAll reads,
        forall_mem_of_all (by decide)⟩⟩)
  rw [List.append_assoc]
  refine ⟨inLine, fun place tail onLine delimits => ?_⟩
  have named :=
    Segment.token place ('(' :: Expression.textOfAll items ++ [')'] ++ tail)
    (first?_name isName (delimits_cons (by decide) _)) nameInLine.ne_nil rfl
  have nameLine := (line_advance nameInLine.noBreak place).trans onLine
  have opened := Mark.segment (place.advance n.toList)
    (Expression.textOfAll items ++ [')'] ++ tail) (m := .openParen) (by decide)
  obtain ⟨given, tokens, parts, after, count, segment, afterLine, derives, same,
    bound⟩ :=
    optionalArguments reads
      ((line_mark .openParen (place.advance n.toList)).trans nameLine)
      (delimits_cons (c := ')') (by decide) tail)
  have closed := Mark.segment after tail (m := .closeParen) (by decide)
  have symbols : grammar.symbols (.call given) =
      .token .name :: .token (.mark .openParen) ::
        ((partIf given [.phrase .arguments]).map Part.symbol ++
          [.token (.mark .closeParen)]) := by
    cases given <;> rfl
  have built : buildPhrase (.call given) (.token ⟨.name, n.toList, place⟩ ::
      .token (Mark.openParen.token (place.advance n.toList)) ::
        (parts ++ [.token (Mark.closeParen.token after)])) =
      .ok (.expression (.call n (items.map (Expression.onLine line)) line)) := by
    show Except.ok (Phrase.expression (callOf _ _)) = _
    simp [callOf, Token.string, same, onLine, Phrase.argumentList]
  refine ⟨_, _, count + 1, named.append (opened.append (segment.append closed)),
    (line_mark .closeParen after).trans afterLine,
    .of_rule (Rule.call given) (by cases given <;> decide) ?_ built, ?_⟩
  · rw [symbols]
    exact .token ⟨.name, n.toList, place⟩
      (.token (Mark.openParen.token (place.advance n.toList))
        (derives.append (.token (Mark.closeParen.token after) .nil)))
  · simp only [slackOf, List.length_append, List.length_cons, List.length_nil]
    omega

/-- An array. -/
theorem array
    {items : List Expression}
    (reads : ∀ e ∈ items, ReadsBack line e) :
    ReadsAs line .atom (slackOf 9) ('[' :: Expression.textOfAll items ++ [']'])
      (.expression (.array (items.map (Expression.onLine line)) line)) := by
  have inLine : InLine ('[' :: Expression.textOfAll items ++ [']']) :=
    ⟨⟨'[', _, rfl, by decide⟩, List.forall_mem_cons.mpr ⟨by decide,
      List.forall_mem_append.mpr ⟨noBreak_textOfAll reads,
        forall_mem_of_all (by decide)⟩⟩⟩
  refine ⟨inLine, fun place tail onLine delimits => ?_⟩
  have opened := Mark.segment place (Expression.textOfAll items ++ [']'] ++ tail)
    (m := .openBracket) (by decide)
  obtain ⟨given, tokens, parts, after, count, segment, afterLine, derives, same,
    bound⟩ :=
    optionalArguments reads ((line_mark .openBracket place).trans onLine)
      (delimits_cons (c := ']') (by decide) tail)
  have closed := Mark.segment after tail (m := .closeBracket) (by decide)
  have symbols : grammar.symbols (.array given) =
      .token (.mark .openBracket) ::
          ((partIf given [.phrase .arguments]).map Part.symbol ++
        [.token (.mark .closeBracket)]) := by
    cases given <;> rfl
  have built : buildPhrase (.array given) (.token (Mark.openBracket.token place) ::
      (parts ++ [.token (Mark.closeBracket.token after)])) =
      .ok (.expression (.array (items.map (Expression.onLine line)) line)) := by
    show Except.ok (Phrase.expression (Expression.array _ _)) = _
    simp [Mark.token, same, onLine, Phrase.argumentList]
  refine ⟨_, _, count + 1, opened.append (segment.append closed),
    (line_mark .closeBracket after).trans afterLine,
    .of_rule (Rule.array given) (by cases given <;> decide) ?_ built, ?_⟩
  · rw [symbols]
    exact .token (Mark.openBracket.token place)
      (derives.append (.token (Mark.closeBracket.token after) .nil))
  · simp only [slackOf, List.length_append, List.length_cons, List.length_nil]
    omega

end ReadsAs

end GridScript.Script
