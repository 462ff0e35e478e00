import GridScript.Proofs.Script.Layout
import GridScript.Proofs.Script.Syntax.Table

namespace GridScript.Script

/-!
# Layout of read programs

The layout of a read program names the lines of its nodes and has the
statements of each block on ever later lines. It comes from the tokens of the
text, which are in order.
-/

open GridScript.Number
open GridScript.Parsing

/-!
## Lines

The layout of a read program names the lines of its nodes and has the statements
of each block on ever later lines. It comes from the tokens of the text, which
are in order: none starts on a line before the last line of an earlier one, and
a line break leads to the next line.
-/

/-- The layout of nodes on certain lines: each statement of a block is on a
later line than the statement before it. -/
def Layout.ofLines (lines : Nat → Prop) : Layout where
  line := lines
  block body := (body.map Statement.line).Pairwise (· < ·)
  block_single s := List.pairwise_singleton _ _
  block_of_append rising := by
    rw [List.map_append] at rising
    exact (List.pairwise_append.mp rising).2.1

section Lines

variable
  {lines more : Nat → Prop}
  (wider : ∀ line, lines line → more line)

include wider

theorem Expression.WellFormed.mono
    {e : Expression}
    (wellFormed : e.WellFormed (.ofLines lines)) :
    e.WellFormed (.ofLines more) := by
  cases e with
  | literal l line =>
      exact ⟨wellFormed.1, wider _ wellFormed.2⟩
  | _ =>
      exact wider _ wellFormed

theorem Statement.WellFormed.mono
    {s : Statement}
    (wellFormed : s.WellFormed (.ofLines lines)) :
    s.WellFormed (.ofLines more) := by
  cases s with
  | dim | giveBack | exit | evaluate =>
      exact wider _ wellFormed
  | assign target value line =>
      exact ⟨wider _ wellFormed.1, wider _ wellFormed.2⟩
  | define name parameters body line =>
      obtain ⟨isLine, each, proper, rising⟩ := wellFormed
      exact ⟨wider _ isLine, each.imp fun _ => wider _, proper, rising⟩
  | conditional | forRange | forEach | whileLoop =>
      exact ⟨wider _ wellFormed.1, wellFormed.2⟩

theorem Expression.Sound.mono
    {e : Expression}
    (sound : e.Sound (.ofLines lines)) :
    e.Sound (.ofLines more) :=
  fun part member => (sound part member).mono wider

theorem Statement.Sound.mono
    {s : Statement}
    (sound : s.Sound (.ofLines lines)) :
    s.Sound (.ofLines more) := by
  intro node member
  have wellFormed := sound node member
  cases node with
  | expression e =>
      exact Expression.WellFormed.mono wider wellFormed
  | statement s =>
      exact Statement.WellFormed.mono wider wellFormed

theorem Layout.Admits.mono
    {body : List Statement}
    (admitted : (Layout.ofLines lines).Admits body) :
    (Layout.ofLines more).Admits body :=
  ⟨admitted.1.imp fun _ => Statement.Sound.mono wider, admitted.2⟩

theorem Phrase.Sound.mono
    {phrase : Phrase}
    (sound : phrase.Sound (.ofLines lines)) :
    phrase.Sound (.ofLines more) := by
  cases phrase with
  | token t =>
      exact ⟨wider _ sound.1, sound.2⟩
  | expression e =>
      exact Expression.Sound.mono wider sound
  | arguments items =>
      exact List.Forall.imp (fun _ => Expression.Sound.mono wider) sound
  | target t =>
      exact ⟨wider _ sound.1, sound.2.imp fun _ => Expression.Sound.mono wider⟩
  | statements body =>
      exact Layout.Admits.mono wider sound
  | parameters items =>
      refine List.Forall.imp (fun parameter held => ?_) sound
      exact ⟨wider _ held.1, fun e isDefault => (held.2 e isDefault).mono wider⟩
  | branches items =>
      refine List.Forall.imp (fun branch held => ?_) sound
      exact ⟨held.1.mono wider, held.2.mono wider⟩
  | otherwise body =>
      exact Layout.Admits.mono wider sound

end Lines

/-! ## Tokens in order -/

/-- Tokens as a text has them: each starts on a line that the ones before it
have reached, and a line break leads to the next line. -/
structure InOrder (tokens : List (Token Terminal)) : Prop where
  lines : tokens.Pairwise fun earlier later => earlier.lastLine ≤ later.place.line
  breaks :
    ∀ token ∈ tokens, token.kind = .newline → token.place.line < token.lastLine
  unsigned : ∀ token ∈ tokens, Unsigned token.text

theorem InOrder.of_infix
    {tokens segment : List (Token Terminal)}
    (inOrder : InOrder tokens)
    (inside : segment <:+: tokens) :
    InOrder segment where
  lines := inOrder.lines.sublist inside.sublist
  breaks token member := inOrder.breaks token (inside.subset member)
  unsigned token member := inOrder.unsigned token (inside.subset member)

/-- After a line break all tokens are on later lines than the tokens before it. -/
theorem InOrder.line_lt
    {front back : List (Token Terminal)}
    {lineBreak : Token Terminal}
    (inOrder : InOrder (front ++ back))
    (isLast : front.getLast? = some lineBreak)
    (isBreak : lineBreak.kind = .newline) :
    ∀ earlier ∈ front, ∀ later ∈ back, earlier.place.line < later.place.line := by
  intro earlier inFront later inBack
  obtain ⟨before, rfl⟩ := List.getLast?_eq_some_iff.mp isLast
  obtain ⟨inside, -, across⟩ := List.pairwise_append.mp inOrder.lines
  have broken := inOrder.breaks lineBreak (by simp) isBreak
  have after := across lineBreak (by simp) later inBack
  rcases List.mem_append.mp inFront with isBefore | isSelf
  · have reached :=
      (List.pairwise_append.mp inside).2.2 earlier isBefore lineBreak (by simp)
    unfold Token.lastLine at *
    omega
  · obtain rfl := List.mem_singleton.mp isSelf
    omega

/-- A line break in a text ends on a later line than it starts on. -/
theorem lt_lastLine_of_stands
    {place : Place}
    {text rest : List Char}
    {token : Token Terminal}
    (stands : lexicon.Stands place text token rest)
    (isBreak : token.kind = .newline) :
    token.place.line < token.lastLine := by
  obtain ⟨length, isLength, isText⟩ := stands.lexeme
  rw [isBreak] at isLength
  have broken : '\n' ∈ token.text := by
    rw [isText]
    exact mem_take_of_newlineLength? isLength
  have counted := List.count_pos_iff.mpr broken
  unfold Token.lastLine
  omega

/-- Scanned tokens are in order. -/
theorem inOrder_of_scanned
    {place last : Place}
    {text left : List Char}
    {tokens : List (Token Terminal)}
    (scanned : lexicon.Scanned place text tokens last left) :
    InOrder tokens where
  lines := scanned.pairwise
  breaks := scanned.forall_mem lt_lastLine_of_stands
  unsigned := scanned.forall_mem unsigned_of_stands

/-!
## Layout of read programs

The phrase of some tokens has nodes on the lines of these tokens only. A
list of statements ends with a line break, so the statement after it stands
on a later line; that no other rule joins two lists of statements is
checked over the rules.
-/

/-! ## Symbols -/

/-- The phrases of a category end with a line break. -/
def Category.endsLine : Category → Bool
  | .statements | .statement | .ifStatement | .forStatement | .forEachStatement
  | .whileStatement | .functionDefinition => true
  | _ => false

/-- The phrases of a category are lists of statements. -/
def Category.hasStatements : Category → Bool
  | .program | .statements | .statement | .simpleStatement | .dimStatement
  | .assignStatement
  | .returnStatement | .exitStatement | .callStatement | .block | .ifStatement
  | .forStatement
  | .forEachStatement | .whileStatement | .functionDefinition => true
  | _ => false

/-- A symbol stands for tokens that end with a line break. -/
def endsLine : GrammarSymbol Terminal Category → Bool
  | .token k => k == .newline
  | .phrase category => category.endsLine

/-- A symbol stands for statements. -/
def hasStatements : GrammarSymbol Terminal Category → Bool
  | .token _ => false
  | .phrase category => category.hasStatements

/-- The rules whose phrase keeps the statements of a block apart
from those around it. -/
def Rule.isClause : Rule → Bool
  | .elseIf | .elseClause => true
  | _ => false

/-- A rule for phrases that end a line ends with such a symbol. -/
theorem Rule.endsLine_all :
    ∀ rule ∈ Rule.all, rule.category.endsLine = true →
      ∃ symbol ∈ (grammar.symbols rule).getLast?, endsLine symbol = true := by
  decide

/-- Of two lists of statements in a rule the first ends a line. -/
theorem Rule.apart_all :
    ∀ rule ∈ Rule.all, (grammar.symbols rule).Pairwise fun first second =>
      hasStatements first = true → hasStatements second = true →
        endsLine first = true := by
  decide

/-- A rule for other phrases than statements has no statements, if
it is not a clause. -/
theorem Rule.plain_all :
    ∀ rule ∈ Rule.all, rule.category.hasStatements = false → rule.isClause = false →
      ∀ symbol ∈ grammar.symbols rule, hasStatements symbol = false := by
  decide

/-! ## Phrases without statements -/

/-- A rule for other phrases than statements builds a phrase without statements. -/
theorem plainPhrase?_plain
    {rule : Rule}
    {parts : List Phrase}
    {phrase : Phrase}
    (other : rule.category.hasStatements = false)
    (inner :
      rule.isClause = false → parts.Forall fun part => part.statementList = [])
    (built : plainPhrase? rule parts = some phrase) :
    phrase.statementList = [] := by
  simp only [plainPhrase?, Option.orElse_eq_orElse, Option.orElse_eq_or,
    Option.or_eq_some_iff] at built
  rcases built with built | ⟨-, built | ⟨-, built | ⟨-, built⟩⟩⟩
  · revert built
    fun_cases statementPhrase? rule parts
    all_goals rintro ⟨⟩
    all_goals simp_all [Rule.category, Rule.isClause, Category.hasStatements,
      Phrase.statementList]
  · revert built
    fun_cases conditionalPhrase? rule parts
    all_goals rintro ⟨⟩
    all_goals simp_all [Rule.category, Rule.isClause, Category.hasStatements,
      Phrase.statementList]
  · revert built
    fun_cases parameterPhrase? rule parts
    all_goals rintro ⟨⟩
    all_goals simp_all [Rule.isClause, parameterOf, Phrase.statementList]
  · revert built
    fun_cases operandPhrase? rule parts
    all_goals rintro ⟨⟩
    all_goals simp_all [Rule.isClause, Phrase.statementList]

theorem buildPhrase_plain
    {rule : Rule}
    {parts : List Phrase}
    {phrase : Phrase}
    (other : rule.category.hasStatements = false)
    (inner :
      rule.isClause = false → parts.Forall fun part => part.statementList = [])
    (built : buildPhrase rule parts = .ok phrase) :
    phrase.statementList = [] := by
  revert built
  fun_cases buildPhrase rule parts with
  | case1 token =>
      intro built
      cases read : numberLiteral token with
      | error failure =>
          rw [read] at built
          cases built
      | ok e =>
          rw [read] at built
          cases built
          rfl
  | case9 rule parts =>
      intro built
      cases plain : plainPhrase? rule parts with
      | none =>
          rw [plain] at built
          cases built
          rfl
      | some found =>
          rw [plain] at built
          cases built
          exact plainPhrase?_plain other inner plain
  | _ =>
      cases other

/-! ## Derived phrases -/

/-- The layout of nodes on the lines of some tokens. -/
def Layout.ofTokens (tokens : List (Token Terminal)) : Layout :=
  .ofLines fun line => ∃ token ∈ tokens, token.place.line = line

/-- How the tokens of a symbol and its phrase are laid out. -/
structure LaidOut
    (symbol : GrammarSymbol Terminal Category)
    (tokens : List (Token Terminal))
    (phrase : Phrase) : Prop where
  ends :
    endsLine symbol = true →
      ∃ token, tokens.getLast? = some token ∧ token.kind = .newline
  plain : hasStatements symbol = false → phrase.statementList = []
  sound : InOrder tokens → phrase.Sound (.ofTokens tokens)

/-- Only symbols for statements have phrases with statements. -/
theorem LaidOut.hasStatements_of_mem
    {symbol : GrammarSymbol Terminal Category}
    {tokens : List (Token Terminal)}
    {phrase : Phrase}
    (laidOut : LaidOut symbol tokens phrase)
    {s : Statement}
    (member : s ∈ phrase.statementList) :
    hasStatements symbol = true := by
  cases has : hasStatements symbol with
  | true =>
      rfl
  | false =>
      rw [laidOut.plain has] at member
      cases member

/-- Statements stand on the lines of the tokens of their phrase. -/
theorem LaidOut.line_of_mem
    {symbol : GrammarSymbol Terminal Category}
    {tokens : List (Token Terminal)}
    {phrase : Phrase}
    (laidOut : LaidOut symbol tokens phrase)
    (inOrder : InOrder tokens)
    {s : Statement}
    (member : s ∈ phrase.statementList) :
    ∃ token ∈ tokens, token.place.line = s.line :=
  (List.forall_iff_forall_mem.mp (laidOut.sound inOrder).statementList s
    member).line

/-- The statements of a sound phrase make a block. -/
theorem Phrase.Sound.admits
    {layout : Layout}
    {phrase : Phrase}
    (sound : phrase.Sound layout) :
    layout.Admits phrase.statementList := by
  cases phrase with
  | statements body =>
      exact sound
  | _ =>
      exact ⟨trivial, layout.block_nil⟩

section Aligned

variable
  {symbols : List (GrammarSymbol Terminal Category)}
  {tokens : List (Token Terminal)}
  {parts : List Phrase}
  (aligned : Language.Aligned LaidOut symbols tokens parts)
  (inOrder : InOrder tokens)

include aligned inOrder

/-- Every part of a rule is sound on the lines of all its tokens. -/
theorem sound_of_aligned : ∀ part ∈ parts, part.Sound (.ofTokens tokens) := by
  intro part member
  obtain ⟨symbol, -, segment, inside, laidOut⟩ := aligned.exists_of_mem member
  refine Phrase.Sound.mono ?_ (laidOut.sound (inOrder.of_infix inside))
  rintro _ ⟨token, inSegment, rfl⟩
  exact ⟨token, inside.subset inSegment, rfl⟩

/-- The statements of all parts of a rule are on ever later lines. -/
theorem rising_of_aligned
    (apart : symbols.Pairwise fun first second =>
      hasStatements first = true → hasStatements second = true →
        endsLine first = true) :
    ((parts.flatMap Phrase.statementList).map Statement.line).Pairwise (· < ·) := by
  induction aligned with
  | nil =>
      exact .nil
  | @cons symbol symbols segment tokens phrase phrases first later
    inductionHypothesis =>
      have inFirst := inOrder.of_infix (List.prefix_append segment tokens).isInfix
      have inLater := inOrder.of_infix (List.suffix_append segment tokens).isInfix
      obtain ⟨ofFirst, ofLater⟩ := List.pairwise_cons.mp apart
      rw [List.flatMap_cons, List.map_append, List.pairwise_append]
      refine ⟨(first.sound inFirst).admits.2, inductionHypothesis inLater ofLater,
        ?_⟩
      -- A statement of the first part and one of a later part.
      simp only [List.forall_mem_map, List.forall_mem_flatMap]
      intro s inPhrase part isLater t inPart
      obtain ⟨second, isSymbol, inside, isInfix, laidOut⟩ :=
        later.exists_of_mem isLater
      have firstHas := first.hasStatements_of_mem inPhrase
      have secondHas := laidOut.hasStatements_of_mem inPart
      obtain ⟨lineBreak, isLast, isBreak⟩ :=
        first.ends (ofFirst second isSymbol firstHas secondHas)
      obtain ⟨earlier, inSegment, isLine⟩ := first.line_of_mem inFirst inPhrase
      obtain ⟨after, inInside, isLaterLine⟩ :=
        laidOut.line_of_mem (inLater.of_infix isInfix) inPart
      have before := inOrder.line_lt isLast isBreak earlier inSegment after
        (isInfix.subset inInside)
      rwa [isLine, isLaterLine] at before

end Aligned

/-- A rule lays out its phrase if its parts are laid out. -/
theorem laidOut_of_rule
    {rule : Rule}
    (member : rule ∈ Rule.all)
    {tokens : List (Token Terminal)}
    {parts : List Phrase}
    {phrase : Phrase}
    (aligned : Language.Aligned LaidOut (grammar.symbols rule) tokens parts)
    (built : buildPhrase rule parts = .ok phrase) :
    LaidOut (.phrase rule.category) tokens phrase where
  ends isEnd := by
    obtain ⟨symbol, isLast, symbolEnds⟩ := Rule.endsLine_all rule member isEnd
    obtain ⟨segment, _, ⟨before, rfl⟩, laidOut⟩ := aligned.exists_of_getLast? isLast
    obtain ⟨token, isToken, isBreak⟩ := laidOut.ends symbolEnds
    refine ⟨token, ?_, isBreak⟩
    rw [List.getLast?_append, isToken]
    rfl
  plain other := by
    refine buildPhrase_plain other (fun noClause => ?_) built
    refine List.forall_iff_forall_mem.mpr fun part isPart => ?_
    obtain ⟨symbol, isSymbol, _, _, laidOut⟩ := aligned.exists_of_mem isPart
    exact laidOut.plain (Rule.plain_all rule member other noClause symbol isSymbol)
  sound inOrder := by
    have joined := rising_of_aligned aligned inOrder (Rule.apart_all rule member)
    exact
      (buildPhrase_sound rule (sound_of_aligned aligned inOrder) joined).of_ok built

theorem laidOut_of_token (token : Token Terminal) :
    LaidOut (.token token.kind) [token] (.token token) where
  ends isEnd := ⟨token, rfl, beq_iff_eq.mp isEnd⟩
  plain _ := rfl
  sound inOrder :=
    ⟨⟨token, List.mem_singleton_self token, rfl⟩,
      inOrder.unsigned token (List.mem_singleton_self token)⟩

/-! ## Texts -/

/-- The number of lines of a text; the last may lack its line break. -/
def lineCount (text : String) : Nat :=
  (endLine text.toList).count '\n'

/-- The last line of a text is ended. -/
theorem getLast?_endLine (cs : List Char) : (endLine cs).getLast? = some '\n' := by
  unfold endLine
  split
  next ended =>
    exact ended
  next =>
    exact List.getLast?_concat

/-- The statements of a text are a block of sound statements on its lines. -/
theorem admits_of_parse
    {text : String}
    {program : Program}
    (parsed : parse text = .ok program) :
    (Layout.ofLines fun line => 1 ≤ line ∧ line ≤ lineCount text).Admits
      program.statements := by
  unfold parse at parsed
  split at parsed
  next phrase accepted =>
    cases parsed
    obtain ⟨-, -, tokens, place, left, wanted, count, scanned, -, derives, -⟩ :=
      Language.accepts_of_parse traced_language accepted
    have laidOut : LaidOut (.phrase .program) tokens phrase :=
      (derives.aligned laidOut_of_token fun _ => laidOut_of_rule).single
    have sound := laidOut.sound (inOrder_of_scanned scanned)
    refine (Phrase.Sound.mono ?_ sound).admits
    rintro _ ⟨token, member, rfl⟩
    have low := scanned.le_line token member
    have high := scanned.line_lt (getLast?_endLine _) token member
    exact ⟨low, Nat.le_of_lt_add_one (by rwa [Nat.add_comm] at high)⟩
  next =>
    cases parsed
  next =>
    cases parsed
  next =>
    cases parsed

end GridScript.Script
