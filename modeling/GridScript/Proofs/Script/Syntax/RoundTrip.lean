import GridScript.Proofs.Script.Syntax.Reading

namespace GridScript.Script

/-!
# Written expressions are read back

Every writable expression is read as itself, wherever an expression that binds
as tightly may stand. Since the table of scripts is complete, the parser reads
the assignment of a written expression as the assignment of that expression.
-/

open GridScript.Number
open GridScript.Parsing
open GridScript.Parsing.Lexicon
open GridScript.Parsing.Language
open GridScript.Text

/-! ## Literals and names -/

/-- The digits of a number of 64 bits are read as the number. -/
theorem numberLiteral_digitChars
    {i : Int}
    (nonnegative : 0 ≤ i)
    (fits : i ≤ maxInt)
    (place : Place) :
    numberLiteral ⟨.number, digitChars i.toNat, place⟩ =
      .ok (.literal (.int i) place.line) := by
  have small : i.toNat < 10 ^ 19 := by
    unfold maxInt at fits
    omega
  have short : (digitChars i.toNat).length ≤ maxIntDigits :=
    Nat.le_trans (length_digitChars_le small) (by decide)
  unfold numberLiteral
  simp only [any_digitChars, Bool.false_eq_true, if_false, readInt_digitChars short,
    Int.toNat_of_nonneg nonnegative, gt_iff_lt, Int.not_lt.mpr fits]

theorem inLine_digitChars (n : Nat) : InLine (digitChars n) := by
  have digits : ∀ c ∈ digitChars n, c.isDigit = true :=
    fun c => isDigit_of_mem_digitChars
  constructor
  · obtain ⟨c, rest, chars⟩ := List.exists_cons_of_ne_nil (digitChars_ne_nil n)
    have digit := digits c (by simp [chars])
    refine ⟨c, rest, chars, ?_⟩
    simp [isInlineBlank, ne_of_isDigit digit ' ' (by decide),
      ne_of_isDigit digit '\t' (by decide), ne_of_isDigit digit '\x0c' (by decide)]
  · exact fun c member => ne_of_isDigit (digits c member) '\n' (by decide)

/-- A name stands within a line. -/
theorem IsName.inLine
    {n : String}
    (isName : IsName n) :
    InLine n.toList := by
  have isOther (c d : Char) (isChar : isNameChar c = true)
      (other : isNameChar d = false) :
      c ≠ d := by
    rintro rfl
    rw [isChar] at other
    cases other
  constructor
  · obtain ⟨c, rest, chars, -⟩ := isName.starts
    have isChar := isName.chars c (by simp [chars])
    refine ⟨c, rest, chars, ?_⟩
    simp [isInlineBlank, isOther c ' ' isChar (by decide),
      isOther c '\t' isChar (by decide), isOther c '\x0c' isChar (by decide)]
  · exact fun c member => isOther c '\n' (isName.chars c member) (by decide)

/-- A written text stands within a line, whatever line breaks it stands for. -/
theorem inLine_string (s : String) : InLine (literalText (.string s)) := by
  refine ⟨⟨'"', _, rfl, by decide⟩, List.forall_mem_cons.mpr ⟨by decide,
    List.forall_mem_append.mpr ⟨?_, forall_mem_of_all (by decide)⟩⟩⟩
  intro c member
  obtain ⟨d, -, inEscape⟩ := List.mem_flatMap.mp member
  unfold escapeChar at inEscape
  split at inEscape
  next =>
    exact forall_mem_of_all (P := (· ≠ '\n')) (by decide) c inEscape
  next =>
    split at inEscape
    next =>
      exact forall_mem_of_all (P := (· ≠ '\n')) (by decide) c inEscape
    next =>
      split at inEscape
      next =>
        exact forall_mem_of_all (P := (· ≠ '\n')) (by decide) c inEscape
      next notBreak =>
        rw [List.mem_singleton.mp inEscape]
        exact notBreak

/-- A word for a literal is read as the literal. -/
theorem ReadsAs.ofWord
    {line : Nat}
    {k : Keyword}
    {l : Literal}
    (rule : Rule)
    (member : rule ∈ Rule.all)
    (isAtom : rule.category = .atom)
    (parts : rule.parts = [.terminal (.keyword k)])
    (others :
      ∀ other ∈ Keyword.all, other = k ∨
        differ other.word.toList k.word.toList = true)
    (inLine : InLine k.word.toList)
    (built : ∀ token : Token Terminal,
      buildPhrase rule [.token token] =
        .ok (.expression (.literal l token.place.line))) :
    ReadsAs line .atom (slackOf 9) k.word.toList (.expression (.literal l line)) :=
  .ofLexeme rule member isAtom parts
    (fun _ delimits => first?_keyword others delimits.endsWord) rfl
    inLine fun place onLine => by rw [built, onLine]

/-- A literal is read as itself. -/
theorem reads_literal
    {line : Nat}
    {l : Literal}
    (writable : IsWritableLiteral l) :
    ReadsAs line .atom (slackOf 9) (literalText l)
      (.expression (.literal l line)) := by
  cases l with
  | null =>
      exact .ofWord .nullWord (k := .nullKw) (by decide) rfl rfl (by decide)
        ⟨⟨'n', _, rfl, rfl⟩, forall_mem_of_all (by decide)⟩ fun _ => rfl
  | bool b =>
      cases b with
      | true =>
          exact .ofWord .trueWord (k := .trueKw) (by decide) rfl rfl (by decide)
            ⟨⟨'t', _, rfl, rfl⟩, forall_mem_of_all (by decide)⟩ fun _ => rfl
      | false =>
          exact .ofWord .falseWord (k := .falseKw) (by decide) rfl rfl (by decide)
            ⟨⟨'f', _, rfl, rfl⟩, forall_mem_of_all (by decide)⟩ fun _ => rfl
  | int i =>
      obtain ⟨nonnegative, fits⟩ := writable
      refine .ofLexeme .number (by decide) rfl rfl
        (fun _ delimits => first?_digits (digitChars_ne_nil _)
          (fun c => isDigit_of_mem_digitChars) delimits)
        rfl (inLine_digitChars _) fun place onLine => ?_
      show (numberLiteral _).map Phrase.expression = _
      rw [literalText, numberLiteral_digitChars nonnegative fits, ← onLine]
      rfl
  | float x =>
      exact writable.elim
  | string s =>
      refine .ofLexeme .string (by decide)
        rfl rfl (fun tail _ => first?_string s tail)
        rfl (inLine_string s) fun place onLine => ?_
      show Except.ok (Phrase.expression (stringLiteral _)) = _
      simp [stringLiteral, literalText, unescape_escape, onLine]

/-- A name is read as itself. -/
theorem reads_name
    {line : Nat}
    {n : String}
    (isName : IsName n) :
    ReadsAs line .atom (slackOf 9) n.toList (.expression (.name n line)) := by
  refine .ofLexeme .name (by decide) rfl rfl
    (fun _ delimits => first?_name isName delimits) rfl isName.inLine
    fun place onLine => ?_
  show Except.ok (Phrase.expression (.name _ _)) = _
  simp [Token.string, onLine]

theorem Expression.precedence_le (e : Expression) : e.precedence ≤ 9 := by
  cases e with
  | binary operator left right line =>
      exact Nat.le_trans operator.precedence_le.1 (by decide)
  | _ =>
      simp [precedence]

/-- A writable expression is read as itself where an expression that binds as
tightly may stand. -/
theorem Writable.reads
    {e : Expression}
    (line : Nat)
    (writable : Writable e) :
    ReadsAs line (categoryOf e.precedence) (slackOf e.precedence) e.text
      (.expression (e.onLine line)) := by
  induction writable with
  | literal _ writableLiteral =>
      exact reads_literal writableLiteral
  | name _ isName =>
      exact reads_name isName
  | @unary operator operand _ _ inductionHypothesis =>
      have operandReads :=
        inductionHypothesis.enclose 6 operand.precedence_le (by decide)
      cases operator with
      | negate =>
          exact operandReads.negate (operand.line_onLine line)
      | not =>
          exact operandReads.not
  | @binary operator left right _ _ _ leftHypothesis rightHypothesis =>
      obtain ⟨-, leftBounded, rightBounded⟩ := operator.precedence_le
      exact .binary (leftHypothesis.enclose _ left.precedence_le leftBounded)
        (rightHypothesis.enclose _ right.precedence_le rightBounded)
        (left.line_onLine line)
  | @call n items _ isName _ inductionHypothesis =>
      have itemsRead : ∀ e ∈ items, ReadsBack line e := fun e member =>
        (inductionHypothesis e member).weaken (Nat.zero_le _) e.precedence_le
      have reads := ReadsAs.call isName isName.inLine itemsRead
      rw [← allOnLine_eq_map] at reads
      exact reads
  | @index target position _ _ _ targetHypothesis positionHypothesis =>
      exact .index (targetHypothesis.enclose 8 target.precedence_le (by decide))
        (positionHypothesis.weaken (Nat.zero_le _) position.precedence_le)
        (target.line_onLine line)
  | @array items _ _ inductionHypothesis =>
      have itemsRead : ∀ e ∈ items, ReadsBack line e := fun e member =>
        (inductionHypothesis e member).weaken (Nat.zero_le _) e.precedence_le
      have reads := ReadsAs.array itemsRead
      rw [← allOnLine_eq_map] at reads
      exact reads

/-! ## Assignments -/

/-- A text that is seen to begin and to go on as a name and to be no
keyword is a name. -/
theorem IsName.of_all
    {n : String}
    {c : Char}
    {rest : List Char}
    (chars : n.toList = c :: rest)
    (starts : isNameStart c = true)
    (all : n.toList.all isNameChar = true)
    (others : ∀ k : Keyword, n.toList.map Char.toLower ≠ k.word.toList) :
    IsName n :=
  ⟨⟨c, rest, chars, starts⟩, List.all_eq_true.mp all, others⟩

theorem isName_x : IsName "x" :=
  .of_all rfl rfl rfl fun k => by cases k <;> decide

/-- The line of an assignment. -/
def assignmentLine (e : Expression) : List Char :=
  "x".toList ++ (' ' :: "=".toList ++ (' ' :: e.text ++ ['\n']))

/-- The assignment of an expression spells tokens that derive a program
of that statement. -/
theorem derives_assignment
    {e : Expression}
    (writable : Writable e) :
    ∃ (tokens : List (Token Terminal)) (count : Nat),
      lexicon.Spells .start (assignmentLine e) tokens ∧
      Derives language grammar [.phrase .program] tokens
        [.statements [.assign ⟨"x", [], 1⟩ (e.onLine 1) 1]] count ∧
      count ≤ 12 * tokens.length := by
  have reads :
      ReadsAs 1 .expression (slackOf 0) e.text (.expression (e.onLine 1)) :=
    (writable.reads 1).weaken (Nat.zero_le _) e.precedence_le
  let afterName : Place := Place.start.advance "x".toList
  let afterSign : Place := (afterName.next ' ').advance "=".toList
  let nameToken : Token Terminal := ⟨.name, "x".toList, .start⟩
  let signToken : Token Terminal := ⟨.mark .equal, "=".toList, afterName.next ' '⟩
  have named : lexicon.Segment .start "x".toList [nameToken] afterName
      ((' ' :: "=".toList ++ (' ' :: e.text ++ ['\n'])) ++ []) :=
    .token .start _ (first?_name isName_x (delimits_cons (by decide) _))
      (by decide) rfl
  have sign : lexicon.Segment afterName (' ' :: "=".toList) [signToken] afterSign
      ((' ' :: e.text ++ ['\n']) ++ []) :=
    segment_blank
      (.token (afterName.next ' ') _ (first?_operator (.apply .equal) _)
        (by decide) rfl)
      (BinaryOperator.inLine_sign (.apply .equal)).head (List.cons_ne_nil _ _)
  obtain ⟨tokens, after, count, segment, afterLine, derives, bound⟩ :=
    reads.blank afterSign (['\n'] ++ []) rfl (delimits_cons (by decide) [])
  let breakToken : Token Terminal := ⟨.newline, ['\n'], after⟩
  have ended :
      lexicon.Segment after ['\n'] [breakToken] (after.advance ['\n']) [] :=
    .token after [] rfl (by decide) rfl
  have spells := named.append (sign.append (segment.append ended)) [] (.nil _)
  rw [List.append_nil, List.append_nil] at spells
  have target :
      Derives language grammar [.phrase .target] [nameToken]
        [.target ⟨"x", [], 1⟩] 1 :=
    .of_token Rule.targetName (by decide) nameToken rfl rfl
  have assigned := Derives.of_rule Rule.assign (by decide)
    (target.append (.token signToken derives)) rfl
  have simple :=
    Derives.of_rule (Rule.chain .simpleStatement .assignStatement) (by decide)
    assigned rfl
  have statement := Derives.of_rule Rule.lineStatement (by decide)
    (simple.append (.token breakToken .nil)) rfl
  have statements := Derives.of_rule Rule.firstStatement (by decide) statement rfl
  have program :=
    Derives.of_rule (Rule.program false true) (by decide) statements rfl
  refine ⟨_, _, spells, program, ?_⟩
  simp only [List.length_append, List.length_cons, List.length_nil]
  omega

/-- The text of an assignment is the line without its end. -/
theorem endLine_assignment
    {e : Expression}
    (writable : Writable e) :
    endLine ("x = " ++ String.ofList e.text).toList = assignmentLine e := by
  have inLine := (writable.reads 1).inLine
  have chars : ("x = " ++ String.ofList e.text).toList =
      "x".toList ++ (' ' :: "=".toList ++ ' ' :: e.text) := by
    simp
  have noBreak :
      ∀ c ∈ "x".toList ++ (' ' :: "=".toList ++ ' ' :: e.text), c ≠ '\n' :=
    List.forall_mem_append.mpr ⟨forall_mem_of_all (by decide),
        List.forall_mem_cons.mpr ⟨by decide,
      List.forall_mem_append.mpr ⟨forall_mem_of_all (by decide),
        List.forall_mem_cons.mpr ⟨by decide, inLine.noBreak⟩⟩⟩⟩
  have notEnded : ("x = " ++ String.ofList e.text).toList.getLast? ≠ some '\n' := by
    rw [chars]
    exact fun isLast => noBreak '\n' (List.mem_of_getLast? isLast) rfl
  rw [endLine, if_neg notEnded, chars]
  simp [assignmentLine]

/--
A written expression is read back.

Assigning it to a variable is a program of that one statement, whose value is
the expression with all its nodes on the first line: with the precedence and the
associativity that it was written by.
-/
theorem parse_assignment
    {e : Expression}
    (writable : Writable e) :
    parse ("x = " ++ String.ofList e.text) =
      .ok ⟨[.assign ⟨"x", [], 1⟩ (e.onLine 1) 1]⟩ := by
  obtain ⟨tokens, count, spells, derives, bound⟩ := derives_assignment writable
  have short := spells.length_le
  have enough : count + 2 * tokens.length + 2 ≤ stepLimit (assignmentLine e) := by
    unfold stepLimit
    omega
  have accepted :=
    parse_of_derives complete_language spells derives (by decide +kernel) rfl enough
  unfold parse
  rw [endLine_assignment writable, accepted]
  rfl

/-- A condition with operands that need parentheses and operands that do not. -/
def sampleCondition : Expression :=
  .binary .disjunction
    (.unary .not (.name "done" 1) 1)
    (.binary (.apply .equal)
      (.binary (.apply .pow)
        (.unary .negate (.name "rate" 1) 1)
        (.unary .negate (.index (.call "keys" [.literal (.int 2) 1, .array [] 1] 1)
          (.literal (.int 0) 1) 1) 1) 1)
      (.binary (.apply .sub)
        (.name "base" 1)
        (.binary (.apply .concat) (.literal (.bool true) 1)
          (.literal (.string "\"") 1) 1) 1) 1) 1

example :
    String.ofList sampleCondition.text =
      "not done or (-rate) ^ -keys(2, [])[0] = base - (true & \"\\\"\")" := by
  decide +kernel

/-- The names of the sample condition are no keywords. -/
theorem parse_assignment_sampleCondition :
    Writable sampleCondition ∧
    parse ("x = " ++ String.ofList sampleCondition.text) =
      .ok ⟨[.assign ⟨"x", [], 1⟩ (sampleCondition.onLine 1) 1]⟩ := by
  have done : IsName "done" := .of_all rfl rfl rfl fun k => by cases k <;> decide
  have rate : IsName "rate" := .of_all rfl rfl rfl fun k => by cases k <;> decide
  have keys : IsName "keys" := .of_all rfl rfl rfl fun k => by cases k <;> decide
  have base : IsName "base" := .of_all rfl rfl rfl fun k => by cases k <;> decide
  have arguments :
      ∀ e ∈ [Expression.literal (.int 2) 1, .array [] 1], Writable e := by
    intro e member
    rcases List.mem_pair.mp member with rfl | rfl
    · exact .literal 1 ⟨by decide, by decide⟩
    · exact .array 1 nofun
  have index : Writable (.index (.call "keys" [.literal (.int 2) 1, .array [] 1] 1)
      (.literal (.int 0) 1) 1) :=
    .index 1 (.call 1 keys arguments) (.literal 1 ⟨by decide, by decide⟩)
  have power : Writable (.binary (.apply .pow) (.unary .negate (.name "rate" 1) 1)
      (.unary .negate (.index (.call "keys" [.literal (.int 2) 1, .array [] 1] 1)
        (.literal (.int 0) 1) 1) 1) 1) :=
    .binary _ 1 (.unary _ 1 (.name 1 rate)) (.unary _ 1 index)
  have writable : Writable sampleCondition :=
    .binary _ 1 (.unary _ 1 (.name 1 done)) (.binary _ 1 power
      (.binary _ 1 (.name 1 base)
        (.binary _ 1 (.literal 1 trivial) (.literal 1 trivial))))
  exact ⟨writable, parse_assignment writable⟩

end GridScript.Script
