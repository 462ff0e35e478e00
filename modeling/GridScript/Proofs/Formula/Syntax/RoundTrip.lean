import GridScript.Proofs.Formula.Syntax.Reading
import GridScript.Proofs.Parsing.Completeness
import GridScript.Proofs.Parsing.Invariant

namespace GridScript.Formula

/-!
# Written formulas are read back

Every writable expression is read as itself, wherever an expression that binds
as tightly may stand. Since the table of formulas is complete, the parser reads
a written formula as its expression, with or without an equals sign before it.

A rule puts the expressions of its parts together, or it makes an expression of
one token. So what the atoms of an expression hold was in the tokens that it was
read from. Integers are written by digits, and no more of them are read than
integers may have: no formula is read as an expression with a longer integer.
-/

open GridScript.Number
open GridScript.Parsing
open GridScript.Parsing.Lexicon
open GridScript.Parsing.Language
open GridScript.Text

/-! ## Lists gathered from expressions -/

/-- The list of an expression is put together from the lists of its
operands or arguments. -/
structure Gathers {α : Type} (gather : Expression → List α) : Prop where
  signed (sign : Sign) (operand : Expression) : gather (.signed sign operand) =
    gather operand
  binary (operator : Operator) (left right : Expression) :
    gather (.binary operator left right) = gather left ++ gather right
  call (function : String) (items : List Expression) :
    gather (.call function items) = items.flatMap gather

section Gathers

variable {α : Type} (gather : Expression → List α)

/-- What is gathered from the expressions of a phrase. -/
def Phrase.gathered : Phrase → List α
  | token _ => []
  | expression e => gather e
  | arguments items => items.flatMap gather

@[grind =] theorem Phrase.gathered_expression (e : Expression) :
    (expression e).gathered gather = gather e :=
  rfl

@[grind =] theorem Phrase.gathered_arguments (items : List Expression) :
    (arguments items).gathered gather = items.flatMap gather :=
  rfl

/-- A phrase that is no list of arguments has none. -/
theorem Phrase.mem_gathered_of_argumentList
    {phrase : Phrase}
    {a : α}
    (member : a ∈ phrase.argumentList.flatMap gather) :
    a ∈ phrase.gathered gather := by
  cases phrase with
  | arguments items =>
      exact member
  | _ =>
      cases member

/-- The expression that a rule makes of one token; what is made of a number is
checked elsewhere. -/
def Rule.atom? (token : Token Terminal) : Rule → Option Expression
  | truth => some (truthLiteral token)
  | string => some (stringLiteral token)
  | quotedSheetRange | sheetRange => some (.reference (.ofSheetRange token.text))
  | quotedSheetCell | sheetCell => some (.reference (.ofSheetCell token.text))
  | range => some (.reference (.ofRange token.text))
  | cell => some (.reference (.ofCell token.text))
  | dollarName | name => some (.name token.string)
  | _ => none

variable {gather}

/-- A rule whose atoms hold nothing makes a phrase that holds
what its parts hold. -/
theorem Gathers.phrase?
    {rule : Rule}
    {parts : List Phrase}
    {phrase : Phrase}
    (gathers : Gathers gather)
    (empty : ∀ token atom, rule.atom? token = some atom → gather atom = [])
    (built : phrase? rule parts = some phrase) :
    phrase.gathered gather ⊆ parts.flatMap (Phrase.gathered gather) := by
  obtain ⟨signed, binary, call⟩ := gathers
  intro a member
  have none {token : Token Terminal} {atom : Expression}
      (isAtom : rule.atom? token = some atom) :
      a ∉ gather atom := by
    rw [empty token atom isAtom]
    exact List.not_mem_nil
  unfold Formula.phrase? at built
  split at built <;> cases built
  any_goals grind [Phrase.mem_gathered_of_argumentList]
  all_goals exact absurd member (none rfl)

/-- A rule other than that of numbers is built in this way, or has no
parts to build from. -/
theorem Gathers.buildPhrase
    {rule : Rule}
    {parts : List Phrase}
    (gathers : Gathers gather)
    (empty : ∀ token atom, rule.atom? token = some atom → gather atom = []) :
    ((Formula.phrase? rule parts).getD (.arguments [])).gathered gather ⊆
      parts.flatMap (Phrase.gathered gather) := by
  cases built : Formula.phrase? rule parts with
  | some phrase =>
      exact gathers.phrase? empty built
  | none =>
      exact List.nil_subset _

end Gathers

/-! ## Integers -/

theorem gathers_integers : Gathers Expression.integers where
  signed _ _ := rfl
  binary _ _ _ := rfl
  call _ items := by
    rw [Expression.integers]
    induction items with
    | nil =>
        rfl
    | cons e items inductionHypothesis =>
        rw [Expression.integersOfAll, inductionHypothesis, List.flatMap_cons]

/-- All integers of a phrase are short. -/
def Phrase.Short (phrase : Phrase) : Prop :=
  ∀ i ∈ phrase.gathered Expression.integers, IsShort i

/-- A number that is read is short. -/
theorem numberLiteral_short (token : Token Terminal) :
    Meets (fun _ => True) Phrase.Short (numberLiteral token) := by
  unfold numberLiteral
  dsimp only
  split
  · exact .ok nofun
  · split
    next i read =>
      exact .ok (List.forall_mem_singleton.mpr (length_digitChars_of_readInt read))
    next =>
      exact .error trivial
    next =>
      exact .ok (List.forall_mem_singleton.mpr (by unfold IsShort; decide))

/-- Only numbers are integers. -/
theorem integers_of_atom?
    {rule : Rule}
    {token : Token Terminal}
    {atom : Expression}
    (isAtom : rule.atom? token = some atom) :
    atom.integers = [] := by
  unfold Rule.atom? at isAtom
  split at isAtom <;> cases isAtom <;> rfl

theorem handsOn_short :
    language.HandsOn (fun _ => True) Phrase.Short (fun _ => True) where
  read _ := trivial
  finish _ := trivial
  leaf _ := nofun
  build rule parts short := by
    unfold language buildPhrase
    dsimp only
    split
    next token =>
      exact numberLiteral_short token
    next =>
      refine .ok fun i member => ?_
      have inParts :=
        gathers_integers.buildPhrase (fun _ _ => integers_of_atom?) member
      obtain ⟨part, isPart, inPart⟩ := List.mem_flatMap.mp inParts
      exact short part isPart i inPart

/-- An expression that is read is accepted by the table. -/
theorem accepted_of_parse
    {text : String}
    {e : Expression}
    (parsed : parse text = .ok e) :
    language.parse (body text.toList).1 = .accepted (.ok (.expression e)) := by
  unfold parse at parsed
  dsimp only at parsed
  split at parsed
  next =>
    cases parsed
  next =>
    split at parsed <;> cases parsed
    assumption

/-- The integers of an expression that is read are short. -/
theorem short_of_parse
    {text : String}
    {e : Expression}
    (parsed : parse text = .ok e) :
    ∀ i ∈ e.integers, IsShort i :=
  (Language.parse_meets handsOn_short (accepted_of_parse parsed)).of_ok rfl

/-! ## Atoms -/

/-- A character of a name can stand at either end of an operand. -/
theorem visible_of_isNameChar
    {c : Char}
    (isChar : isNameChar c = true) :
    isBlank c = false ∧ c ≠ '=' ∧ c ≠ '>' := by
  refine ⟨isBlank_of_isNameChar isChar, ?_, ?_⟩
  · rintro rfl
    cases isChar
  · rintro rfl
    cases isChar

theorem isOperand_of_name
    {name : List Char}
    (nonempty : name ≠ [])
    (inside : ∀ c ∈ name, isNameChar c = true) :
    IsOperand name :=
  .of_forall nonempty fun c member => visible_of_isNameChar (inside c member)

/-- The digits of a number that has not too many of them are read as the number. -/
theorem numberLiteral_digitChars
    {i : Int}
    (nonnegative : 0 ≤ i)
    (short : IsShort i)
    (place : Place) :
    numberLiteral ⟨.number, digitChars i.toNat, place⟩ =
      .ok (.expression (.literal (.int i))) := by
  unfold numberLiteral
  simp only [any_digitChars, Bool.false_eq_true, if_false, readInt_digitChars short,
    Int.toNat_of_nonneg nonnegative]

variable (style : Style)

/-- A literal is read as itself. -/
theorem reads_literal
    {l : Literal}
    (writable : IsWritableLiteral l)
    (short : ∀ i ∈ (Expression.literal l).integers, IsShort i) :
    ReadsAs .atom (slackOf 8) (literalText l) (.expression (.literal l)) := by
  cases l with
  | null =>
      exact writable.elim
  | bool b =>
      have operand : IsOperand (literalText (.bool b)) :=
        isOperand_of_name (by cases b <;> decide)
          (forall_mem_of_all (by cases b <;> decide))
      have isTruth :
          (upper (String.ofList (literalText (.bool b))) == "TRUE") = b := by
        cases b <;> decide +kernel
      refine .ofLexeme .truth (by decide) rfl rfl (fun tail => first?_truth b)
        rfl operand fun place => ?_
      show Except.ok
        (Phrase.expression (.literal (.bool (upper (String.ofList _) == "TRUE")))) =
          _
      rw [isTruth]
  | int i =>
      have allDigits : ∀ c ∈ digitChars i.toNat, c.isDigit = true := fun c =>
        isDigit_of_mem_digitChars
      exact .ofLexeme .number (by decide) rfl rfl
        (fun tail => first?_digits (digitChars_ne_nil _) allDigits) rfl
        (isOperand_of_name (digitChars_ne_nil _) fun c member =>
          isNameChar_of_isDigit (allDigits c member))
        fun place =>
          numberLiteral_digitChars writable (short i List.mem_cons_self) place
  | float x =>
      exact writable.elim
  | string s =>
      refine .ofLexeme .string (by decide)
        rfl rfl (fun tail _ => first?_string writable tail) rfl
        (.enclosed (by decide) rfl _) fun place => ?_
      show Except.ok (Phrase.expression (stringLiteral _)) = _
      have isBody := (paired_escape writable).isBody
      simp [stringLiteral, literalText, decodeString_eq_decodeOnce isBody,
        decodeOnce_escape]

/-- A name is read as itself. -/
theorem reads_name
    {n : String}
    (isName : IsName n) :
    ReadsAs .atom (slackOf 8) n.toList (.expression (.name n)) := by
  have nonempty : n.toList ≠ [] := by
    obtain ⟨c, rest, chars, -⟩ := isName.starts
    simp [chars]
  refine .ofLexeme .name (by decide) rfl rfl (fun tail => first?_name isName) rfl
    (isOperand_of_name nonempty isName.chars) fun place => ?_
  show Except.ok (Phrase.expression (.name (String.ofList n.toList))) = _
  rw [String.ofList_toList]

/-- A written sheet name can stand at the beginning of an operand. -/
theorem isOperand_sheetText
    (name : String) :
    IsOperand (style.sheetText name) := by
  unfold Style.sheetText
  split
  next plain =>
    obtain ⟨⟨c, rest, chars, -⟩, inside⟩ :=
      isName_of_isPlainSheet (Bool.and_eq_true_iff.mp plain).1
    have mark : IsOperand ['!'] :=
      .of_forall (List.cons_ne_nil _ _) (forall_mem_of_all (by decide))
    exact (isOperand_of_name (by simp [chars]) inside).append mark.nonempty
      mark.last
  next =>
    have quoted : IsOperand ('\'' :: (name.toList ++ ['\'']) ++ ['!']) :=
      .enclosed (by decide) rfl _
    simpa using quoted

theorem isOperand_reference
    {r : Reference}
    (writable : IsWritableReference r) :
    IsOperand (style.referenceText r) := by
  have addresses : ∃ addresses, IsOperand addresses ∧
      ∃ sheet, style.referenceText r = style.qualifierText sheet ++ addresses := by
    cases r with
    | cell sheet address =>
        obtain ⟨-, isAddress⟩ := writable
        exact ⟨_, isOperand_of_name isAddress.ne_nil fun _ => isAddress.nameChar,
          sheet, rfl⟩
    | range sheet start finish =>
        obtain ⟨-, isStart, isFinish⟩ := writable
        have first := isOperand_of_name isStart.ne_nil fun _ => isStart.nameChar
        have second := isOperand_of_name isFinish.ne_nil fun _ => isFinish.nameChar
        have last : ∀ c ∈ (':' :: finish.toList).getLast?, isBlank c = false := by
          rw [← List.singleton_append,
            List.getLast?_append_of_ne_nil _ second.nonempty]
          exact second.last
        exact ⟨_, first.append (List.cons_ne_nil _ _) last, sheet, rfl⟩
  obtain ⟨addresses, operand, sheet, text⟩ := addresses
  rw [text]
  cases sheet with
  | none =>
      exact operand
  | some name =>
      exact (isOperand_sheetText style name).append operand.nonempty operand.last

/-- A reference is read as itself. -/
theorem reads_reference
    {r : Reference}
    (writable : IsWritableReference r) :
    ReadsAs .atom (slackOf 8) (style.referenceText r)
      (.expression (.reference r)) := by
  obtain ⟨rule, member, isAtom, parts, built⟩ :=
    exists_rule_of_reference style writable
  exact .ofLexeme rule member isAtom parts
    (fun tail => first?_reference style writable)
    (style.kept r) (isOperand_reference style writable) built

/-- The name of a function is in capitals already. -/
theorem IsFunction.upper
    {f : String}
    (isFunction : IsFunction f) :
    upper f = f := by
  have same := upper_of_upperChar fun c member =>
    upperChar_of_isCapital (isFunction.capitals c member)
  rwa [String.ofList_toList] at same

/-! ## Expressions -/

theorem Expression.level_le (e : Expression) : e.level ≤ 8 := by
  cases e with
  | binary operator left right =>
      exact Nat.le_trans (level_bounds operator).1 (by decide)
  | signed sign operand =>
      have each : ∀ sign, signLevel sign ≤ 8 := fun sign => by
        cases sign <;> decide
      exact each sign
  | _ =>
      exact Nat.le_refl 8

/-- A writable expression is read as itself where an expression that binds as
tightly may stand. -/
theorem Writable.reads
    {e : Expression}
    (writable : Writable e)
    (short : ∀ i ∈ e.integers, IsShort i) :
    ReadsAs (categoryOf e.level) (slackOf e.level) (style.text e)
      (.expression e) := by
  induction writable with
  | literal isLiteral =>
      exact reads_literal isLiteral short
  | reference isReference =>
      exact reads_reference style isReference
  | name isName =>
      exact reads_name isName
  | @signed sign operand _ inductionHypothesis =>
      have reads := inductionHypothesis short
      cases sign with
      | minus =>
          exact (reads.enclose 5 operand.level_le (by decide)).signed .minus
            (by decide) rfl rfl (by decide) fun _ => rfl
      | plus =>
          exact (reads.enclose 5 operand.level_le (by decide)).signed .plus
            (by decide) rfl rfl (by decide) fun _ => rfl
      | percent =>
          exact (reads.enclose 7 operand.level_le (by decide)).percent
  | @binary operator left right inFormulas _ _ leftHypothesis rightHypothesis =>
      obtain ⟨-, leftBounded, rightBounded⟩ := level_bounds operator
      have leftReads :=
        leftHypothesis fun i member => short i (List.mem_append_left _ member)
      have rightReads :=
        rightHypothesis fun i member => short i (List.mem_append_right _ member)
      exact .binary style inFormulas (leftReads.enclose _ left.level_le leftBounded)
        (rightReads.enclose _ right.level_le rightBounded)
  | @call f items isFunction _ inductionHypothesis =>
      have itemsRead : ∀ e ∈ items, ReadsBack style e := fun e member =>
        (inductionHypothesis e member fun i inside =>
          short i (Expression.mem_integersOfAll.mpr ⟨e, member, inside⟩)).weaken
            (Nat.zero_le _)
          e.level_le
      exact .call isFunction
        (isOperand_of_name isFunction.nonempty fun c member =>
          isNameChar_of_isNameStart
            (isNameStart_of_isCapital (isFunction.capitals c member)))
        isFunction.upper itemsRead

/-! ## Formulas -/

/-- The text of a formula, with or without an equals sign before its expression. -/
def Style.formula (equals : Bool) (e : Expression) : String :=
  String.ofList ((if equals then ['='] else []) ++ style.text e)

/-- The body of a formula is what stands after its sign. -/
theorem body_of_operand
    {text : List Char}
    (operand : IsOperand text)
    (equals : Bool) :
    (body ((if equals then ['='] else []) ++ text)).1 = text := by
  have visible : ∀ c ∈ text.head?, isBlank c = false := fun c isFirst =>
    (operand.head c isFirst).1
  unfold body
  cases equals with
  | true =>
      have first : ∀ c ∈ (['='] ++ text).head?, isBlank c = false := by
        intro c isFirst
        cases isFirst
        rfl
      have last : ∀ c ∈ (['='] ++ text).getLast?, isBlank c = false := by
        rw [List.getLast?_append_of_ne_nil _ operand.nonempty]
        exact operand.last
      have trimmed : trim (['='] ++ text) = '=' :: text :=
        trim_of_visible first last
      simp only [if_true, trimmed]
  | false =>
      -- No operand begins with the sign, so nothing is cut.
      have noSign : ∀ rest, text ≠ '=' :: rest := fun rest isSign =>
        (operand.head '=' (by rw [isSign]; rfl)).2.1 rfl
      simp only [Bool.false_eq_true, if_false, List.nil_append,
        trim_of_visible visible operand.last]

theorem IsOperand.trim_nonempty
    {text : List Char}
    (operand : IsOperand text) :
    (trim text).isEmpty = false := by
  rw [trim_of_visible (fun c isFirst => (operand.head c isFirst).1) operand.last]
  simpa using operand.nonempty

/-- A text that is read as an expression spells tokens that derive it. -/
theorem parse_text
    {text : List Char}
    {e : Expression}
    (reads : ReadsAs .expression (slackOf 0) text (.expression e)) :
    language.parse text = .accepted (.ok (.expression e)) := by
  obtain ⟨tokens, after, count, segment, derives, bound⟩ :=
    reads.derives .start [] .nil
  have spells := segment [] (.nil _)
  rw [List.append_nil, List.append_nil] at spells
  have formula := Derives.of_rule Rule.formula (by decide) derives rfl
  have short := spells.length_le
  have enough : count + 1 + 2 * tokens.length + 2 ≤ stepLimit text := by
    unfold stepLimit
    simp only [slackOf] at bound
    omega
  exact parse_of_derives complete_language spells formula (by decide +kernel)
    rfl enough

/-- A text that is read as an expression is a formula, with or without an
equals sign before it. -/
theorem parse_of_reads
    {text : List Char}
    {e : Expression}
    (reads : ReadsAs .expression (slackOf 0) text (.expression e))
    (equals : Bool) :
    parse (String.ofList ((if equals then ['='] else []) ++ text)) = .ok e := by
  unfold parse
  dsimp only
  rw [String.toList_ofList, body_of_operand reads.operand equals,
    reads.operand.trim_nonempty, parse_text reads]
  rfl

/-- A written formula is read back if its integers are short. -/
theorem parse_formula_of_short
    {e : Expression}
    (writable : Writable e)
    (short : ∀ i ∈ e.integers, IsShort i)
    (equals : Bool) :
    parse (style.formula equals e) = .ok e := by
  have reads : ReadsAs .expression (slackOf 0) (style.text e) (.expression e) :=
    (writable.reads style short).weaken (Nat.zero_le _) e.level_le
  exact parse_of_reads reads equals

/--
A written formula is read back, unless it has an integer of more
digits than are read.

Parentheses stand only where the levels ask for them, so the formula is read
with the precedence and the associativity that it was written by.
-/
theorem parse_formula
    {e : Expression}
    (writable : Writable e)
    (equals : Bool) :
    parse (style.formula equals e) = .ok e ↔ ∀ i ∈ e.integers, IsShort i :=
  ⟨short_of_parse, fun short => parse_formula_of_short style writable short equals⟩

/-- One blank around operators and after commas, and quotes only around sheet
names that need them. -/
def Style.spaced : Style where
  gap := [' ']
  isGap := List.forall_mem_singleton.mpr rfl
  quotes _ := false

/-- A formula with operands that need parentheses and operands that do not. -/
def sampleFormula : Expression :=
  .binary .greaterEqual
    (.binary .concat
      (.binary .pow
        (.binary .add (.literal (.int 1)) (.name "rate"))
        (.signed .minus (.signed .percent (.reference (.cell none "A1")))))
      (.literal (.string "\"")))
    (.binary .sub
      (.call "SUM" [.reference (.range (some "My Sheet") "B2" "C4"),
        .signed .plus (.reference (.cell (some "Q1") "D5"))])
      (.binary .mul
        (.binary .sub (.literal (.int 2)) (.literal (.int 3)))
        (.literal (.bool true))))

example :
    Style.spaced.formula true sampleFormula =
      "=(1 + rate) ^ -A1% & \"\\\"\" >= " ++
        "SUM('My Sheet'!B2:C4, +Q1!D5) - (2 - 3) * TRUE" := by
  decide +kernel

theorem isAddress_of_pair
    (letter digit : Char)
    (capital : Address.isCapital letter = true)
    (isDigit : digit.isDigit = true) :
    IsAddress (String.ofList [letter, digit]) :=
  ⟨[letter], [digit], by simp, by simp, by simp, by simpa using capital, by simp,
    by simpa using isDigit⟩

/-- The sample formula has the texts and names that formulas may have. -/
theorem parse_formula_sample :
    Writable sampleFormula ∧
    (∀ i ∈ sampleFormula.integers, IsShort i) ∧
    parse (Style.spaced.formula true sampleFormula) = .ok sampleFormula := by
  have rate : IsName "rate" :=
    ⟨⟨'r', _, rfl, rfl⟩, forall_mem_of_all (by decide), by decide, by decide⟩
  have sum : IsFunction "SUM" :=
    ⟨by decide, forall_mem_of_all (by decide), by decide, by decide⟩
  have range : Writable (.reference (.range (some "My Sheet") "B2" "C4")) :=
    .reference ⟨fun name isName => Option.some.inj isName ▸ ⟨by decide, by decide⟩,
      isAddress_of_pair 'B' '2' rfl rfl,
      isAddress_of_pair 'C' '4' rfl rfl⟩
  have onSheet : Writable (.reference (.cell (some "Q1") "D5")) :=
    .reference ⟨fun name isName => Option.some.inj isName ▸ ⟨by decide, by decide⟩,
      isAddress_of_pair 'D' '5' rfl rfl⟩
  have cell : Writable (.reference (.cell none "A1")) :=
    .reference ⟨nofun, isAddress_of_pair 'A' '1' rfl rfl⟩
  have arguments :
      ∀ e ∈ [Expression.reference (.range (some "My Sheet") "B2" "C4"),
        .signed .plus (.reference (.cell (some "Q1") "D5"))], Writable e := by
    intro e member
    rcases List.mem_pair.mp member with rfl | rfl
    · exact range
    · exact .signed .plus onSheet
  have int (n : Nat) : Writable (.literal (.int n)) :=
    .literal (Int.natCast_nonneg n)
  have left :
      Writable (.binary .pow (.binary .add (.literal (.int 1)) (.name "rate"))
        (.signed .minus (.signed .percent (.reference (.cell none "A1"))))) :=
    .binary (by decide) (.binary (by decide) (int 1) (.name rate))
      (.signed .minus (.signed .percent cell))
  have right :
      Writable (.binary .mul (.binary .sub (.literal (.int 2)) (.literal (.int 3)))
      (.literal (.bool true))) :=
    .binary (by decide) (.binary (by decide) (int 2) (int 3)) (.literal trivial)
  have writable : Writable sampleFormula :=
    .binary (by decide)
      (.binary (by decide) left (.literal (by unfold IsWritableLiteral; decide)))
      (.binary (by decide) (.call sum arguments) right)
  have short : ∀ i ∈ sampleFormula.integers, IsShort i := by
    unfold IsShort
    decide
  exact ⟨writable, short, (parse_formula Style.spaced writable true).mpr short⟩

/-- An integer with one digit more than are read is written, but not read back. -/
theorem parse_formula_longInteger :
    Writable (.literal (.int (10 ^ maxIntDigits : Nat))) ∧
    parse (Style.spaced.formula true (.literal (.int (10 ^ maxIntDigits : Nat)))) ≠
      .ok (.literal (.int (10 ^ maxIntDigits : Nat))) := by
  refine ⟨.literal (Int.natCast_nonneg _), fun parsed => ?_⟩
  have short : (digitChars (10 ^ maxIntDigits)).length ≤ maxIntDigits :=
    short_of_parse parsed (10 ^ maxIntDigits : Nat) List.mem_cons_self
  exact Nat.lt_irrefl _
    ((Nat.length_toDigits_le_iff (by decide) (by decide)).mp short)

/-! ## Strings -/

/--
Strings are read as they were written.

A string is a quote, a text in which every quote follows an odd number of
backslashes and the last run of backslashes is even, and a quote. Its two
passes of decoding do what one pass does. So every text of one line, written
between quotes with a backslash before its quotes and backslashes, is one
string, and is read as the text.
-/
theorem strings_decoded :
    (∀ cs n, stringLength? cs = some n ↔
      ∃ body tail, cs = '"' :: (body ++ '"' :: tail) ∧ n = body.length + 2 ∧
        IsBody body) ∧
    (∀ body, IsBody body →
      decodeString body = decodeOnce body ∧
        ∀ place,
          stringLiteral ⟨.string, '"' :: (body ++ ['"']), place⟩ =
            .literal (.string (String.ofList (decodeOnce body)))) ∧
    ∀ s : String, '\n' ∉ s.toList →
      (∀ tail, lexicon.first? (fun _ => true) (literalText (.string s) ++ tail) =
        some (.string, (literalText (.string s)).length)) ∧
      (∀ place,
        stringLiteral ⟨.string, literalText (.string s), place⟩ =
          .literal (.string s)) ∧
      ∀ equals : Bool,
        parse
            (String.ofList
              ((if equals then ['='] else []) ++ literalText (.string s))) =
          .ok (.literal (.string s)) := by
  have decoded {body : List Char} (isBody : IsBody body) (place : Place) :
      stringLiteral ⟨.string, '"' :: (body ++ ['"']), place⟩ =
        .literal (.string (String.ofList (decodeOnce body))) := by
    rw [stringLiteral, List.drop_one, List.tail_cons, List.dropLast_concat,
      decodeString_eq_decodeOnce isBody]
  refine ⟨fun cs n => stringLength?_eq_some_iff,
    fun body isBody => ⟨decodeString_eq_decodeOnce isBody, decoded isBody⟩,
    fun s oneLine => ⟨first?_string oneLine, fun place => ?_, fun equals => ?_⟩⟩
  · have read := decoded (paired_escape oneLine).isBody place
    rwa [decodeOnce_escape, String.ofList_toList] at read
  · have writable : IsWritableLiteral (.string s) := oneLine
    exact parse_formula_of_short Style.spaced (.literal writable)
      (by simp [Expression.integers]) equals

/-- An escaped backslash before an escaped quote, and a backslash
that escapes nothing. -/
theorem strings_decoded_backslashes :
    IsBody "a\\\\\\\"\\b".toList ∧
      decodeString "a\\\\\\\"\\b".toList = "a\\\"\\b".toList ∧
      literalText (.string "a\\\"\\b") = "\"a\\\\\\\"\\\\b\"".toList ∧
      parse "=\"a\\\\\\\"\\\\b\"" = .ok (.literal (.string "a\\\"\\b")) := by
  have isBody : IsBody "a\\\\\\\"\\b".toList := by
    have paired : Paired ['a', '\\', '\\', '\\', '"', '\\', 'b'] :=
      .plain (by decide) (by decide) (by decide)
        (.pair (by decide) (.pair (by decide) (.pair (by decide) .nil)))
    exact paired.isBody
  obtain ⟨-, bodies, texts⟩ := strings_decoded
  refine ⟨isBody, ?_, by decide +kernel, ?_⟩
  · rw [(bodies _ isBody).1]
    decide +kernel
  · exact (texts "a\\\"\\b" (by decide +kernel)).2.2 true

end GridScript.Formula
