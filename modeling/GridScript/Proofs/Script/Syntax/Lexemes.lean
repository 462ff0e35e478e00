import GridScript.Proofs.Number.Reading
import GridScript.Proofs.Parsing.Spelling
import GridScript.Proofs.Text.Letters
import GridScript.Script.Parser

namespace GridScript.Script

/-!
# Written expressions and their lexemes

An expression is written with single spaces around its binary operators and
after its commas, with escapes in its texts, and with parentheses only around
operands that bind less tightly than their place asks for. What can be written
are expressions without floats whose integers are not negative and whose names
are no keywords in any letter case.

The first lexeme of a text, for each kind of lexeme that written expressions
have. A name, a number or a word is followed by a character that ends it.
-/

open GridScript.Number
open GridScript.Parsing
open GridScript.Parsing.Lexicon
open GridScript.Text

/-! ## Written expressions -/

namespace BinaryOperator

/-- How tightly an operator binds: from `or` over `and`, comparisons, sums and
products to powers, with the unary operators between products and powers. -/
def precedence : BinaryOperator → Nat
  | disjunction => 1
  | conjunction => 2
  | apply .equal | apply .notEqual => 3
  | apply .less | apply .lessEqual | apply .greater | apply .greaterEqual => 3
  | apply .add | apply .sub | apply .concat => 4
  | apply .mul | apply .div | apply .mod => 5
  | apply .pow => 7

/-- How tightly a left operand has to bind: operators other than powers are left
associative, and the base of a power is a postfix expression. -/
def leftPrecedence : BinaryOperator → Nat
  | apply .pow => 8
  | operator => operator.precedence

/-- How tightly a right operand has to bind: more than its operator, but an
exponent may be a unary expression. -/
def rightPrecedence : BinaryOperator → Nat
  | apply .pow => 6
  | operator => operator.precedence + 1

end BinaryOperator

/-- A character of a text, with a backslash if it needs one. -/
def escapeChar (c : Char) : List Char :=
  if c = '\\' then ['\\', '\\']
  else if c = '"' then ['\\', '"']
  else if c = '\n' then ['\\', 'n']
  else [c]

/-- The characters of a literal. -/
def literalText : Literal → List Char
  | .null => "null".toList
  | .bool true => "true".toList
  | .bool false => "false".toList
  | .int i => digitChars i.toNat
  | .float x => (floatText x).toList
  | .string s => '"' :: s.toList.flatMap escapeChar ++ ['"']

namespace Expression

/-- How tightly an expression binds: an index more than a power, and
everything else most. -/
def precedence : Expression → Nat
  | binary operator _ _ _ => operator.precedence
  | unary _ _ _ => 6
  | index _ _ _ => 8
  | _ => 9

/-- The characters of an operand, in parentheses if it binds less
tightly than it has to. -/
def enclose (operand : Expression) (least : Nat) (text : List Char) : List Char :=
  if operand.precedence < least then '(' :: text ++ [')'] else text

mutual

/-- The characters of an expression. -/
def text : Expression → List Char
  | literal l _ => literalText l
  | name n _ => n.toList
  | unary .negate operand _ => '-' :: operand.enclose 6 operand.text
  | unary .not operand _ => "not ".toList ++ operand.enclose 6 operand.text
  | binary operator left right _ =>
      left.enclose operator.leftPrecedence left.text ++
        ' ' :: operator.sign.toList ++
        ' ' :: right.enclose operator.rightPrecedence right.text
  | call n arguments _ => n.toList ++ '(' :: textOfAll arguments ++ [')']
  | index target position _ =>
      target.enclose 8 target.text ++ '[' :: position.text ++ [']']
  | array items _ => '[' :: textOfAll items ++ [']']

/-- The characters of some expressions between commas. -/
def textOfAll : List Expression → List Char
  | [] => []
  | [e] => e.text
  | e :: next :: rest => e.text ++ ", ".toList ++ textOfAll (next :: rest)

end

mutual

/-- The expression with all its nodes on one line. -/
def onLine (line : Nat) : Expression → Expression
  | literal l _ => literal l line
  | name n _ => name n line
  | unary operator operand _ => unary operator (operand.onLine line) line
  | binary operator left right _ =>
      binary operator (left.onLine line) (right.onLine line) line
  | call n arguments _ => call n (allOnLine line arguments) line
  | index target position _ =>
      index (target.onLine line) (position.onLine line) line
  | array items _ => array (allOnLine line items) line

/-- The expressions with all their nodes on one line. -/
def allOnLine (line : Nat) : List Expression → List Expression
  | [] => []
  | e :: rest => e.onLine line :: allOnLine line rest

end

/-- The line of an expression on one line. -/
@[simp] theorem line_onLine
    (line : Nat)
    (e : Expression) :
    (e.onLine line).line = line := by
  cases e <;> simp [onLine, Expression.line]

end Expression

/-- A name: a letter or underscore before letters, digits and underscores, and
no keyword in any letter case. -/
structure IsName (n : String) : Prop where
  starts : ∃ c rest, n.toList = c :: rest ∧ isNameStart c = true
  chars : ∀ c ∈ n.toList, isNameChar c = true
  noKeyword : ∀ k : Keyword, n.toList.map Char.toLower ≠ k.word.toList

/-- A literal that can be written: no float, and no integer with a sign
or beyond 64 bits. -/
def IsWritableLiteral : Literal → Prop
  | .int i => 0 ≤ i ∧ i ≤ maxInt
  | .float _ => False
  | _ => True

/-- An expression that can be written. -/
inductive Writable : Expression → Prop where
  | literal
      {l : Literal}
      (line : Nat)
      (literal : IsWritableLiteral l) :
      Writable (.literal l line)
  | name {n : String} (line : Nat) (isName : IsName n) : Writable (.name n line)
  | unary
      (operator : UnaryOperator)
      {operand : Expression}
      (line : Nat)
      (writable : Writable operand) :
      Writable (.unary operator operand line)
  | binary
      (operator : BinaryOperator)
      {left right : Expression}
      (line : Nat)
      (leftWritable : Writable left)
      (rightWritable : Writable right) :
      Writable (.binary operator left right line)
  | call
      {n : String}
      {arguments : List Expression}
      (line : Nat)
      (isName : IsName n)
      (writable : ∀ e ∈ arguments, Writable e) :
      Writable (.call n arguments line)
  | index
      {target position : Expression}
      (line : Nat)
      (targetWritable : Writable target)
      (positionWritable : Writable position) :
      Writable (.index target position line)
  | array
      {items : List Expression}
      (line : Nat)
      (writable : ∀ e ∈ items, Writable e) :
      Writable (.array items line)

/-! ## What texts lead with -/

/-- The characters that can follow an operand. -/
def delimiters : List Char :=
  [' ', ')', ']', ',', '[', '(', '\n']

/-- A text that ends the lexeme before it. -/
def Delimits (tail : List Char) : Prop :=
  ∃ c ∈ delimiters, ∃ rest, tail = c :: rest

theorem delimits_cons
    {c : Char}
    (member : c ∈ delimiters)
    (rest : List Char) :
    Delimits (c :: rest) :=
  ⟨c, member, rest, rfl⟩

/-- A property of all delimiters holds of the first character of a
text that delimits. -/
theorem Delimits.head
    {P : Char → Prop}
    [DecidablePred P]
    {tail : List Char}
    (delimits : Delimits tail)
    (each : (delimiters.all fun c => decide (P c)) = true) :
    ∃ c rest, tail = c :: rest ∧ P c := by
  obtain ⟨c, member, rest, rfl⟩ := delimits
  exact ⟨c, rest, rfl, forall_mem_of_all each c member⟩

theorem Delimits.endsWord
    {tail : List Char}
    (delimits : Delimits tail) :
    endsWord tail = true := by
  obtain ⟨c, rest, rfl, ends⟩ :=
    delimits.head (P := fun c => (!isWord c) = true) (by decide)
  exact ends

/-! ## Keywords -/

/-- A keyword is written in small letters. -/
theorem Keyword.isLower_of_mem
    (k : Keyword)
    {letter : Char}
    (member : letter ∈ k.word.toList) :
    letter.isLower = true := by
  have small : k.word.toList.all Char.isLower = true := by
    cases k <;> decide
  exact List.all_eq_true.mp small letter member

/-- A keyword has a first letter. -/
theorem Keyword.word_eq (k : Keyword) :
    ∃ letter rest, k.word.toList = letter :: rest := by
  cases k <;> exact ⟨_, _, rfl⟩

/-- No keyword begins with an ASCII character that is no letter. -/
theorem keywordLength?_of_not_alpha
    {c : Char}
    (ascii : c.val < 128)
    (notAlpha : c.isAlpha = false)
    (k : Keyword)
    (cs : List Char) :
    keywordLength? k (c :: cs) = none := by
  obtain ⟨letter, rest, word⟩ := k.word_eq
  have small : letter.isLower = true := k.isLower_of_mem (by simp [word])
  have differs : standsFor letter c = false := by
    cases stands : standsFor letter c with
    | false =>
        rfl
    | true =>
        rw [isAlpha_of_standsFor small ascii stands] at notAlpha
        cases notAlpha
  unfold keywordLength?
  rw [word, foldedLength?, differs]
  rfl

/-- The kinds of tokens besides the keywords, in the order in
which they are tried. -/
def plainKinds : List Terminal :=
  [.name, .newline, .number, .comment, .string, .blank] ++ Mark.all.map .mark

/-- Keywords are tried first. -/
theorem order_eq : lexicon.order = Keyword.all.map .keyword ++ plainKinds := by
  show Terminal.order = _
  rw [Terminal.order, plainKinds, List.append_assoc]

/-- Keywords can be left out where a text begins with no letter. -/
theorem first?_of_not_alpha
    {c : Char}
    (ascii : c.val < 128)
    (notAlpha : c.isAlpha = false)
    (cs : List Char) :
    lexicon.first? (fun _ => true) (c :: cs) =
      plainKinds.findSome? fun kind => (kind.length? (c :: cs)).map (kind, ·) := by
  have none : (Keyword.all.map Terminal.keyword).findSome? (fun kind =>
      if true then (lexicon.length? kind (c :: cs)).map (kind, ·)
      else none) = none := by
    rw [List.findSome?_eq_none_iff]
    intro kind member
    obtain ⟨k, -, rfl⟩ := List.mem_map.mp member
    show ((keywordLength? k (c :: cs)).map _) = _
    rw [keywordLength?_of_not_alpha ascii notAlpha]
    rfl
  rw [Lexicon.first?, order_eq, List.findSome?_append, none, Option.none_or]
  rfl

/-- Where a text begins with no letter, a kind besides the keywords is the first
to match if none before it does. -/
theorem first?_plain
    {c : Char}
    {cs : List Char}
    {earlier later : List Terminal}
    {kind : Terminal}
    {length : Nat}
    (ascii : c.val < 128)
    (notAlpha : c.isAlpha = false)
    (split : plainKinds = earlier ++ kind :: later)
    (others : ∀ other ∈ earlier, other.length? (c :: cs) = none)
    (matching : kind.length? (c :: cs) = some length) :
    lexicon.first? (fun _ => true) (c :: cs) = some (kind, length) := by
  have order :
      lexicon.order = (Keyword.all.map .keyword ++ earlier) ++ kind :: later := by
    rw [order_eq, split, List.append_assoc]
  refine Lexicon.first?_eq_some order ?_ matching
  intro other member
  rcases List.mem_append.mp member with isKeyword | isEarlier
  · obtain ⟨k, -, rfl⟩ := List.mem_map.mp isKeyword
    exact keywordLength?_of_not_alpha ascii notAlpha k _
  · exact others other isEarlier

/-! ## Names -/

theorem isWord_of_isNameChar
    {c : Char}
    (isChar : isNameChar c = true) :
    isWord c = true := by
  have ascii := ascii_of_isNameChar isChar
  simp only [isNameChar, Bool.or_eq_true] at isChar
  simp only [isWord, isAlphanumeric, if_pos ascii, Bool.or_eq_true]
  exact isChar.symm

/-- A name is no keyword, and no keyword ends inside it or beyond it. -/
theorem keywordLength?_of_isName
    {n : String}
    {tail : List Char}
    (isName : IsName n)
    (delimits : Delimits tail)
    (k : Keyword) :
    keywordLength? k (n.toList ++ tail) = none := by
  have ends : ∀ c ∈ tail.head?, c.val < 128 ∧ c.isAlpha = false := by
    obtain ⟨c, rest, rfl, plain⟩ :=
      delimits.head (P := fun c => c.val < 128 ∧ c.isAlpha = false) (by decide)
    simpa using plain
  unfold keywordLength?
  split
  next length found =>
    obtain ⟨c, rest, isRest, isChar⟩ :=
      drop_foldedLength?_of_name (fun _ => k.isLower_of_mem) isName.chars
        (isName.noKeyword k) ends found
    rw [isRest, Script.endsWord, isWord_of_isNameChar isChar]
    rfl
  next =>
    rfl

/-- A name is the first lexeme of a text that it begins. -/
theorem first?_name
    {n : String}
    {tail : List Char}
    (isName : IsName n)
    (delimits : Delimits tail) :
    lexicon.first? (fun _ => true) (n.toList ++ tail) =
      some (.name, n.toList.length) := by
  refine Lexicon.first?_eq_some order_eq ?_ ?_
  · intro kind member
    obtain ⟨k, -, rfl⟩ := List.mem_map.mp member
    exact keywordLength?_of_isName isName delimits k
  · obtain ⟨d, further, rfl, ends⟩ :=
      delimits.head (P := fun c => isNameChar c = false) (by decide)
    exact nameLength?_append isName.starts isName.chars (.cons ends further)

/-! ## Words that are keywords -/

/-- A keyword that differs from all others is the first lexeme of a
text that it begins. -/
theorem first?_keyword
    {k : Keyword}
    (others :
      ∀ other ∈ Keyword.all, other = k ∨
        differ other.word.toList k.word.toList = true)
    {tail : List Char}
    (ends : endsWord tail = true) :
    lexicon.first? (fun _ => true) (k.word.toList ++ tail) =
      some (.keyword k, k.word.toList.length) := by
  have listed : k ∈ Keyword.all := by
    cases k <;> decide
  obtain ⟨earlier, later, split, notEarlier⟩ := List.eq_append_cons_of_mem listed
  have order : lexicon.order =
      earlier.map .keyword ++ .keyword k :: (later.map .keyword ++ plainKinds) := by
    rw [order_eq, split, List.map_append, List.map_cons, List.append_assoc,
      List.cons_append]
  refine Lexicon.first?_eq_some order ?_ ?_
  · intro kind member
    obtain ⟨other, isEarlier, rfl⟩ := List.mem_map.mp member
    show keywordLength? other _ = none
    rcases others other (by simp [split, isEarlier]) with rfl | differs
    · exact absurd isEarlier notEarlier
    · rw [keywordLength?, foldedLength?_of_differ differs]
  · show keywordLength? k _ = _
    rw [keywordLength?,
      foldedLength?_self (fun c member => k.isLower_of_mem member)]
    simp [ends]

/-! ## Numbers -/

/-- A digit is neither a letter nor any other character that begins a
name or ends a line. -/
theorem plain_of_isDigit
    {c : Char}
    (digit : c.isDigit = true) :
    c.val < 128 ∧ c.isAlpha = false ∧ isNameStart c = false ∧ c ≠ '\n' ∧
      c ≠ '\r' := by
  have between := toNat_of_isDigit digit
  have notAlpha := isAlpha_of_isDigit digit
  have notOther (d : Char) (other : d.val.toNat < 48 ∨ 57 < d.val.toNat) :
      c ≠ d := by
    rintro rfl
    omega
  refine ⟨?_, notAlpha, ?_, notOther _ (by decide), notOther _ (by decide)⟩
  · simp only [UInt32.lt_iff_toNat_lt, UInt32.reduceToNat]
    omega
  · simp [isNameStart, notAlpha, notOther '_' (by decide)]

theorem isDecimalDigit_of_isDigit
    {c : Char}
    (digit : c.isDigit = true) :
    isDecimalDigit c = true := by
  simp [isDecimalDigit, digitValue?, digit]

/-- Digits are the first lexeme of a text that they begin. -/
theorem first?_digits
    {digits tail : List Char}
    (nonempty : digits ≠ [])
    (allDigits : ∀ c ∈ digits, c.isDigit = true)
    (delimits : Delimits tail) :
    lexicon.first? (fun _ => true) (digits ++ tail) =
      some (.number, digits.length) := by
  have split : plainKinds = [.name, .newline] ++ .number :: plainKinds.drop 3 := rfl
  obtain ⟨c, rest, rfl⟩ := List.exists_cons_of_ne_nil nonempty
  obtain ⟨ascii, notAlpha, notStart, notBreak, notReturn⟩ :=
    plain_of_isDigit (allDigits c (by simp))
  refine first?_plain ascii notAlpha split ?_ ?_
  · intro kind member
    have either : kind = .name ∨ kind = .newline := by simpa using member
    rcases either with rfl | rfl
    · show nameLength? (c :: (rest ++ tail)) = none
      simp [nameLength?, notStart]
    · show newlineLength? (c :: (rest ++ tail)) = none
      simp [newlineLength?, notBreak, notReturn]
  · obtain ⟨d, further, rfl, notDigit, notPoint, notSmall, notCapital⟩ :=
      delimits.head
        (P := fun c => isDecimalDigit c = false ∧ c ≠ '.' ∧ c ≠ 'e' ∧ c ≠ 'E')
        (by decide)
    have run : runLength? isDecimalDigit (c :: rest ++ d :: further) =
        some (c :: rest).length :=
      runLength?_append (List.cons_ne_nil c rest)
        (fun c member => isDecimalDigit_of_isDigit (allDigits c member))
        (.cons notDigit further)
    have fraction : fractionLength (d :: further) = 0 := by
      simp [fractionLength, notPoint]
    have exponent : exponentLength (d :: further) = 0 := by
      simp [exponentLength, notSmall, notCapital]
    show numberLength? (c :: rest ++ d :: further) = _
    simp only [numberLength?, run, List.drop_left, fraction, Nat.add_zero, exponent]

/-! ## Texts -/

/-- A character that needs no backslash. -/
theorem escapeChar_of_plain
    {c : Char}
    (notBackslash : c ≠ '\\')
    (notQuote : c ≠ '"')
    (notBreak : c ≠ '\n') :
    escapeChar c = [c] := by
  simp [escapeChar, notBackslash, notQuote, notBreak]

/-- The body of a written text ends at its closing quote. -/
theorem stringBodyLength?_escape
    (cs tail : List Char) :
    stringBodyLength? (cs.flatMap escapeChar ++ '"' :: tail) =
      some ((cs.flatMap escapeChar).length + 1) := by
  induction cs with
  | nil =>
      rfl
  | cons c cs inductionHypothesis =>
      rw [List.flatMap_cons, List.append_assoc]
      by_cases special : c = '\\' ∨ c = '"' ∨ c = '\n'
      · have pair : ∃ d, escapeChar c = ['\\', d] ∧ d ≠ '\n' := by
          rcases special with rfl | rfl | rfl
          · exact ⟨'\\', rfl, by decide⟩
          · exact ⟨'"', rfl, by decide⟩
          · exact ⟨'n', rfl, by decide⟩
        obtain ⟨d, escaped, notBreak⟩ := pair
        simp [escaped, stringBodyLength?, notBreak, inductionHypothesis]
      · rw [not_or, not_or] at special
        obtain ⟨notBackslash, notQuote, notBreak⟩ := special
        simp [escapeChar_of_plain notBackslash notQuote notBreak, stringBodyLength?,
          notBackslash, notBreak, inductionHypothesis]

/-- A written text is the first lexeme of a text that it begins. -/
theorem first?_string
    (s : String)
    (tail : List Char) :
    lexicon.first? (fun _ => true) (literalText (.string s) ++ tail) =
      some (.string, (literalText (.string s)).length) := by
  have split : plainKinds =
      [.name, .newline, .number, .comment] ++ .string :: plainKinds.drop 5 := rfl
  show lexicon.first? (fun _ => true)
    ('"' :: (s.toList.flatMap escapeChar ++ ['"'] ++ tail)) = _
  refine first?_plain (by decide) (by decide) split ?_ ?_
  · intro kind member
    have either :
        kind = .name ∨ kind = .newline ∨ kind = .number ∨ kind = .comment := by
      simpa using member
    rcases either with rfl | rfl | rfl | rfl <;> rfl
  · show (stringBodyLength? (s.toList.flatMap escapeChar ++ ['"'] ++ tail)).map
        (· + 1) =
      some ('"' :: (s.toList.flatMap escapeChar ++ ['"'])).length
    rw [List.append_assoc, List.singleton_append, stringBodyLength?_escape,
      List.length_cons, List.length_append]
    rfl

/-- Reading the escapes of a written text gives the text. -/
theorem unescape_escape (cs : List Char) :
    unescape (cs.flatMap escapeChar) = cs := by
  induction cs with
  | nil =>
      rfl
  | cons c cs inductionHypothesis =>
      rw [List.flatMap_cons]
      by_cases special : c = '\\' ∨ c = '"' ∨ c = '\n'
      · rcases special with rfl | rfl | rfl
        · simp [escapeChar, unescape, inductionHypothesis]
        · simp [escapeChar, unescape, inductionHypothesis]
        · simp [escapeChar, unescape, inductionHypothesis]
      · rw [not_or, not_or] at special
        obtain ⟨notBackslash, notQuote, notBreak⟩ := special
        simp [escapeChar_of_plain notBackslash notQuote notBreak, unescape,
          notBackslash, inductionHypothesis]

/-! ## Blanks and marks -/

/-- A single blank is the first lexeme of a text that it begins. -/
theorem first?_blank
    {c : Char}
    (notBlank : isInlineBlank c = false)
    (cs : List Char) :
    lexicon.first? (fun _ => true) (' ' :: c :: cs) = some (.blank, 1) := by
  have split : plainKinds =
      [.name, .newline, .number, .comment, .string] ++
        .blank :: plainKinds.drop 6 := rfl
  refine first?_plain (by decide) (by decide) split ?_ ?_
  · intro kind member
    have either :
        kind = .name ∨ kind = .newline ∨ kind = .number ∨ kind = .comment ∨
        kind = .string := by
      simpa using member
    rcases either with rfl | rfl | rfl | rfl | rfl <;> rfl
  · show runLength? isInlineBlank ([' '] ++ c :: cs) = some [' '].length
    exact runLength?_append (List.cons_ne_nil ' ' [])
      (forall_mem_of_all (by decide)) (.cons notBlank cs)

/-- The marks that are no part of a longer mark. -/
theorem first?_bracket
    {mark : Mark}
    (bracket :
      mark ∈
        [Mark.openParen, .closeParen, .openBracket, .closeBracket, .comma, .minus])
    (tail : List Char) :
    lexicon.first? (fun _ => true) (mark.text.toList ++ tail) =
      some (.mark mark, mark.text.toList.length) := by
  simp only [List.mem_cons, List.not_mem_nil, or_false] at bracket
  rcases bracket with rfl | rfl | rfl | rfl | rfl | rfl <;>
    exact first?_of_not_alpha (by decide) (by decide) _

/-! ## Operators -/

/-- The spelling with which an operator is written. -/
def BinaryOperator.spelling : BinaryOperator → Spelling
  | disjunction => .orWord
  | conjunction => .andWord
  | apply .equal => .equal
  | apply .notEqual => .angles
  | apply .less => .less
  | apply .lessEqual => .lessEqual
  | apply .greater => .greater
  | apply .greaterEqual => .greaterEqual
  | apply .add => .plus
  | apply .sub => .minus
  | apply .concat => .ampersand
  | apply .mul => .star
  | apply .div => .slash
  | apply .mod => .modWord
  | apply .pow => .caret

/-- A binary operator is the first lexeme of a text that it
begins, before a blank. -/
theorem first?_operator
    (operator : BinaryOperator)
    (tail : List Char) :
    lexicon.first? (fun _ => true) (operator.sign.toList ++ ' ' :: tail) =
      some (operator.spelling.terminal, operator.sign.toList.length) := by
  have ends : endsWord (' ' :: tail) = true := rfl
  cases operator with
  | disjunction =>
      exact first?_keyword (k := .orKw) (by decide) ends
  | conjunction =>
      exact first?_keyword (k := .andKw) (by decide) ends
  | apply operator =>
      cases operator with
      | mod =>
          exact first?_keyword (k := .modKw) (by decide) ends
      | _ =>
          exact first?_of_not_alpha (by decide) (by decide) _

/-! ## All lexemes -/

/-- No lexeme is empty. -/
theorem Terminal.length?_pos
    {kind : Terminal}
    {cs : List Char}
    {n : Nat}
    (found : kind.length? cs = some n) :
    0 < n := by
  cases kind with
  | keyword k =>
      obtain ⟨letter, word, isWord⟩ := k.word_eq
      simp only [length?, keywordLength?, isWord] at found
      split at found
      next m folded =>
        obtain ⟨lexeme, _, rfl, rfl, folds⟩ := foldedLength?_eq_some folded
        split at found
        · cases found
          cases folds
          exact Nat.succ_pos _
        · cases found
      next =>
        cases found
  | name =>
      simp only [length?] at found
      unfold nameLength? at found
      split at found
      · split at found
        · cases found
          exact Nat.succ_pos _
        · cases found
      · cases found
  | newline =>
      simp only [length?] at found
      unfold newlineLength? at found
      split at found
      · cases found
        exact Nat.succ_pos _
      · cases found
        exact Nat.succ_pos _
      · cases found
  | number =>
      simp only [length?] at found
      unfold numberLength? at found
      split at found
      · cases found
      next digits isDigits =>
        have positive := (runLength?_eq_some isDigits).2
        cases found
        omega
  | comment =>
      simp only [length?] at found
      unfold commentLength? at found
      split at found
      · cases found
        exact Nat.succ_pos _
      · cases found
        exact Nat.succ_pos _
      · cases found
  | string =>
      simp only [length?] at found
      unfold stringLength? at found
      split at found
      · obtain ⟨m, _, rfl⟩ := Option.map_eq_some_iff.mp found
        exact Nat.succ_pos m
      · cases found
  | blank =>
      exact (runLength?_eq_some found).2
  | mark m =>
      obtain ⟨c, text, isText⟩ : ∃ c text, m.text.toList = c :: text := by
        cases m <;> exact ⟨_, _, rfl⟩
      simp only [length?, isText] at found
      cases cs with
      | nil =>
          cases found
      | cons d cs =>
          rw [fixedLength?] at found
          split at found
          · obtain ⟨shorter, _, rfl⟩ := Option.map_eq_some_iff.mp found
            exact Nat.succ_pos shorter
          · cases found
  | finish =>
      cases found

/-- A line break holds the character that ends a line. -/
theorem mem_take_of_newlineLength?
    {text : List Char}
    {length : Nat}
    (found : newlineLength? text = some length) :
    '\n' ∈ text.take length := by
  unfold newlineLength? at found
  split at found
  next =>
    cases found
    exact List.mem_cons_self
  next =>
    cases found
    exact List.mem_cons_of_mem _ List.mem_cons_self
  next =>
    cases found

/-!
## Segments of lines

Blanks and marks in segments of texts. Segments without line breaks
stay on their line.
-/

/-- A blank before a segment is passed over. -/
theorem segment_blank
    {place after : Place}
    {text tail : List Char}
    {tokens : List (Token Terminal)}
    (segment : lexicon.Segment (place.next ' ') text tokens after tail)
    (head : ∃ c rest, text = c :: rest ∧ isInlineBlank c = false)
    (nonempty : tokens ≠ []) :
    lexicon.Segment place (' ' :: text) tokens after tail := by
  obtain ⟨c, text, rfl, notBlank⟩ := head
  have first := first?_blank notBlank (text ++ tail)
  exact Lexicon.Segment.ignore segment first (List.cons_ne_nil ' ' []) rfl nonempty

/-- The token of a mark. -/
def Mark.token (mark : Mark) (place : Place) : Token Terminal :=
  ⟨.mark mark, mark.text.toList, place⟩

/-- A bracket, a comma or a minus sign is a segment. -/
theorem Mark.segment
    {m : Mark}
    (place : Place)
    (tail : List Char)
    (bracket :
      m ∈ [Mark.openParen, .closeParen, .openBracket, .closeBracket, .comma,
        .minus]) :
    lexicon.Segment place m.text.toList [m.token place]
      (place.advance m.text.toList) tail :=
  .token place tail (first?_bracket bracket tail) (by cases m <;> decide) rfl

/-- Text without line breaks stays on its line. -/
theorem line_advance
    {text : List Char}
    (noBreak : ∀ c ∈ text, c ≠ '\n')
    (place : Place) :
    (place.advance text).line = place.line := by
  induction text generalizing place with
  | nil =>
      rfl
  | cons c text inductionHypothesis =>
      have same : (place.next c).line = place.line := by
        rw [Place.next, if_neg (noBreak c (by simp))]
      exact (inductionHypothesis (fun d member => noBreak d (by simp [member]))
        _).trans same

theorem line_mark
    (mark : Mark)
    (place : Place) :
    (place.advance mark.text.toList).line = place.line :=
  line_advance (forall_mem_of_all (by cases mark <;> decide)) place

/-- A text inside a line that does not begin with a blank. -/
structure InLine (text : List Char) : Prop where
  head : ∃ c rest, text = c :: rest ∧ isInlineBlank c = false
  noBreak : ∀ c ∈ text, c ≠ '\n'

theorem InLine.ne_nil
    {text : List Char}
    (inLine : InLine text) :
    text ≠ [] := by
  obtain ⟨c, rest, rfl, -⟩ := inLine.head
  exact List.cons_ne_nil c rest

theorem InLine.append
    {text later : List Char}
    (inLine : InLine text)
    (noBreak : ∀ c ∈ later, c ≠ '\n') :
    InLine (text ++ later) where
  head := by
    obtain ⟨c, rest, rfl, notBlank⟩ := inLine.head
    exact ⟨c, rest ++ later, rfl, notBlank⟩
  noBreak := List.forall_mem_append.mpr ⟨inLine.noBreak, noBreak⟩

end GridScript.Script
