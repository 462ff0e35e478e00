import GridScript.Formula.Parser
import GridScript.Proofs.Text.Rewriting
import Mathlib.Data.List.Induction

namespace GridScript.Formula

/-!
# Written formulas

A formula is written with parentheses only around operands that bind less
tightly than their place asks for, and with backslashes before the quotes and
backslashes of its texts. A style says which blanks stand around binary
operators and after commas, if any, and which sheet names are written in quotes
although they need none.
-/

open GridScript.Number
open GridScript.Parsing

/-! ## Levels -/

/-- How tightly a binary operator binds: from comparisons over `&`, sums
and products to powers, with the signs before an operand between
products and powers. -/
def operatorLevel : Operator → Nat
  | .equal | .notEqual | .less | .lessEqual | .greater | .greaterEqual => 1
  | .concat => 2
  | .add | .sub => 3
  | .mul | .div | .mod => 4
  | .pow => 6

/-- How tightly a left operand has to bind: operators other than powers are left
associative, and the base of a power is a postfix expression. -/
def leftLevel : Operator → Nat
  | .pow => 7
  | operator => operatorLevel operator

/-- How tightly a right operand has to bind: more than its operator, but an
exponent may have a sign. -/
def rightLevel : Operator → Nat
  | .pow => 5
  | operator => operatorLevel operator + 1

/-- How tightly a sign binds; its operand has to bind as tightly. -/
def signLevel : Sign → Nat
  | .minus | .plus => 5
  | .percent => 7

/-- How tightly an expression binds. -/
def Expression.level : Expression → Nat
  | binary operator _ _ => operatorLevel operator
  | signed sign _ => signLevel sign
  | _ => 8

/-- The characters of an operand, in parentheses if it binds less
tightly than it has to. -/
def Expression.enclose
    (operand : Expression)
    (least : Nat)
    (text : List Char) : List Char :=
  if operand.level < least then '(' :: text ++ [')'] else text

/-! ## Atoms -/

/-- A character of a text, with a backslash if it needs one. -/
def escapeChar (c : Char) : List Char :=
  if c = '\\' then ['\\', '\\']
  else if c = '"' then ['\\', '"']
  else [c]

/-- The characters of a literal. -/
def literalText : Literal → List Char
  | .null => []
  | .bool true => "TRUE".toList
  | .bool false => "FALSE".toList
  | .int i => digitChars i.toNat
  | .float x => (floatText x).toList
  | .string s => '"' :: s.toList.flatMap escapeChar ++ ['"']

/-- A sheet name that needs no quotes: ASCII letters, digits and
underscores, no digit first. -/
def isPlainSheet (name : String) : Bool :=
  match name.toList with
  | [] => false
  | c :: rest => isNameStart c && rest.all isNameChar

/-- How formulas are written where there is a choice. -/
structure Style where
  /-- The blanks around binary operators and after commas. -/
  gap : List Char
  isGap : ∀ c ∈ gap, isSeparator c = true
  /-- A sheet name is written in quotes although it needs none. -/
  quotes : String → Bool

namespace Style

variable (style : Style)

/-- The characters of a sheet name and its exclamation mark. -/
def sheetText (name : String) : List Char :=
  if isPlainSheet name && !style.quotes name then name.toList ++ ['!']
  else '\'' :: name.toList ++ ['\'', '!']

/-- The characters of the sheet of a reference, if it names one. -/
def qualifierText : Option String → List Char
  | none => []
  | some name => style.sheetText name

/-- The characters of a reference. -/
def referenceText : Reference → List Char
  | .cell sheet address => style.qualifierText sheet ++ address.toList
  | .range sheet start finish =>
      style.qualifierText sheet ++ (start.toList ++ ':' :: finish.toList)

/-! ## Expressions -/

mutual

/-- The characters of an expression. -/
def text : Expression → List Char
  | .literal l => literalText l
  | .reference r => style.referenceText r
  | .name n => n.toList
  | .signed .minus operand => '-' :: operand.enclose 5 (text operand)
  | .signed .plus operand => '+' :: operand.enclose 5 (text operand)
  | .signed .percent operand => operand.enclose 7 (text operand) ++ ['%']
  | .binary operator left right =>
      left.enclose (leftLevel operator) (text left) ++
        (style.gap ++ operator.sign.toList ++
          (style.gap ++ right.enclose (rightLevel operator) (text right)))
  | .call f arguments => f.toList ++ '(' :: textOfAll arguments ++ [')']

/-- The characters of some expressions between commas. -/
def textOfAll : List Expression → List Char
  | [] => []
  | [e] => text e
  | e :: next :: rest => text e ++ (',' :: style.gap ++ textOfAll (next :: rest))

end

end Style

/-! ## What can be written -/

/-- An address in normal form: one to three capitals before digits. -/
structure IsAddress (address : String) : Prop where
  split :
    ∃ letters digits, address.toList = letters ++ digits ∧
      letters ≠ [] ∧ letters.length ≤ 3 ∧
      (∀ c ∈ letters, Address.isCapital c = true) ∧
      digits ≠ [] ∧ ∀ c ∈ digits, c.isDigit = true

/-- A sheet name that can be written: it has characters, and no single quote. -/
structure IsSheetName (name : String) : Prop where
  nonempty : name.toList ≠ []
  noQuote : '\'' ∉ name.toList

/-- A name: a small letter or underscore before letters, digits and underscores,
and no truth word in any letter case. -/
structure IsName (n : String) : Prop where
  starts : ∃ c rest, n.toList = c :: rest ∧ (c.isLower || c == '_') = true
  chars : ∀ c ∈ n.toList, isNameChar c = true
  notTrue : n.toList.map Char.toLower ≠ "true".toList
  notFalse : n.toList.map Char.toLower ≠ "false".toList

/-- The name of a function: capitals that make no truth word. -/
structure IsFunction (f : String) : Prop where
  nonempty : f.toList ≠ []
  capitals : ∀ c ∈ f.toList, Address.isCapital c = true
  notTrue : f ≠ "TRUE"
  notFalse : f ≠ "FALSE"

/-- A literal that can be written: a truth, an integer without a sign or
a text of one line. -/
def IsWritableLiteral : Literal → Prop
  | .bool _ => True
  | .int i => 0 ≤ i
  | .string s => '\n' ∉ s.toList
  | _ => False

/-- A reference that can be written. -/
def IsWritableReference : Reference → Prop
  | .cell sheet address => (∀ name ∈ sheet, IsSheetName name) ∧ IsAddress address
  | .range sheet start finish =>
      (∀ name ∈ sheet, IsSheetName name) ∧ IsAddress start ∧ IsAddress finish

/-- An expression that can be written. -/
inductive Writable : Expression → Prop where
  | literal {l : Literal} (literal : IsWritableLiteral l) : Writable (.literal l)
  | reference
      {r : Reference}
      (reference : IsWritableReference r) :
      Writable (.reference r)
  | name {n : String} (isName : IsName n) : Writable (.name n)
  | signed (sign : Sign) {operand : Expression} (writable : Writable operand) :
      Writable (.signed sign operand)
  | binary
      {operator : Operator}
      {left right : Expression}
      (inFormulas : operator ≠ .mod)
      (leftWritable : Writable left)
      (rightWritable : Writable right) :
      Writable (.binary operator left right)
  | call
      {f : String}
      {arguments : List Expression}
      (isFunction : IsFunction f)
      (writable : ∀ e ∈ arguments, Writable e) :
      Writable (.call f arguments)

mutual

/-- The integers written in an expression. -/
def Expression.integers : Expression → List Int
  | .literal (.int i) => [i]
  | .literal _ => []
  | .reference _ => []
  | .name _ => []
  | .signed _ operand => operand.integers
  | .binary _ left right => left.integers ++ right.integers
  | .call _ arguments => Expression.integersOfAll arguments

/-- The integers written in some expressions. -/
def Expression.integersOfAll : List Expression → List Int
  | [] => []
  | e :: rest => e.integers ++ Expression.integersOfAll rest

end

theorem Expression.mem_integersOfAll
    {i : Int}
    {items : List Expression} :
    i ∈ Expression.integersOfAll items ↔ ∃ e ∈ items, i ∈ e.integers := by
  induction items with
  | nil =>
      simp [Expression.integersOfAll]
  | cons e rest inductionHypothesis =>
      rw [Expression.integersOfAll, List.mem_append, inductionHypothesis]
      simp

/-- An integer has no more digits than are read. -/
def IsShort (i : Int) : Prop :=
  (digitChars i.toNat).length ≤ maxIntDigits

/-!
## Strings of formulas

A string ends at the first quote that no open backslash stands before, so
between its quotes every quote follows an odd number of backslashes, and the
last run of backslashes is even. Such a text is a sequence of plain characters
and of pairs of a backslash and a character. Its two passes of decoding take
effect pair by pair, and so give what one pass from the left gives: a quote is
never taken together with the second backslash of a pair.
-/

open GridScript.Text

/-! ### What stands between the quotes -/

/-- The number of backslashes at the end of a text. -/
def finalBackslashes (cs : List Char) : Nat :=
  (cs.reverse.takeWhile (· == '\\')).length

/-- A text that can stand between the quotes of a string. -/
structure IsBody (body : List Char) : Prop where
  oneLine : '\n' ∉ body
  /-- Every quote follows an odd number of backslashes. -/
  quotes :
    ∀ before after, body = before ++ '"' :: after → finalBackslashes before % 2 = 1
  /-- The backslashes at the end do not escape the quote that closes the string. -/
  closes : finalBackslashes body % 2 = 0

/-- A sequence of plain characters and of pairs of a backslash and a character. -/
inductive Paired : List Char → Prop where
  | nil : Paired []
  | pair
      {c : Char}
      {rest : List Char}
      (oneLine : c ≠ '\n')
      (paired : Paired rest) :
      Paired ('\\' :: c :: rest)
  | plain
      {c : Char}
      {rest : List Char}
      (oneLine : c ≠ '\n')
      (notBackslash : c ≠ '\\')
      (notQuote : c ≠ '"')
      (paired : Paired rest) :
      Paired (c :: rest)

/-- A text decoded in one pass: a backslash before a backslash or a
quote is left out. -/
def decodeOnce : List Char → List Char
  | '\\' :: '\\' :: rest => '\\' :: decodeOnce rest
  | '\\' :: '"' :: rest => '"' :: decodeOnce rest
  | c :: rest => c :: decodeOnce rest
  | [] => []

variable {body cs tail : List Char} {c : Char} {n : Nat}

/-! ### Runs of backslashes -/

/-- After some text a backslash is open: it escapes the next character. -/
def isOpenAfter (isOpen : Bool) : List Char → Bool
  | [] => isOpen
  | c :: cs => isOpenAfter (c == '\\' && !isOpen) cs

theorem isOpenAfter_append
    (isOpen : Bool)
    (cs : List Char)
    (c : Char) :
    isOpenAfter isOpen (cs ++ [c]) = (c == '\\' && !isOpenAfter isOpen cs) := by
  induction cs generalizing isOpen with
  | nil =>
      rfl
  | cons d cs inductionHypothesis =>
      exact inductionHypothesis _

theorem isOpenAfter_pair
    (c : Char)
    (cs : List Char) :
    isOpenAfter false ('\\' :: c :: cs) = isOpenAfter false cs := by
  simp [isOpenAfter]

theorem isOpenAfter_plain
    (notBackslash : c ≠ '\\')
    (cs : List Char) :
    isOpenAfter false (c :: cs) = isOpenAfter false cs := by
  rw [isOpenAfter, beq_eq_false_iff_ne.mpr notBackslash, Bool.false_and]

theorem finalBackslashes_append (cs : List Char) (c : Char) :
    finalBackslashes (cs ++ [c]) =
      if c = '\\' then finalBackslashes cs + 1 else 0 := by
  unfold finalBackslashes
  rw [List.reverse_append, List.reverse_singleton, List.singleton_append,
    List.takeWhile_cons]
  split
  next isBackslash =>
    rw [if_pos (beq_iff_eq.mp isBackslash), List.length_cons]
  next other =>
    rw [if_neg (other ∘ beq_iff_eq.mpr), List.length_nil]

/-- A backslash is open after an odd number of backslashes. -/
theorem finalBackslashes_mod_two (cs : List Char) :
    finalBackslashes cs % 2 = (isOpenAfter false cs).toNat := by
  induction cs using List.reverseRecOn with
  | nil =>
      rfl
  | append_singleton cs c inductionHypothesis =>
      rw [finalBackslashes_append, isOpenAfter_append]
      by_cases isBackslash : c = '\\'
      · rw [if_pos isBackslash, Nat.add_mod, inductionHypothesis]
        cases isOpenAfter false cs <;> simp [isBackslash]
      · rw [if_neg isBackslash, beq_eq_false_iff_ne.mpr isBackslash]
        rfl

theorem isBody_iff_isOpenAfter :
    IsBody body ↔ '\n' ∉ body ∧
      (∀ before after, body = before ++ '"' :: after →
        isOpenAfter false before = true) ∧
      isOpenAfter false body = false := by
  have odd (cs : List Char) :
      finalBackslashes cs % 2 = 1 ↔ isOpenAfter false cs = true := by
    rw [finalBackslashes_mod_two]
    cases isOpenAfter false cs <;> decide
  have even (cs : List Char) :
      finalBackslashes cs % 2 = 0 ↔ isOpenAfter false cs = false := by
    rw [finalBackslashes_mod_two]
    cases isOpenAfter false cs <;> decide
  constructor
  · rintro ⟨oneLine, quotes, closes⟩
    exact ⟨oneLine, fun before after split =>
        (odd before).mp (quotes before after split),
      (even body).mp closes⟩
  · rintro ⟨oneLine, quotes, closes⟩
    exact ⟨oneLine, fun before after split =>
        (odd before).mpr (quotes before after split),
      (even body).mpr closes⟩

/-- In a sequence of pairs and plain characters a quote is the second
character of a pair. -/
theorem Paired.isBody
    (paired : Paired body) :
    IsBody body := by
  rw [isBody_iff_isOpenAfter]
  induction paired with
  | nil =>
      exact ⟨List.not_mem_nil, by simp, rfl⟩
  | @pair c rest oneLine _ inductionHypothesis =>
      obtain ⟨laterLine, quotes, closes⟩ := inductionHypothesis
      refine ⟨by simp [oneLine.symm, laterLine], fun before after split => ?_,
        (isOpenAfter_pair c rest).trans closes⟩
      match before, split with
      | [_], split =>
          obtain ⟨rfl, -⟩ := List.cons.inj split
          rfl
      | _ :: d :: before, split =>
          simp only [List.cons_append, List.cons.injEq] at split
          obtain ⟨rfl, rfl, split⟩ := split
          exact (isOpenAfter_pair c before).trans (quotes before after split)
  | @plain c rest oneLine notBackslash notQuote _ inductionHypothesis =>
      obtain ⟨laterLine, quotes, closes⟩ := inductionHypothesis
      refine ⟨by simp [oneLine.symm, laterLine], fun before after split => ?_,
        (isOpenAfter_plain notBackslash rest).trans closes⟩
      cases before with
      | nil =>
          exact absurd (List.cons.inj split).1 notQuote
      | cons d before =>
          rw [List.cons_append, List.cons.injEq] at split
          obtain ⟨rfl, split⟩ := split
          exact (isOpenAfter_plain notBackslash before).trans
            (quotes before after split)

/-- After a pair a text goes on as one between quotes. -/
theorem IsBody.of_pair
    (isBody : IsBody ('\\' :: c :: cs)) :
    c ≠ '\n' ∧ IsBody cs := by
  obtain ⟨oneLine, quotes, closes⟩ := isBody_iff_isOpenAfter.mp isBody
  simp only [List.mem_cons, not_or] at oneLine
  refine ⟨Ne.symm oneLine.2.1, isBody_iff_isOpenAfter.mpr ⟨oneLine.2.2, ?_, ?_⟩⟩
  · rintro before after rfl
    exact (isOpenAfter_pair c before).symm.trans
      (quotes ('\\' :: c :: before) after rfl)
  · exact (isOpenAfter_pair c cs).symm.trans closes

/-- A character that is no backslash is plain, and the text goes on as
one between quotes. -/
theorem IsBody.of_plain
    (isBody : IsBody (c :: cs))
    (notBackslash : c ≠ '\\') :
    c ≠ '\n' ∧ c ≠ '"' ∧ IsBody cs := by
  obtain ⟨oneLine, quotes, closes⟩ := isBody_iff_isOpenAfter.mp isBody
  simp only [List.mem_cons, not_or] at oneLine
  refine ⟨Ne.symm oneLine.1, ?_, isBody_iff_isOpenAfter.mpr ⟨oneLine.2, ?_, ?_⟩⟩
  · rintro rfl
    cases quotes [] cs rfl
  · rintro before after rfl
    exact (isOpenAfter_plain notBackslash before).symm.trans
      (quotes (c :: before) after rfl)
  · exact (isOpenAfter_plain notBackslash cs).symm.trans closes

/-- A text between quotes is a sequence of pairs and plain characters. -/
theorem IsBody.paired
    (isBody : IsBody body) :
    Paired body := by
  have plain {c : Char} {rest : List Char} (isBody : IsBody (c :: rest))
    (notBackslash : c ≠ '\\')
      (later : IsBody rest → Paired rest) : Paired (c :: rest) :=
    have ⟨oneLine, notQuote, restBody⟩ := isBody.of_plain notBackslash
    .plain oneLine notBackslash notQuote (later restBody)
  induction body using List.twoStepInduction with
  | nil =>
      exact .nil
  | singleton c =>
      refine plain isBody ?_ fun _ => .nil
      rintro rfl
      cases isBody.closes
  | cons_cons c d rest afterPair afterPlain =>
      by_cases isBackslash : c = '\\'
      · subst isBackslash
        obtain ⟨oneLine, restBody⟩ := isBody.of_pair
        exact .pair oneLine (afterPair restBody)
      · exact plain isBody isBackslash (afterPlain d)

/-! ### Where a string ends -/

/-- A sequence of pairs and plain characters is read up to the quote behind it. -/
theorem Paired.stringRestLength?
    (paired : Paired body)
    (tail : List Char) :
    stringRestLength? (body ++ '"' :: tail) = some (body.length + 1) := by
  induction paired with
  | nil =>
      rfl
  | pair oneLine _ inductionHypothesis =>
      simp [Formula.stringRestLength?, oneLine, inductionHypothesis]
  | plain oneLine notBackslash notQuote _ inductionHypothesis =>
      simp [Formula.stringRestLength?, oneLine, notBackslash, inductionHypothesis]

/-- What is read up to a closing quote is a sequence of pairs and plain
characters. -/
theorem paired_of_stringRestLength?
    (found : stringRestLength? cs = some n) :
    ∃ body tail, cs = body ++ '"' :: tail ∧ n = body.length + 1 ∧ Paired body := by
  fun_induction stringRestLength? cs generalizing n with
  | case1 =>
      cases found
  | case2 c rest oneLine inductionHypothesis =>
      obtain ⟨m, isLength, rfl⟩ := Option.map_eq_some_iff.mp found
      obtain ⟨body, tail, rfl, rfl, paired⟩ := inductionHypothesis isLength
      exact ⟨'\\' :: c :: body, tail, rfl, rfl, .pair oneLine paired⟩
  | case3 =>
      cases found
  | case4 tail =>
      exact ⟨[], tail, rfl, (Option.some.inj found).symm, .nil⟩
  | case5 =>
      cases found
  | case6 c rest notPair notSingle notQuote oneLine inductionHypothesis =>
      obtain ⟨m, isLength, rfl⟩ := Option.map_eq_some_iff.mp found
      obtain ⟨body, tail, rfl, rfl, paired⟩ := inductionHypothesis isLength
      have notBackslash : c ≠ '\\' := by
        intro isBackslash
        cases isRest : body ++ '"' :: tail with
        | nil =>
            exact notSingle isBackslash isRest
        | cons d rest =>
            exact notPair d rest isBackslash isRest
      exact ⟨c :: body, tail, rfl, rfl, .plain oneLine notBackslash notQuote paired⟩
  | case7 =>
      cases found

/-- A string is a quote, a text that can stand between quotes, and a quote. -/
theorem stringLength?_eq_some_iff :
    stringLength? cs = some n ↔
      ∃ body tail, cs = '"' :: (body ++ '"' :: tail) ∧ n = body.length + 2 ∧
        IsBody body := by
  constructor
  · intro found
    unfold stringLength? at found
    split at found
    next rest =>
      obtain ⟨m, isLength, rfl⟩ := Option.map_eq_some_iff.mp found
      obtain ⟨body, tail, rfl, rfl, paired⟩ := paired_of_stringRestLength? isLength
      exact ⟨body, tail, rfl, rfl, paired.isBody⟩
    next =>
      cases found
  · rintro ⟨body, tail, rfl, rfl, isBody⟩
    rw [stringLength?, isBody.paired.stringRestLength?]
    rfl

/-! ### Decoding -/

theorem Paired.head
    (paired : Paired body) :
    ∀ c ∈ body.head?, c ≠ '"' := by
  cases paired with
  | nil =>
      exact nofun
  | pair =>
      simp
  | plain _ _ notQuote =>
      simpa using notQuote

theorem dropLeading?_of_ne
    {d : Char}
    (other : c ≠ d)
    (pattern cs : List Char) :
    dropLeading? (d :: pattern) (c :: cs) = none := by
  rw [dropLeading?, if_neg other.symm]

theorem dropLeading?_of_head
    {d : Char}
    (other : ∀ e ∈ cs.head?, e ≠ d)
    (c : Char) :
    dropLeading? [c, d] (c :: cs) = none := by
  rw [dropLeading?, if_pos rfl]
  cases cs with
  | nil =>
      rfl
  | cons e cs =>
      exact dropLeading?_of_ne (other e rfl) [] cs

/-- A pair of backslashes is decoded to one: what follows it does not
begin with a quote. -/
theorem decodeString_backslash
    (paired : Paired body) :
    decodeString ('\\' :: '\\' :: body) = '\\' :: decodeString body := by
  have first : dropLeading? ['\\', '"'] ('\\' :: '\\' :: body) = none :=
    dropLeading?_of_head (by simp) '\\'
  have second : dropLeading? ['\\', '"'] ('\\' :: body) = none :=
    dropLeading?_of_head paired.head '\\'
  have pair (cs : List Char) : replaceAll ['\\', '\\'] ['\\'] ('\\' :: '\\' :: cs) =
      '\\' :: replaceAll ['\\', '\\'] ['\\'] cs :=
    replaceAll_append (List.cons_ne_nil _ _) cs
  unfold decodeString
  rw [replaceAll_cons (List.cons_ne_nil _ _) first,
    replaceAll_cons (List.cons_ne_nil _ _) second, pair]

/-- An escaped quote is decoded to a quote. -/
theorem decodeString_quote (cs : List Char) :
    decodeString ('\\' :: '"' :: cs) = '"' :: decodeString cs := by
  have taken : replaceAll ['\\', '"'] ['"'] ('\\' :: '"' :: cs) =
      '"' :: replaceAll ['\\', '"'] ['"'] cs :=
    replaceAll_append (List.cons_ne_nil _ _) cs
  unfold decodeString
  rw [taken,
    replaceAll_cons (List.cons_ne_nil _ _) (dropLeading?_of_ne (by decide) _ _)]

/-- A plain character stays. -/
theorem decodeString_plain
    (notBackslash : c ≠ '\\')
    (cs : List Char) :
    decodeString (c :: cs) = c :: decodeString cs := by
  unfold decodeString
  rw [replaceAll_cons (List.cons_ne_nil _ _) (dropLeading?_of_ne notBackslash _ _),
    replaceAll_cons (List.cons_ne_nil _ _) (dropLeading?_of_ne notBackslash _ _)]

/-- A backslash before a character that needs none stays, and so
does the character. -/
theorem decodeString_other
    (notBackslash : c ≠ '\\')
    (notQuote : c ≠ '"')
    (cs : List Char) :
    decodeString ('\\' :: c :: cs) = '\\' :: c :: decodeString cs := by
  have first : dropLeading? ['\\', '"'] ('\\' :: c :: cs) = none :=
    dropLeading?_of_head (by simpa using notQuote) '\\'
  rw [← decodeString_plain notBackslash]
  unfold decodeString
  rw [replaceAll_cons (List.cons_ne_nil _ _) first,
    replaceAll_cons (List.cons_ne_nil _ _) (dropLeading?_of_ne notBackslash _ _)]
  refine replaceAll_cons (List.cons_ne_nil _ _) (dropLeading?_of_head ?_ '\\')
  simpa using notBackslash

theorem decodeOnce_plain
    (notBackslash : c ≠ '\\')
    (cs : List Char) :
    decodeOnce (c :: cs) = c :: decodeOnce cs := by
  simp [decodeOnce, notBackslash]

theorem decodeOnce_other
    (notBackslash : c ≠ '\\')
    (notQuote : c ≠ '"')
    (cs : List Char) :
    decodeOnce ('\\' :: c :: cs) = '\\' :: c :: decodeOnce cs := by
  rw [← decodeOnce_plain notBackslash]
  simp [decodeOnce, notBackslash, notQuote]

/-- On what stands between quotes two passes of decoding do what one pass does. -/
theorem decodeString_eq_decodeOnce
    (isBody : IsBody body) :
    decodeString body = decodeOnce body := by
  induction isBody.paired with
  | nil =>
      rfl
  | @pair c rest _ paired inductionHypothesis =>
      have restSame := inductionHypothesis paired.isBody
      by_cases isBackslash : c = '\\'
      · subst isBackslash
        rw [decodeString_backslash paired, restSame, decodeOnce]
      by_cases isQuote : c = '"'
      · subst isQuote
        rw [decodeString_quote, restSame, decodeOnce]
      · rw [decodeString_other isBackslash isQuote,
          decodeOnce_other isBackslash isQuote, restSame]
  | plain _ notBackslash _ paired inductionHypothesis =>
      rw [decodeString_plain notBackslash, decodeOnce_plain notBackslash,
        inductionHypothesis paired.isBody]

/-! ### Written texts -/

/-- A character that needs no backslash. -/
theorem escapeChar_of_plain
    (notBackslash : c ≠ '\\')
    (notQuote : c ≠ '"') :
    escapeChar c = [c] := by
  simp [escapeChar, notBackslash, notQuote]

/-- A written text of one line can stand between quotes. -/
theorem paired_escape
    (oneLine : '\n' ∉ cs) :
    Paired (cs.flatMap escapeChar) := by
  induction cs with
  | nil =>
      exact .nil
  | cons c cs inductionHypothesis =>
      obtain ⟨notBreak, later⟩ := List.ne_and_not_mem_of_not_mem_cons oneLine
      rw [List.flatMap_cons]
      by_cases isBackslash : c = '\\'
      · subst isBackslash
        exact .pair (by decide) (inductionHypothesis later)
      by_cases isQuote : c = '"'
      · subst isQuote
        exact .pair (by decide) (inductionHypothesis later)
      · rw [escapeChar_of_plain isBackslash isQuote]
        exact .plain notBreak.symm isBackslash isQuote (inductionHypothesis later)

/-- A written text is decoded to the text. -/
theorem decodeOnce_escape (cs : List Char) :
    decodeOnce (cs.flatMap escapeChar) = cs := by
  induction cs with
  | nil =>
      rfl
  | cons c cs inductionHypothesis =>
      rw [List.flatMap_cons]
      by_cases isBackslash : c = '\\'
      · subst isBackslash
        exact congrArg ('\\' :: ·) inductionHypothesis
      by_cases isQuote : c = '"'
      · subst isQuote
        exact congrArg ('"' :: ·) inductionHypothesis
      · rw [escapeChar_of_plain isBackslash isQuote, List.singleton_append,
          decodeOnce_plain isBackslash, inductionHypothesis]

end GridScript.Formula
