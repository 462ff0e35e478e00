import GridScript.Proofs.Formula.Syntax.Writing
import GridScript.Proofs.Number.Reading
import GridScript.Proofs.Parsing.Spelling
import GridScript.Proofs.Text.Letters

namespace GridScript.Formula

/-!
# What formulas lead with

The first lexeme of a text, for each kind of lexeme that written formulas have.
The kinds overlap and the first one that matches wins, so every lexeme comes
with the reason why no kind before its own matches: the text begins with another
character, or it goes on with another one.
-/

open GridScript.Number
open GridScript.Parsing
open GridScript.Text

/-! ## Delimiters -/

/-- The characters that can follow a lexeme. -/
def delimiters : List Char :=
  [' ', '\t', '\x0c', '\r', '\n', '(', ')', ',', '>', '<', '=', '&', '+', '-', '*',
    '/', '^', '%']

/-- A text that ends the lexeme before it. -/
def Delimits (tail : List Char) : Prop :=
  ∀ c ∈ tail.head?, c ∈ delimiters

theorem Delimits.nil : Delimits [] :=
  nofun

theorem Delimits.cons
    {c : Char}
    (member : c ∈ delimiters)
    (rest : List Char) :
    Delimits (c :: rest) := by
  intro d isFirst
  obtain rfl : c = d := Option.some.inj isFirst
  exact member

/-- A property of all delimiters holds of the first character of a
text that delimits. -/
theorem Delimits.head
    {P : Char → Prop}
    [DecidablePred P]
    {tail : List Char}
    (delimits : Delimits tail)
    (each : (delimiters.all fun c => decide (P c)) = true) :
    ∀ c ∈ tail.head?, P c :=
  fun c isFirst => forall_mem_of_all each c (delimits c isFirst)

theorem Delimits.stopsName
    {tail : List Char}
    (delimits : Delimits tail) :
    Stops isNameChar tail :=
  delimits.head (by decide)

theorem Delimits.stopsDigits
    {tail : List Char}
    (delimits : Delimits tail) :
    Stops Char.isDigit tail :=
  delimits.head (by decide)

/-! ## Capitals -/

/-- The capitals are a range of characters. -/
theorem isCapital_iff {c : Char} :
    Address.isCapital c = true ↔ 'A'.val ≤ c.val ∧ c.val ≤ 'Z'.val := by
  simp [Address.isCapital, Char.le_def]

theorem isAlpha_of_isCapital
    {c : Char}
    (capital : Address.isCapital c = true) :
    c.isAlpha = true :=
  isAlpha_iff.mpr (.inl (isCapital_iff.mp capital))

theorem isNameStart_of_isCapital
    {c : Char}
    (capital : Address.isCapital c = true) :
    isNameStart c = true := by
  simp [isNameStart, isAlpha_of_isCapital capital]

/-- A small letter is no capital. -/
theorem isCapital_of_isLower
    {c : Char}
    (small : c.isLower = true) :
    Address.isCapital c = false := by
  rw [Bool.eq_false_iff, ne_eq, isCapital_iff]
  rintro ⟨-, high⟩
  exact absurd (UInt32.le_trans (isLower_iff.mp small).1 high) (by decide)

/-- A digit is no capital. -/
theorem isCapital_of_isDigit
    {c : Char}
    (digit : c.isDigit = true) :
    Address.isCapital c = false := by
  rw [Bool.eq_false_iff]
  intro capital
  cases (isAlpha_of_isDigit digit).symm.trans (isAlpha_of_isCapital capital)

/-! ## First characters -/

/-- A character that a lexeme of a kind may begin with. -/
def Terminal.begins : Terminal → Char → Bool
  | sheetRange, c | sheetCell, c | name, c => isNameStart c
  | quotedSheetRange, c | quotedSheetCell, c => c == '\''
  | range, c | cell, c => c == '$' || Address.isCapital c
  | truth, c => c.isAlpha
  | number, c => c.isDigit || c == '.'
  | string, c => c == '"'
  | blank, c => isSeparator c
  | mark m, c => m.text.toList.head? == some c
  | finish, _ => false

theorem Head.andThen_eq_none
    {first : Head}
    {cs : List Char}
    (failed : first cs = none)
    (second : Head) :
    Head.andThen first second cs = none := by
  rw [Head.andThen, failed]

/-- One reader after another reads on where the first one stops. -/
theorem Head.andThen_append
    {first second : Head}
    {text tail : List Char}
    (reads : first (text ++ tail) = some text.length) :
    Head.andThen first second (text ++ tail) =
      (second tail).map (text.length + ·) := by
  rw [Head.andThen, reads]
  dsimp only
  rw [List.drop_left]

/-- One reader reads a text and the other one what follows it. -/
theorem Head.andThen_reads
    {first second : Head}
    {text later tail : List Char}
    (reads : first (text ++ (later ++ tail)) = some text.length)
    (readsOn : second (later ++ tail) = some later.length) :
    Head.andThen first second (text ++ later ++ tail) =
      some (text ++ later).length := by
  rw [List.append_assoc, Head.andThen_append reads, readsOn, List.length_append]
  rfl

/-- Nothing is read if the second reader reads nothing. -/
theorem Head.andThen_stuck
    {first second : Head}
    {text tail : List Char}
    (reads : first (text ++ tail) = some text.length)
    (stuck : second tail = none) :
    Head.andThen first second (text ++ tail) = none := by
  rw [Head.andThen_append reads, stuck]
  rfl

/-- Without a dollar sign only what follows it is read. -/
theorem Head.andThen_dollar
    {second : Head}
    {cs : List Char}
    (absent : ∀ c ∈ cs.head?, c ≠ '$') :
    Head.andThen (fun cs => some (dollarLength cs)) second cs = second cs := by
  have zero : dollarLength cs = 0 := by
    cases cs with
    | nil =>
        rfl
    | cons c cs =>
        exact dollarLength.eq_2 (c :: cs) fun rest isDollar =>
          absent c rfl (List.cons.inj isDollar).1
  simp [Head.andThen, zero]

/-- An address begins with a dollar sign or a capital. -/
theorem addressLength?_eq_none
    {c : Char}
    (other : (c == '$' || Address.isCapital c) = false)
    (cs : List Char) :
    addressLength? (c :: cs) = none := by
  obtain ⟨notDollar, notCapital⟩ := Bool.or_eq_false_iff.mp other
  have noLetters : lettersLength? (c :: cs) = none := by
    rw [lettersLength?, runLength?_eq_none (.cons notCapital cs)]
  rw [addressLength?, Head.andThen_dollar (by simpa using notDollar)]
  exact Head.andThen_eq_none noLetters _

theorem quotedSheetLength?_eq_none
    {c : Char}
    (other : (c == '\'') = false)
    (cs : List Char) :
    quotedSheetLength? (c :: cs) = none := by
  have notQuote : fixedLength? ['\''] (c :: cs) = none :=
    fixedLength?_eq_none (by simpa using other)
  exact Head.andThen_eq_none notQuote _

theorem nameLength?_eq_none
    {c : Char}
    (other : isNameStart c = false)
    (cs : List Char) :
    nameLength? (c :: cs) = none := by
  simp [nameLength?, other]

/-- Only its two cases stand for the first letter of a truth word. -/
theorem truthLength?_eq_none
    {c : Char}
    (other : c.isAlpha = false)
    (cs : List Char) :
    truthLength? (c :: cs) = none := by
  have differs (letter : Char) (small : letter.isLower = true)
      (plain : letter = 't' ∨ letter = 'f') :
      standsFor letter c = false := by
    have notLower : c.toLower ≠ letter := by
      rintro rfl
      rw [isAlpha_of_isLower_toLower small] at other
      cases other
    rcases plain with rfl | rfl <;> simpa [standsFor] using notLower
  simp [truthLength?, foldedLength?, differs 't' (by decide) (.inl rfl),
    differs 'f' (by decide) (.inr rfl)]

theorem numberLength?_eq_none
    {c : Char}
    (other : (c.isDigit || c == '.') = false)
    (cs : List Char) :
    numberLength? (c :: cs) = none := by
  obtain ⟨notDigit, notPoint⟩ := Bool.or_eq_false_iff.mp other
  have noRun : runLength? Char.isDigit (c :: cs) = none :=
    runLength?_eq_none (.cons notDigit cs)
  have noDecimal : decimalLength? (c :: cs) = none := by
    have notPoint : c ≠ '.' := by simpa using notPoint
    simp [decimalLength?, digitsLength, notDigit, notPoint]
  rw [numberLength?, Head.andThen_eq_none noRun]
  simp only [noDecimal, noRun]

/-- No lexeme begins with a character with which none of its kind may begin. -/
theorem Terminal.length?_eq_none
    {kind : Terminal}
    {c : Char}
    (other : kind.begins c = false)
    (cs : List Char) :
    kind.length? (c :: cs) = none := by
  cases kind with
  | sheetRange =>
      exact Head.andThen_eq_none
        (Head.andThen_eq_none (nameLength?_eq_none other cs) _) _
  | sheetCell =>
      exact Head.andThen_eq_none
        (Head.andThen_eq_none (nameLength?_eq_none other cs) _) _
  | name =>
      exact nameLength?_eq_none other cs
  | quotedSheetRange =>
      exact Head.andThen_eq_none (quotedSheetLength?_eq_none other cs) _
  | quotedSheetCell =>
      exact Head.andThen_eq_none (quotedSheetLength?_eq_none other cs) _
  | range =>
      exact Head.andThen_eq_none (addressLength?_eq_none other cs) _
  | cell =>
      exact addressLength?_eq_none other cs
  | truth =>
      exact truthLength?_eq_none other cs
  | number =>
      exact numberLength?_eq_none other cs
  | string =>
      show stringLength? (c :: cs) = none
      have notQuote : c ≠ '"' := ne_of_beq_false other
      simp [stringLength?, notQuote]
  | blank =>
      exact runLength?_eq_none (.cons other cs)
  | mark m =>
      have begins : ∃ d rest, m.text.toList = d :: rest := by
        cases m <;> exact ⟨_, _, rfl⟩
      obtain ⟨d, rest, text⟩ := begins
      have differs : d ≠ c := by
        simpa [begins, text] using other
      show fixedLength? m.text.toList (c :: cs) = none
      rw [text, fixedLength?, if_neg differs]
  | finish =>
      rfl

/-- A kind is the first one that matches, if each kind before it begins
otherwise or does not match. -/
theorem first?_of_begins
    {c : Char}
    {cs : List Char}
    {earlier later : List Terminal}
    {kind : Terminal}
    {length : Nat}
    (split : Terminal.order = earlier ++ kind :: later)
    (others :
      ∀ other ∈ earlier, other.begins c = false ∨ other.length? (c :: cs) = none)
    (matching : kind.length? (c :: cs) = some length) :
    lexicon.first? (fun _ => true) (c :: cs) = some (kind, length) :=
  Lexicon.first?_eq_some split
    (fun other member =>
      (others other member).elim
        (fun begins => Terminal.length?_eq_none begins cs) id)
    matching

/-! ## Names and truth words -/

/-- A name is not the name of a sheet if no exclamation mark follows it. -/
theorem sheetLength?_of_name
    {name tail : List Char}
    (starts : ∃ c rest, name = c :: rest ∧ isNameStart c = true)
    (inside : ∀ c ∈ name, isNameChar c = true)
    (stops : Stops isNameChar tail)
    (noMark : ∀ c ∈ tail.head?, c ≠ '!') :
    sheetLength? (name ++ tail) = none :=
  Head.andThen_stuck (nameLength?_append starts inside stops)
    (fixedLength?_eq_none noMark)

/-- Capitals that no digit follows make no address. -/
theorem addressLength?_of_capitals
    {name tail : List Char}
    (nonempty : name ≠ [])
    (capitals : ∀ c ∈ name, Address.isCapital c = true)
    (delimits : Delimits tail) :
    addressLength? (name ++ tail) = none := by
  obtain ⟨c, rest, rfl⟩ := List.exists_cons_of_ne_nil nonempty
  have notDollar : c ≠ '$' := by
    rintro rfl
    cases capitals _ List.mem_cons_self
  have run := runLength?_append nonempty capitals
    (delimits.head (by decide) : Stops Address.isCapital tail)
  rw [addressLength?, Head.andThen_dollar (by simpa using notDollar)]
  by_cases few : (c :: rest).length ≤ 3
  · have letters :
        lettersLength? (c :: rest ++ tail) = some (c :: rest).length := by
      rw [lettersLength?, run]
      exact if_pos few
    rw [Head.andThen_append letters,
      Head.andThen_dollar (delimits.head (by decide)),
      runLength?_eq_none delimits.stopsDigits]
    rfl
  · have noLetters : lettersLength? (c :: rest ++ tail) = none := by
      rw [lettersLength?, run]
      exact if_neg few
    exact Head.andThen_eq_none noLetters _

/-- A name is no truth word, and none ends inside it or beyond it. -/
theorem truthLength?_of_name
    {name tail : List Char}
    (inside : ∀ c ∈ name, isNameChar c = true)
    (notTrue : name.map Char.toLower ≠ "true".toList)
    (notFalse : name.map Char.toLower ≠ "false".toList)
    (delimits : Delimits tail) :
    truthLength? (name ++ tail) = none := by
  have ends : ∀ c ∈ tail.head?, c.val < 128 ∧ c.isAlpha = false :=
    delimits.head (by decide)
  unfold truthLength?
  split
  next n found =>
    have goesOn :
        ∃ c rest, (name ++ tail).drop n = c :: rest ∧ isNameChar c = true := by
      rcases Option.or_eq_some_iff.mp (Option.orElse_eq_or.symm.trans found) with
        isTrue | ⟨-, isFalse⟩
      · exact drop_foldedLength?_of_name (forall_mem_of_all (by decide)) inside
          notTrue ends isTrue
      · exact drop_foldedLength?_of_name (forall_mem_of_all (by decide)) inside
          notFalse ends isFalse
    obtain ⟨c, rest, isRest, isChar⟩ := goesOn
    rw [isRest]
    exact if_pos (by simp [continuesTruth, isChar])
  next =>
    rfl

/-- The kinds that are tried before truth words. -/
def referenceKinds : List Terminal :=
  [.sheetRange, .quotedSheetRange, .range, .sheetCell, .quotedSheetCell, .cell]

/-- A word that is no address is no reference. -/
theorem noReference_of_word
    {c : Char}
    {rest tail : List Char}
    (starts : isNameStart c = true)
    (inside : ∀ d ∈ c :: rest, isNameChar d = true)
    (noAddress : addressLength? (c :: rest ++ tail) = none)
    (delimits : Delimits tail) :
    ∀ kind ∈ referenceKinds,
      kind.begins c = false ∨ kind.length? (c :: (rest ++ tail)) = none := by
  have noSheet : sheetLength? (c :: rest ++ tail) = none :=
    sheetLength?_of_name ⟨c, rest, rfl, starts⟩ inside delimits.stopsName
      (delimits.head (by decide))
  have notQuote : (c == '\'') = false := by
    rw [beq_eq_false_iff_ne]
    rintro rfl
    cases starts
  intro kind member
  simp only [referenceKinds, List.mem_cons, List.not_mem_nil, or_false] at member
  rcases member with rfl | rfl | rfl | rfl | rfl | rfl
  · exact .inr (Head.andThen_eq_none noSheet _)
  · exact .inl notQuote
  · exact .inr (Head.andThen_eq_none noAddress _)
  · exact .inr (Head.andThen_eq_none noSheet _)
  · exact .inl notQuote
  · exact .inr noAddress

/-- A word that is neither an address nor a truth word is a name. -/
theorem first?_word
    {name tail : List Char}
    (starts : ∃ c rest, name = c :: rest ∧ isNameStart c = true)
    (inside : ∀ c ∈ name, isNameChar c = true)
    (noAddress : addressLength? (name ++ tail) = none)
    (notTrue : name.map Char.toLower ≠ "true".toList)
    (notFalse : name.map Char.toLower ≠ "false".toList)
    (delimits : Delimits tail) :
    lexicon.first? (fun _ => true) (name ++ tail) = some (.name, name.length) := by
  have isWhole := nameLength?_append starts inside delimits.stopsName
  have noTruth := truthLength?_of_name inside notTrue notFalse delimits
  obtain ⟨c, rest, rfl, isStart⟩ := starts
  have split :
      Terminal.order =
        (referenceKinds ++ [.truth]) ++ .name :: Terminal.order.drop 8 := rfl
  refine first?_of_begins split (List.forall_mem_append.mpr ⟨?_, ?_⟩) isWhole
  · exact noReference_of_word isStart inside noAddress delimits
  · intro kind member
    obtain rfl := List.mem_singleton.mp member
    exact .inr noTruth

/-- A name is the first lexeme of a text that it begins. -/
theorem first?_name
    {n : String}
    {tail : List Char}
    (isName : IsName n)
    (delimits : Delimits tail) :
    lexicon.first? (fun _ => true) (n.toList ++ tail) =
      some (.name, n.toList.length) := by
  obtain ⟨c, rest, chars, starts⟩ := isName.starts
  have isStart : isNameStart c = true := by
    show ((c.isUpper || c.isLower) || c == '_') = true
    rw [Bool.or_assoc, starts, Bool.or_true]
  have notAddress : (c == '$' || Address.isCapital c) = false := by
    rcases Bool.or_eq_true_iff.mp starts with small | isUnderscore
    · have notDollar : c ≠ '$' := by
        rintro rfl
        cases small
      simp [notDollar, isCapital_of_isLower small]
    · rw [beq_iff_eq.mp isUnderscore]
      rfl
  have noAddress : addressLength? (n.toList ++ tail) = none := by
    rw [chars]
    exact addressLength?_eq_none notAddress (rest ++ tail)
  exact first?_word ⟨c, rest, chars, isStart⟩ isName.chars noAddress isName.notTrue
    isName.notFalse delimits

/-- Capitals have themselves as the upper case of their lower case. -/
theorem toUpper_toLower_of_isCapital
    {c : Char}
    (capital : Address.isCapital c = true) :
    c.toLower.toUpper = c := by
  have low : 65 ≤ c.toNat := (isCapital_iff.mp capital).1
  have high : c.toNat < 91 := Nat.lt_succ_of_le (isCapital_iff.mp capital).2
  have each : ∀ n < 91, 65 ≤ n → (Char.ofNat n).toLower.toUpper = Char.ofNat n := by
    decide
  have same := each c.toNat high low
  rwa [Char.ofNat_toNat] at same

/-- Words in capitals are the same if they are the same in small letters. -/
theorem eq_of_map_toLower_eq
    {word other : List Char}
    (capitals : ∀ c ∈ word, Address.isCapital c = true)
    (otherCapitals : ∀ c ∈ other, Address.isCapital c = true)
    (same : word.map Char.toLower = other.map Char.toLower) :
    word = other := by
  have back (cs : List Char) (each : ∀ c ∈ cs, Address.isCapital c = true) :
      (cs.map Char.toLower).map Char.toUpper = cs := by
    have same : cs.map (Char.toUpper ∘ Char.toLower) = cs.map id :=
      List.map_congr_left fun c member =>
        toUpper_toLower_of_isCapital (each c member)
    rw [List.map_map, same, List.map_id]
  rw [← back word capitals, same, back other otherCapitals]

/-- The name of a function is the first lexeme of a text that it begins. -/
theorem first?_function
    {f : String}
    {tail : List Char}
    (isFunction : IsFunction f)
    (delimits : Delimits tail) :
    lexicon.first? (fun _ => true) (f.toList ++ tail) =
      some (.name, f.toList.length) := by
  have isStart : ∀ c ∈ f.toList, isNameStart c = true := fun c member =>
    isNameStart_of_isCapital (isFunction.capitals c member)
  have starts : ∃ c rest, f.toList = c :: rest ∧ isNameStart c = true := by
    obtain ⟨c, rest, chars⟩ := List.exists_cons_of_ne_nil isFunction.nonempty
    exact ⟨c, rest, chars, isStart c (by simp [chars])⟩
  have isOther (word : String)
      (capitals : ∀ c ∈ word.toList, Address.isCapital c = true)
      (other : f ≠ word) :
      f.toList.map Char.toLower ≠ word.toList.map Char.toLower := fun same =>
    other
      (String.toList_inj.mp
        (eq_of_map_toLower_eq isFunction.capitals capitals same))
  exact first?_word starts
    (fun c member => isNameChar_of_isNameStart (isStart c member))
    (addressLength?_of_capitals isFunction.nonempty isFunction.capitals delimits)
    (isOther "TRUE" (forall_mem_of_all (by decide)) isFunction.notTrue)
    (isOther "FALSE" (forall_mem_of_all (by decide)) isFunction.notFalse) delimits

/-- A truth word is read to its end. -/
theorem truthLength?_literalText
    (b : Bool)
    {tail : List Char}
    (delimits : Delimits tail) :
    truthLength? (literalText (.bool b) ++ tail) =
      some (literalText (.bool b)).length := by
  have ends : ∀ c ∈ tail.head?, continuesTruth c = false :=
    delimits.head (by decide)
  cases tail with
  | nil =>
      cases b <;> rfl
  | cons c cs =>
      have isEnd : continuesTruth c ≠ true := by simp [ends c rfl]
      cases b with
      | true =>
          exact if_neg isEnd
      | false =>
          exact if_neg isEnd

/-- A truth word is the first lexeme of a text that it begins. -/
theorem first?_truth
    (b : Bool)
    {tail : List Char}
    (delimits : Delimits tail) :
    lexicon.first? (fun _ => true) (literalText (.bool b) ++ tail) =
      some (.truth, (literalText (.bool b)).length) := by
  have split : Terminal.order = referenceKinds ++ .truth :: Terminal.order.drop 7 :=
    rfl
  have capitals : ∀ c ∈ literalText (.bool b), Address.isCapital c = true :=
    forall_mem_of_all (by cases b <;> decide)
  obtain ⟨c, rest, chars⟩ : ∃ c rest, literalText (.bool b) = c :: rest := by
    cases b <;> exact ⟨_, _, rfl⟩
  have matching := truthLength?_literalText b delimits
  rw [chars] at capitals matching ⊢
  have starts : ∀ d ∈ c :: rest, isNameStart d = true := fun d member =>
    isNameStart_of_isCapital (capitals d member)
  have noReference := noReference_of_word (starts c List.mem_cons_self)
    (fun d member => isNameChar_of_isNameStart (starts d member))
    (addressLength?_of_capitals (List.cons_ne_nil c rest) capitals delimits)
    delimits
  exact first?_of_begins split noReference matching

/-! ## Numbers -/

/-- Without its letter there is no exponent. -/
theorem exponentLength?_of_delimits
    {tail : List Char}
    (delimits : Delimits tail) :
    exponentLength? tail = none := by
  have noLetter : ∀ c ∈ tail.head?, c ≠ 'e' ∧ c ≠ 'E' := delimits.head (by decide)
  cases tail with
  | nil =>
      rfl
  | cons c cs =>
      simp [exponentLength?, noLetter c rfl]

/-- Digits are the first lexeme of a text that they begin. -/
theorem first?_digits
    {digits tail : List Char}
    (nonempty : digits ≠ [])
    (allDigits : ∀ c ∈ digits, c.isDigit = true)
    (delimits : Delimits tail) :
    lexicon.first? (fun _ => true) (digits ++ tail) =
      some (.number, digits.length) := by
  have split : Terminal.order =
      (referenceKinds ++ [.truth, .name]) ++ .number :: Terminal.order.drop 9 := rfl
  have run := runLength?_append nonempty allDigits delimits.stopsDigits
  have noDecimal : decimalLength? (digits ++ tail) = none := by
    have noPoint : ∀ c ∈ tail.head?, c ≠ '.' := delimits.head (by decide)
    have whole : digitsLength (digits ++ tail) = digits.length :=
      congrArg List.length
        (takeWhile_append_of_stops allDigits delimits.stopsDigits)
    unfold decimalLength?
    dsimp only
    rw [whole, List.drop_left]
    cases tail with
    | nil =>
        rfl
    | cons c cs =>
        simp [noPoint c rfl]
  have matching : numberLength? (digits ++ tail) = some digits.length := by
    rw [numberLength?, Head.andThen_append run,
      exponentLength?_of_delimits delimits]
    simp only [Option.map_none, noDecimal, run]
  obtain ⟨c, rest, rfl⟩ := List.exists_cons_of_ne_nil nonempty
  have digit := allDigits c List.mem_cons_self
  refine first?_of_begins split (fun other member => .inl ?_) matching
  simp only [referenceKinds, List.cons_append, List.nil_append, List.mem_cons,
    List.not_mem_nil, or_false] at member
  rcases member with rfl | rfl | rfl | rfl | rfl | rfl | rfl | rfl <;>
    simp [Terminal.begins, isNameStart, isAlpha_of_isDigit digit,
      isCapital_of_isDigit digit, ne_of_isDigit digit '_' (by decide),
      ne_of_isDigit digit '$' (by decide), ne_of_isDigit digit '\'' (by decide)]

/-! ## Texts -/

/-- A written text is the first lexeme of a text that it begins. -/
theorem first?_string
    {s : String}
    (oneLine : '\n' ∉ s.toList)
    (tail : List Char) :
    lexicon.first? (fun _ => true) (literalText (.string s) ++ tail) =
      some (.string, (literalText (.string s)).length) := by
  have split : Terminal.order =
      (referenceKinds ++ [.truth, .name, .number]) ++
        .string :: Terminal.order.drop 10 := rfl
  refine first?_of_begins (c := '"') split (fun other member => .inl ?_) ?_
  · revert other
    decide
  · show (stringRestLength? (s.toList.flatMap escapeChar ++ ['"'] ++ tail)).map
        (· + 1) =
      some ('"' :: (s.toList.flatMap escapeChar ++ ['"'])).length
    rw [List.append_assoc, List.singleton_append,
      (paired_escape oneLine).stringRestLength?, List.length_cons,
      List.length_append]
    rfl

/-! ## Blanks and marks -/

/-- The kinds that are tried before blanks and marks. -/
def plainKinds : List Terminal :=
  referenceKinds ++ [.truth, .name, .number, .string]

/-- The separators. -/
def separators : List Char :=
  [' ', '\t', '\x0c', '\r', '\n']

theorem mem_separators
    {c : Char}
    (separator : isSeparator c = true) :
    c ∈ separators := by
  simpa [isSeparator, separators, or_assoc] using separator

/-- Blanks are the first lexeme of a text that they begin. -/
theorem first?_gap
    {gap tail : List Char}
    (nonempty : gap ≠ [])
    (isGap : ∀ c ∈ gap, isSeparator c = true)
    (stops : Stops isSeparator tail) :
    lexicon.first? (fun _ => true) (gap ++ tail) = some (.blank, gap.length) := by
  have split : Terminal.order = plainKinds ++ .blank :: Terminal.order.drop 11 :=
    rfl
  have run := runLength?_append nonempty isGap stops
  obtain ⟨c, rest, rfl⟩ := List.exists_cons_of_ne_nil nonempty
  have begins : ∀ other ∈ plainKinds, other.begins c = false :=
    forall_mem_of_all (P := fun c => ∀ other ∈ plainKinds, other.begins c = false)
      (by decide) c (mem_separators (isGap c List.mem_cons_self))
  exact first?_of_begins split (fun other member => .inl (begins other member)) run

/-- A mark is the first lexeme of a text that it begins, unless it is
part of a longer mark. -/
theorem first?_mark
    {mark : Mark}
    {tail : List Char}
    (notDollar : mark ≠ .dollar)
    (apart : mark = .less ∨ mark = .greater → ∀ c ∈ tail.head?, c ≠ '=' ∧ c ≠ '>') :
    lexicon.first? (fun _ => true) (mark.text.toList ++ tail) =
      some (.mark mark, mark.text.toList.length) := by
  cases tail with
  | nil =>
      cases mark <;> rfl
  | cons c cs =>
      have longer (first second : Char) (other : second ≠ c) :
          fixedLength? [first, second] (first :: c :: cs) = none := by
        simp [fixedLength?, other]
      cases mark with
      | dollar =>
          exact absurd rfl notDollar
      | less =>
          have split : Terminal.order = Terminal.order.take 24 ++ .mark .less ::
              Terminal.order.drop 25 := rfl
          have others : ∀ other ∈ Terminal.order.take 24, other.begins '<' = false ∨
              other = .mark .lessEqual ∨ other = .mark .angles := by
            decide
          obtain ⟨notEqual, notGreater⟩ := apart (.inl rfl) c rfl
          refine first?_of_begins
            split (fun other member => (others other member).imp_right ?_) rfl
          rintro (rfl | rfl)
          · exact longer '<' '=' notEqual.symm
          · exact longer '<' '>' notGreater.symm
      | greater =>
          have split : Terminal.order = Terminal.order.take 26 ++ .mark .greater ::
              Terminal.order.drop 27 := rfl
          have others : ∀ other ∈ Terminal.order.take 26, other.begins '>' = false ∨
              other = .mark .greaterEqual := by
            decide
          obtain ⟨notEqual, -⟩ := apart (.inr rfl) c rfl
          refine first?_of_begins
            split (fun other member => (others other member).imp_right ?_) rfl
          rintro rfl
          exact longer '>' '=' notEqual.symm
      | _ =>
          rfl

end GridScript.Formula
