import GridScript.Formula.Evaluation
import GridScript.Proofs.Formula.Syntax.RoundTrip

namespace GridScript.Formula

/-!
# Words of formulas

A word is read as a name, with or without a dollar sign before it, unless it
begins with the address of a cell. Then the address is cut off as a reference,
and the rest of the word is rejected.
-/

open GridScript.Number
open GridScript.Parsing
open GridScript.Parsing.Lexicon
open GridScript.Parsing.Language
open GridScript.Text

/-- A word: a letter or underscore before letters, digits and underscores, and
no truth word in any letter case. -/
structure IsWord (n : String) : Prop where
  starts : ∃ c rest, n.toList = c :: rest ∧ isNameStart c = true
  chars : ∀ c ∈ n.toList, isNameChar c = true
  notTrue : n.toList.map Char.toLower ≠ "true".toList
  notFalse : n.toList.map Char.toLower ≠ "false".toList

/-- A word begins with the address of a cell. -/
def LeadsWithAddress (n : String) : Prop :=
  ∃ address rest, IsAddress address ∧ n.toList = address.toList ++ rest

/-- The dollar sign that may stand before a name. -/
def dollarText (dollar : Bool) : List Char :=
  if dollar then ['$'] else []

/-- A word as a formula, with or without an equals sign and with or
without a dollar sign. -/
def wordFormula (equals dollar : Bool) (n : String) : String :=
  String.ofList ((if equals then ['='] else []) ++ (dollarText dollar ++ n.toList))

variable {n : String} {tail : List Char}

namespace IsWord

theorem nonempty (isWord : IsWord n) : n.toList ≠ [] := by
  obtain ⟨c, rest, chars, -⟩ := isWord.starts
  simp [chars]

theorem noDollar (isWord : IsWord n) : '$' ∉ n.toList := fun member => by
  cases isWord.chars _ member

theorem head_ne_dollar
    (isWord : IsWord n)
    (tail : List Char) :
    ∀ c ∈ (n.toList ++ tail).head?, c ≠ '$' := by
  rintro c isFirst rfl
  rw [List.head?_append_of_ne_nil _ isWord.nonempty] at isFirst
  exact isWord.noDollar (List.mem_of_mem_head? isFirst)

/-- With its dollar sign or without it, a word can stand wherever an
operand may stand. -/
theorem isOperand
    (isWord : IsWord n)
    (dollar : Bool) :
    IsOperand (dollarText dollar ++ n.toList) := by
  refine .of_forall (List.append_ne_nil_of_right_ne_nil _ isWord.nonempty) ?_
  refine List.forall_mem_append.mpr ⟨fun c member => ?_, fun c member =>
    visible_of_isNameChar (isWord.chars c member)⟩
  cases dollar with
  | true =>
      rw [List.mem_singleton.mp member]
      decide
  | false =>
      cases member

end IsWord

/-! ## Words that begin with an address -/

/-- A dollar sign before an address is part of it. -/
theorem addressLength?_dollar
    {cs : List Char}
    (noDollar : ∀ c ∈ cs.head?, c ≠ '$')
    (dollar : Bool) :
    addressLength? (dollarText dollar ++ cs) =
      (addressLength? cs).map ((dollarText dollar).length + ·) := by
  cases dollar with
  | true =>
      rw [addressLength?, Head.andThen_dollar noDollar]
      rfl
  | false =>
      show addressLength? cs = _
      simp [dollarText]

/-- What is read as an address at the beginning of a word is an address that
the word begins with. -/
theorem leadsWithAddress_of_addressLength?
    {length : Nat}
    (isWord : IsWord n)
    (delimits : Delimits tail)
    (found : addressLength? (n.toList ++ tail) = some length) :
    LeadsWithAddress n := by
  have inside := reads_address _ _ found
  have isAddress := yields_address _ _ found
  -- No delimiter is part of an address, so the address ends within the word.
  have within : (n.toList ++ tail).take length = n.toList.take length := by
    rw [List.take_append] at inside ⊢
    cases beyond : tail.take (length - n.toList.length) with
    | nil =>
        exact List.append_nil _
    | cons c more =>
        have isFirst : tail.head? = some c := by
          rw [← List.take_append_drop (length - n.toList.length) tail, beyond]
          rfl
        have outside : isAddressChar c = false :=
          delimits.head (P := fun c => isAddressChar c = false) (by decide)
            c isFirst
        rw [beyond] at inside
        cases outside.symm.trans
          (inside c (List.mem_append_right _ List.mem_cons_self))
  rw [within, replaceChar_of_not_mem fun member =>
    isWord.noDollar (List.mem_of_mem_take member)]
    at isAddress
  exact ⟨_, n.toList.drop length, isAddress,
    by rw [String.toList_ofList, List.take_append_drop]⟩

/-- A word that begins with an address but is none begins with one that a letter
or an underscore follows. -/
theorem LeadsWithAddress.exists_split
    (leads : LeadsWithAddress n)
    (isWord : IsWord n)
    (notAddress : ¬IsAddress n) :
    ∃ address c rest, IsAddress address ∧ n.toList = address.toList ++ c :: rest ∧
      isNameStart c = true := by
  obtain ⟨address, rest,
      ⟨letters, digits, chars, nonempty, few, capitals, digitsNonempty,
    allDigits⟩, split⟩ := leads
  have moreDigits : ∀ c ∈ rest.takeWhile Char.isDigit, c.isDigit = true := fun c =>
    List.mem_takeWhile_imp
  have isAddress :
      IsAddress
        (String.ofList (letters ++ (digits ++ rest.takeWhile Char.isDigit))) :=
    ⟨letters, _, String.toList_ofList, nonempty, few, capitals,
      List.append_ne_nil_of_left_ne_nil digitsNonempty _,
      List.forall_mem_append.mpr ⟨allDigits, moreDigits⟩⟩
  have whole : n.toList = letters ++ (digits ++ rest.takeWhile Char.isDigit) ++
      rest.dropWhile Char.isDigit := by
    rw [split, chars]
    simp
  cases left : rest.dropWhile Char.isDigit with
  | nil =>
      rw [left, List.append_nil] at whole
      rw [← whole, String.ofList_toList] at isAddress
      exact absurd isAddress notAddress
  | cons c later =>
      rw [left] at whole
      refine ⟨_, c, later, isAddress, by rw [String.toList_ofList, whole], ?_⟩
      have notDigit : c.isDigit = false := by
        have isFirst := List.head?_dropWhile_not Char.isDigit rest
        rw [left] at isFirst
        simpa using isFirst
      have isChar : isNameChar c = true := isWord.chars c (by simp [whole])
      simpa [isNameChar, isNameStart, Char.isAlphanum, notDigit] using isChar

/-- What goes on like a word does not go on with a digit. -/
theorem stopsDigits_of_isNameStart
    {c : Char}
    (starts : isNameStart c = true)
    (rest : List Char) :
    Stops Char.isDigit (c :: rest) := by
  refine .cons (Bool.eq_false_iff.mpr fun digit => ?_) rest
  simp [isNameStart, isAlpha_of_isDigit digit, ne_of_isDigit digit '_' (by decide)]
    at starts

theorem IsAddress.leads (isAddress : IsAddress n) : LeadsWithAddress n :=
  ⟨n, [], isAddress, (List.append_nil _).symm⟩

/-- An address is read from a word that begins with one. -/
theorem LeadsWithAddress.addressLength?_ne_none
    (leads : LeadsWithAddress n)
    (isWord : IsWord n) :
    addressLength? n.toList ≠ none := by
  by_cases isAddress : IsAddress n
  · have reads := isAddress.addressLength?_append .nil
    rw [List.append_nil] at reads
    rw [reads]
    exact nofun
  · obtain ⟨address, c, rest, isAddress, split, starts⟩ :=
      leads.exists_split isWord isAddress
    rw [split,
      isAddress.addressLength?_append (stopsDigits_of_isNameStart starts rest)]
    exact nofun

/-! ## Words that are read as names -/

/-- A dollar sign is the first lexeme of a text that it begins, if no
address follows it. -/
theorem first?_dollar
    {cs : List Char}
    (noDollar : ∀ c ∈ cs.head?, c ≠ '$')
    (noAddress : addressLength? cs = none) :
    lexicon.first? (fun _ => true) (['$'] ++ cs) =
      some (.mark .dollar, ['$'].length) := by
  have split : Terminal.order = Terminal.order.take 14 ++ .mark .dollar ::
      Terminal.order.drop 15 := rfl
  have others : ∀ other ∈ Terminal.order.take 14, other.begins '$' = false ∨
      other = .range ∨ other = .cell := by
    decide
  have noCell : addressLength? ('$' :: cs) = none := by
    rw [show '$' :: cs = dollarText true ++ cs from rfl,
      addressLength?_dollar noDollar, noAddress]
    rfl
  refine first?_of_begins
    split (fun other member => (others other member).imp_right ?_) rfl
  rintro (rfl | rfl)
  · exact Head.andThen_eq_none noCell _
  · exact noCell

theorem derives_dollarName (place namePlace : Place) (cs : List Char) :
    Derives language grammar [.phrase .atom]
      [Mark.dollar.token place, ⟨.name, cs, namePlace⟩]
      [.expression (.name (String.ofList cs))] 1 := by
  have inner : Derives language grammar (grammar.symbols .dollarName)
      [Mark.dollar.token place, ⟨.name, cs, namePlace⟩]
      [Phrase.token (Mark.dollar.token place),
        Phrase.token ⟨Terminal.name, cs, namePlace⟩] 0 :=
    .token (Mark.dollar.token place) (.token ⟨Terminal.name, cs, namePlace⟩ .nil)
  exact .of_rule Rule.dollarName (by decide) inner rfl

/-- A word that does not begin with an address is read as a name. -/
theorem reads_word
    (isWord : IsWord n)
    (plain : ¬LeadsWithAddress n)
    (dollar : Bool) :
    ReadsAs .atom (slackOf 8) (dollarText dollar ++ n.toList)
      (.expression (.name n)) := by
  have noAddress (tail : List Char) (delimits : Delimits tail) :
      addressLength? (n.toList ++ tail) = none :=
    Option.eq_none_iff_forall_ne_some.mpr fun _ found =>
      plain (leadsWithAddress_of_addressLength? isWord delimits found)
  have first (tail : List Char) (delimits : Delimits tail) :
      lexicon.first? (fun _ => true) (n.toList ++ tail) =
        some (.name, n.toList.length) :=
    first?_word isWord.starts isWord.chars (noAddress tail delimits) isWord.notTrue
      isWord.notFalse delimits
  have isName : Expression.name (String.ofList n.toList) = .name n := by
    rw [String.ofList_toList]
  cases dollar with
  | false =>
      refine .ofLexeme .name (by decide) rfl rfl first rfl (isWord.isOperand false)
        fun place => ?_
      exact congrArg (fun e => Except.ok (Phrase.expression e)) isName
  | true =>
      refine ⟨isWord.isOperand true, fun place tail delimits => ?_⟩
      have sign :
          lexicon.Segment place ['$'] [Mark.dollar.token place]
            (place.advance ['$'])
          (n.toList ++ tail) :=
        .token place _
          (first?_dollar (isWord.head_ne_dollar tail) (noAddress tail delimits))
          (List.cons_ne_nil _ _) rfl
      have word : lexicon.Segment (place.advance ['$']) n.toList
          [⟨.name, n.toList, place.advance ['$']⟩]
          ((place.advance ['$']).advance n.toList) tail :=
        .token _ tail (first tail delimits) isWord.nonempty rfl
      refine ⟨_, _, 1, sign.append word, ?_, Nat.le_add_left _ _⟩
      have derives := derives_dollarName place (place.advance ['$']) n.toList
      rwa [isName] at derives

/-! ## Words that are rejected -/

/-- After the address of a cell no lexeme may begin with a letter or an
underscore. -/
theorem begins_after_cell
    {c : Char}
    (starts : isNameStart c = true) :
    ∀ kind ∈ Terminal.order,
      (lexicon.ignored.contains kind || language.wants 22 kind) = true →
      kind.begins c = false := by
  have kinds : ∀ kind ∈ Terminal.order,
      (lexicon.ignored.contains kind || language.wants 22 kind) = true →
        kind = .blank ∨ ∃ mark ∈ Mark.all, kind = .mark mark := by
    decide +kernel
  intro kind member wanted
  rcases kinds kind member wanted with rfl | ⟨mark, -, rfl⟩
  · have separators : ∀ d ∈ separators, isNameStart d = false :=
      forall_mem_of_all (by decide)
    rw [Terminal.begins, Bool.eq_false_iff]
    intro separator
    cases starts.symm.trans (separators c (mem_separators separator))
  · have signs :
        ∀ mark : Mark, ∀ d ∈ mark.text.toList.head?, isNameStart d = false := by
      intro mark d isFirst
      cases mark <;> cases isFirst <;> rfl
    rw [Terminal.begins, beq_eq_false_iff_ne]
    intro isFirst
    cases starts.symm.trans (signs mark c isFirst)

/-- The parser after a first address that this text follows. -/
def afterCell (lexeme rest : List Char) : Configuration Terminal Phrase Breach :=
  ⟨[⟨22, .ok (.token ⟨.cell, lexeme, .start⟩)⟩], none, some ⟨.cell, lexeme, .start⟩,
    Place.start.advance lexeme, rest⟩

/-- An address is read and used in two steps. -/
theorem run_cell
    {lexeme rest : List Char}
    (nonempty : lexeme ≠ [])
    (first :
      lexicon.first? (fun _ => true) (lexeme ++ rest) = some (.cell, lexeme.length))
    (fuel : Nat) :
    language.run (fuel + 2) (initial (lexeme ++ rest)) =
      language.run fuel (afterCell lexeme rest) := by
  have leads := leads_of_first .start (by simp [nonempty]) first rfl
  rw [List.take_left, List.drop_left] at leads
  have wanted : language.wants 0 .cell = true := by
    decide +kernel
  have shift : language.action? 0 .cell = some (.shift 22) := by
    decide +kernel
  have scan : language.lexicon.scan (language.wants 0) .start (lexeme ++ rest) =
      .token ⟨.cell, lexeme, .start⟩ rest :=
    leads (language.wants 0) _ wanted (Nat.le_refl _)
  have looked : language.step (initial (lexeme ++ rest)) =
      .next ⟨[], some ⟨.cell, lexeme, .start⟩, none, Place.start.advance lexeme,
        rest⟩ := by
    show language.look (initial (lexeme ++ rest)) = _
    unfold look
    dsimp only [initial, top]
    rw [scan]
  have used : language.step
      ⟨[], some ⟨.cell, lexeme, .start⟩, none, Place.start.advance lexeme, rest⟩ =
        .next (afterCell lexeme rest) := by
    rw [step]
    dsimp only
    rw [use]
    dsimp only [top]
    rw [shift]
    rfl
  rw [run, looked]
  dsimp only
  rw [run, used]

/-- What goes on like a word after an address is rejected. -/
theorem step_afterCell
    {c : Char}
    (starts : isNameStart c = true)
    (lexeme rest : List Char) :
    ∃ rejection, language.step (afterCell lexeme (c :: rest)) =
      .done (.rejected rejection) := by
  have none : lexicon.first?
      (fun kind => lexicon.ignored.contains kind || language.wants 22 kind)
      (c :: rest) = none := by
    rw [Lexicon.first?, List.findSome?_eq_none_iff]
    intro kind member
    split
    next wanted =>
      rw [show lexicon.length? kind = kind.length? from rfl,
        Terminal.length?_eq_none (begins_after_cell starts kind member wanted)]
      rfl
    next =>
      rfl
  have scan (place : Place) :
      language.lexicon.scan (language.wants 22) place (c :: rest) =
        .stuck place (c :: rest) := by
    show lexicon.scanFrom _ (rest.length + 1) place (c :: rest) = _
    rw [scanFrom, none]
  rw [step, afterCell]
  dsimp only
  rw [look]
  dsimp only [top]
  rw [scan]
  dsimp only
  split <;> exact ⟨_, rfl⟩

/-- An address that a word goes on from is cut off it. -/
theorem first?_leading_cell
    {address rest : List Char}
    {c : Char}
    (isWord : IsWord n)
    (isAddress : IsAddress (String.ofList address))
    (starts : isNameStart c = true)
    (split : n.toList = address ++ c :: rest)
    (dollar : Bool) :
    lexicon.first? (fun _ => true) (dollarText dollar ++ address ++ c :: rest) =
      some (.cell, (dollarText dollar ++ address).length) := by
  have order : Terminal.order =
      [.sheetRange, .quotedSheetRange, .range, .sheetCell, .quotedSheetCell] ++
        .cell :: Terminal.order.drop 6 := rfl
  have noDollar : ∀ d ∈ (address ++ c :: rest).head?, d ≠ '$' := by
    have plain := isWord.head_ne_dollar []
    rwa [List.append_nil, split] at plain
  have cell : addressLength? (dollarText dollar ++ address ++ c :: rest) =
      some (dollarText dollar ++ address).length := by
    have reads :=
      isAddress.addressLength?_append (stopsDigits_of_isNameStart starts rest)
    rw [String.toList_ofList] at reads
    rw [List.append_assoc, addressLength?_dollar noDollar, reads,
      List.length_append]
    rfl
  have noColon : ∀ d ∈ (c :: rest).head?, d ≠ ':' := by
    rintro d isFirst rfl
    cases isFirst
    cases starts
  have noRange : rangeLength? (dollarText dollar ++ address ++ c :: rest) = none :=
    Head.andThen_stuck cell (Head.andThen_eq_none (fixedLength?_eq_none noColon) _)
  have noSheet : sheetLength? (dollarText dollar ++ address ++ c :: rest) = none ∧
      quotedSheetLength? (dollarText dollar ++ address ++ c :: rest) = none := by
    rw [List.append_assoc, ← split]
    cases dollar with
    | true =>
        exact ⟨Head.andThen_eq_none (nameLength?_eq_none (by decide) _) _,
          quotedSheetLength?_eq_none (by decide) _⟩
    | false =>
        have name : sheetLength? (n.toList ++ []) = none :=
          sheetLength?_of_name isWord.starts isWord.chars .nil nofun
        have quoted := quotedSheetLength?_of_name isWord.starts []
        rw [List.append_nil] at name quoted
        exact ⟨name, quoted⟩
  refine Lexicon.first?_eq_some order (fun other member => ?_) cell
  simp only [List.mem_cons, List.not_mem_nil, or_false] at member
  rcases member with rfl | rfl | rfl | rfl | rfl
  · exact Head.andThen_eq_none noSheet.1 _
  · exact Head.andThen_eq_none noSheet.2 _
  · exact noRange
  · exact Head.andThen_eq_none noSheet.1 _
  · exact Head.andThen_eq_none noSheet.2 _

/-- A word that begins with an address but is none is rejected. -/
theorem rejects_word
    (isWord : IsWord n)
    (notAddress : ¬IsAddress n)
    (leads : LeadsWithAddress n)
    (dollar : Bool) :
    ∃ rejection,
      language.parse (dollarText dollar ++ n.toList) = .rejected rejection := by
  obtain ⟨address, c, rest, isAddress, split, starts⟩ :=
    leads.exists_split isWord notAddress
  have isAddressText : IsAddress (String.ofList address.toList) := by
    rwa [String.ofList_toList]
  have first := first?_leading_cell isWord isAddressText starts split dollar
  have nonempty : dollarText dollar ++ address.toList ≠ [] :=
    List.append_ne_nil_of_right_ne_nil _ isAddress.ne_nil
  obtain ⟨rejection, stepped⟩ :=
    step_afterCell starts (dollarText dollar ++ address.toList) rest
  have enough : 3 ≤ stepLimit (dollarText dollar ++ n.toList) := by
    unfold stepLimit
    omega
  obtain ⟨fuel, limit⟩ := Nat.exists_eq_add_of_le' enough
  refine ⟨rejection, ?_⟩
  rw [Language.parse, limit, split, ← List.append_assoc, run_cell nonempty first,
    run, stepped]

/-! ## Word formulas -/

theorem parse_of_plain
    (isWord : IsWord n)
    (plain : ¬LeadsWithAddress n)
    (equals dollar : Bool) :
    parse (wordFormula equals dollar n) = .ok (.name n) := by
  have reads : ReadsAs (categoryOf 8) (slackOf 8) (dollarText dollar ++ n.toList)
      (.expression (.name n)) := reads_word isWord plain dollar
  exact parse_of_reads (reads.weaken (Nat.zero_le 8) (Nat.le_refl 8)) equals

theorem parse_of_leads
    (isWord : IsWord n)
    (notAddress : ¬IsAddress n)
    (leads : LeadsWithAddress n)
    (equals dollar : Bool) :
    ∃ error, parse (wordFormula equals dollar n) = fail error := by
  obtain ⟨rejection, rejected⟩ := rejects_word isWord notAddress leads dollar
  have operand := isWord.isOperand dollar
  unfold parse wordFormula
  dsimp only
  rw [String.toList_ofList, body_of_operand operand equals, operand.trim_nonempty,
    rejected]
  exact ⟨_, rfl⟩

/-- Evaluating a name gives the value that the context has for it. -/
theorem evaluate_of_parse
    {context : Context}
    {resolver : Option Resolver}
    {text : String}
    {v : Value}
    (parsed : parse text = .ok (.name n))
    (held : context.lookup n = some v) :
    evaluate context resolver text = .ok v := by
  unfold evaluate
  rw [parsed]
  show Outcome.mapError Error.evaluation (lookupName context n) = _
  rw [lookupName, held]
  rfl

/--
A word that is no address is a name of formulas exactly if it does not
begin with an address.

As a name it stands for what the context has for it. A word that begins with an
address is rejected.
-/
theorem parse_word
    (isWord : IsWord n)
    (notAddress : ¬IsAddress n)
    (equals dollar : Bool) :
    (parse (wordFormula equals dollar n) = .ok (.name n) ↔ ¬LeadsWithAddress n) ∧
    (¬LeadsWithAddress n →
      ∀ (context : Context) (resolver : Option Resolver) (v : Value),
        context.lookup n = some v →
        evaluate context resolver (wordFormula equals dollar n) = .ok v) ∧
    (LeadsWithAddress n →
      ∃ error, parse (wordFormula equals dollar n) = fail error) := by
  refine ⟨⟨fun parsed leads => ?_,
      fun plain => parse_of_plain isWord plain equals dollar⟩, ?_,
    fun leads => parse_of_leads isWord notAddress leads equals dollar⟩
  · obtain ⟨error, failed⟩ := parse_of_leads isWord notAddress leads equals dollar
    cases parsed.symm.trans failed
  · intro plain context resolver v held
    exact evaluate_of_parse (parse_of_plain isWord plain equals dollar) held

/-- Four capitals before a digit make no address. -/
theorem parse_word_yearTotal :
    IsWord "YEAR1_total" ∧ ¬IsAddress "YEAR1_total" ∧
      parse (wordFormula true true "YEAR1_total") = .ok (.name "YEAR1_total") := by
  have isWord : IsWord "YEAR1_total" :=
    ⟨⟨'Y', _, rfl, rfl⟩, forall_mem_of_all (by decide), by decide, by decide⟩
  have plain : ¬LeadsWithAddress "YEAR1_total" := fun leads =>
    leads.addressLength?_ne_none isWord (by decide)
  have notAddress : ¬IsAddress "YEAR1_total" :=
    fun isAddress => plain isAddress.leads
  exact ⟨isWord, notAddress, (parse_word isWord notAddress true true).1.mpr plain⟩

/-- A word that goes on after an address is no name. -/
theorem quarter_is_no_name :
    IsWord "Q1_total" ∧ ¬IsAddress "Q1_total" ∧
      parse "Q1_total" = fail ⟨.token ⟨.name, "_total".toList, ⟨1, 3, 2⟩⟩, 2⟩ ∧
      parse "$Q1_total" = fail ⟨.token ⟨.name, "_total".toList, ⟨1, 4, 3⟩⟩, 3⟩ := by
  refine ⟨⟨⟨'Q', _, rfl, rfl⟩, forall_mem_of_all (by decide), by decide, by decide⟩,
    fun isAddress => ?_, rfl, rfl⟩
  rcases isAddress.capital_or_digit (c := '_') (by decide) with capital | digit
  · cases capital
  · cases digit

end GridScript.Formula
