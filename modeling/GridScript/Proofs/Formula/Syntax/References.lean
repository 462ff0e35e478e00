import GridScript.Proofs.Formula.Syntax.Lexemes
import GridScript.Proofs.Formula.Syntax.Table
import GridScript.Proofs.Text.Rewriting

namespace GridScript.Formula

/-!
# Written references

A written reference is one lexeme, and what is made of the lexeme is the
reference. An address that goes on with a colon is a range, and a name
that goes on with an exclamation mark names a sheet, even if the name is
itself an address.
-/

open GridScript.Number
open GridScript.Parsing
open GridScript.Text

/-! ## Addresses -/

namespace IsAddress

variable {address : String}

theorem capital_or_digit
    (isAddress : IsAddress address)
    {c : Char}
    (member : c ∈ address.toList) :
    Address.isCapital c = true ∨ c.isDigit = true := by
  obtain ⟨letters, digits, chars, -, -, capitals, -, allDigits⟩ := isAddress.split
  rw [chars] at member
  exact (List.mem_append.mp member).imp (capitals c) (allDigits c)

theorem nameChar
    (isAddress : IsAddress address)
    {c : Char}
    (member : c ∈ address.toList) :
    isNameChar c = true :=
  (isAddress.capital_or_digit member).elim
    (fun capital => isNameChar_of_isNameStart (isNameStart_of_isCapital capital))
    isNameChar_of_isDigit

theorem starts (isAddress : IsAddress address) :
    ∃ c rest, address.toList = c :: rest ∧ Address.isCapital c = true := by
  obtain ⟨letters, digits, chars, nonempty, -, capitals, -⟩ := isAddress.split
  obtain ⟨c, rest, rfl⟩ := List.exists_cons_of_ne_nil nonempty
  exact ⟨c, rest ++ digits, chars, capitals c List.mem_cons_self⟩

theorem ne_nil (isAddress : IsAddress address) : address.toList ≠ [] := by
  obtain ⟨c, rest, chars, -⟩ := isAddress.starts
  simp [chars]

/-- An address is read to its end. -/
theorem addressLength?_append
    (isAddress : IsAddress address)
    {tail : List Char}
    (stops : Stops Char.isDigit tail) :
    addressLength? (address.toList ++ tail) = some address.toList.length := by
  obtain ⟨letters, digits, chars, nonempty, few, capitals, digitsNonempty,
    allDigits⟩ :=
    isAddress.split
  have noDollar (cs rest : List Char) (nonempty : cs ≠ [])
      (plain : ∀ c ∈ cs, c ≠ '$') : ∀ c ∈ (cs ++ rest).head?, c ≠ '$' := by
    intro c isFirst
    rw [List.head?_append_of_ne_nil _ nonempty] at isFirst
    exact plain c (List.mem_of_mem_head? isFirst)
  have stopsLetters : Stops Address.isCapital (digits ++ tail) := by
    intro c isFirst
    rw [List.head?_append_of_ne_nil _ digitsNonempty] at isFirst
    exact isCapital_of_isDigit (allDigits c (List.mem_of_mem_head? isFirst))
  have readsLetters :
      lettersLength? (letters ++ (digits ++ tail)) = some letters.length := by
    rw [lettersLength?, runLength?_append nonempty capitals stopsLetters]
    exact if_pos few
  have lettersPlain : ∀ c ∈ letters, c ≠ '$' := by
    rintro c member rfl
    cases capitals _ member
  have digitsPlain : ∀ c ∈ digits, c ≠ '$' := fun c member =>
    ne_of_isDigit (allDigits c member) '$' (by decide)
  rw [chars, List.append_assoc, addressLength?,
    Head.andThen_dollar (noDollar _ _ nonempty lettersPlain),
    Head.andThen_append readsLetters,
    Head.andThen_dollar (noDollar _ _ digitsNonempty digitsPlain),
    runLength?_append digitsNonempty allDigits stops, List.length_append]
  rfl

/-- Without a colon after it an address is no range. -/
theorem rangeLength?_append
    (isAddress : IsAddress address)
    {tail : List Char}
    (stops : Stops Char.isDigit tail)
    (noColon : ∀ c ∈ tail.head?, c ≠ ':') :
    rangeLength? (address.toList ++ tail) = none :=
  Head.andThen_stuck (isAddress.addressLength?_append stops)
    (Head.andThen_eq_none (fixedLength?_eq_none noColon) _)

end IsAddress

/-- A range is read to its end. -/
theorem rangeLength?_range
    {start finish : String}
    {tail : List Char}
    (isStart : IsAddress start)
    (isFinish : IsAddress finish)
    (stops : Stops Char.isDigit tail) :
    rangeLength? (start.toList ++ ':' :: finish.toList ++ tail) =
      some (start.toList ++ ':' :: finish.toList).length := by
  have later :
      Head.andThen (fixedLength? [':']) addressLength?
        ([':'] ++ finish.toList ++ tail) =
      some ([':'] ++ finish.toList).length :=
    Head.andThen_reads (fixedLength?_append [':'] _)
      (isFinish.addressLength?_append stops)
  exact Head.andThen_reads (isStart.addressLength?_append (.cons rfl _)) later

/-! ## What addresses are made of -/

/-- A character of an address. -/
def isAddressChar (c : Char) : Bool :=
  c == '$' || Address.isCapital c || c.isDigit

/-- Whatever a reader reads has a property. -/
def Head.Yields (P : List Char → Prop) (head : Head) : Prop :=
  ∀ cs n, head cs = some n → P (cs.take n)

/-- What one reader reads after another one has a front and a back. -/
theorem Head.Yields.andThen
    {P Q : List Char → Prop}
    {first second : Head}
    (firstYields : first.Yields P)
    (secondYields : second.Yields Q) :
    (Head.andThen first second).Yields fun text =>
      ∃ front back, text = front ++ back ∧ P front ∧ Q back := by
  intro cs n found
  unfold Head.andThen at found
  split at found
  next length isFirst =>
    obtain ⟨more, isSecond, rfl⟩ := Option.map_eq_some_iff.mp found
    exact ⟨_, _, List.take_add .., firstYields _ _ isFirst,
      secondYields _ _ isSecond⟩
  next =>
    cases found

/-- All that a reader reads is of a class. -/
def Head.Reads (inClass : Char → Bool) (head : Head) : Prop :=
  ∀ cs n, head cs = some n → ∀ c ∈ cs.take n, inClass c = true

theorem Head.Reads.andThen
    {inClass : Char → Bool}
    {first second : Head}
    (firstReads : first.Reads inClass)
    (secondReads : second.Reads inClass) :
    (Head.andThen first second).Reads inClass := by
  intro cs n found
  have front : first.Yields fun text => ∀ c ∈ text, inClass c = true := firstReads
  have back : second.Yields fun text => ∀ c ∈ text, inClass c = true := secondReads
  obtain ⟨_, _, same, inFront, inBack⟩ := front.andThen back cs n found
  rw [same]
  exact List.forall_mem_append.mpr ⟨inFront, inBack⟩

theorem reads_run
    {inClass inRun : Char → Bool}
    (inside : ∀ c, inRun c = true → inClass c = true) :
    Head.Reads inClass (runLength? inRun) := by
  intro cs n found c member
  rw [(runLength?_eq_some found).1] at member
  exact inside c (List.mem_takeWhile_imp member)

theorem reads_dollar :
    Head.Reads isAddressChar fun cs => some (dollarLength cs) := by
  intro cs n found c member
  obtain rfl := Option.some.inj found
  unfold dollarLength at member
  split at member
  · rw [List.mem_singleton.mp member]
    rfl
  · cases member

/-- Addresses are made of the characters of addresses. -/
theorem reads_address : addressLength?.Reads isAddressChar := by
  have capitals : Head.Reads isAddressChar (runLength? Address.isCapital) :=
    reads_run fun c capital => by simp [isAddressChar, capital]
  have digits : Head.Reads isAddressChar (runLength? Char.isDigit) :=
    reads_run fun c digit => by simp [isAddressChar, digit]
  have letters : Head.Reads isAddressChar lettersLength? := by
    intro cs n found
    unfold lettersLength? at found
    split at found
    next length isRun =>
      split at found
      · exact capitals cs n (isRun.trans found)
      · cases found
    next =>
      cases found
  exact reads_dollar.andThen (letters.andThen (reads_dollar.andThen digits))

/-! ## What readers yield -/

theorem yields_run (inRun : Char → Bool) :
    Head.Yields (fun text => text ≠ [] ∧ ∀ c ∈ text, inRun c = true)
      (runLength? inRun) := by
  intro cs n found
  refine ⟨fun empty => ?_, reads_run (fun _ => id) cs n found⟩
  have none : cs.takeWhile inRun = [] :=
    (runLength?_eq_some found).1.symm.trans empty
  rw [runLength?, none] at found
  cases found

theorem yields_dollar :
    Head.Yields (fun text => replaceChar '$' [] text = []) fun cs =>
      some (dollarLength cs) := by
  intro cs n found
  obtain rfl := Option.some.inj found
  unfold dollarLength
  split <;> rfl

theorem yields_letters :
    Head.Yields
      (fun text =>
        text ≠ [] ∧ text.length ≤ 3 ∧ ∀ c ∈ text, Address.isCapital c = true)
      lettersLength? := by
  intro cs n found
  unfold lettersLength? at found
  split at found
  next length isRun =>
    split at found
    next few =>
      obtain rfl := Option.some.inj found
      obtain ⟨nonempty, capitals⟩ := yields_run _ cs length isRun
      exact ⟨nonempty, Nat.le_trans (List.length_take_le ..) few, capitals⟩
    next =>
      cases found
  next =>
    cases found

/-- What is read as an address is one, apart from dollar signs. -/
theorem yields_address :
    addressLength?.Yields fun text =>
      IsAddress (String.ofList (replaceChar '$' [] text)) := by
  intro cs n found
  obtain ⟨first, _, same, noFirst, letters, _, rfl, isLetters, second, digits, rfl,
    noSecond,
      isDigits⟩ :=
    (yields_dollar.andThen
      (yields_letters.andThen (yields_dollar.andThen (yields_run _))))
      cs n found
  obtain ⟨nonempty, few, capitals⟩ := isLetters
  have plainLetters : replaceChar '$' [] letters = letters :=
    replaceChar_of_not_mem fun member => by cases capitals _ member
  have plainDigits : replaceChar '$' [] digits = digits :=
    replaceChar_of_not_mem fun member => by cases isDigits.2 _ member
  have plain :
      replaceChar '$' [] (first ++ (letters ++ (second ++ digits))) =
        letters ++ digits := by
    rw [replaceChar_append, replaceChar_append, replaceChar_append, noFirst,
      plainLetters, noSecond, plainDigits]
    rfl
  rw [same, plain]
  exact ⟨letters, digits, String.toList_ofList, nonempty, few, capitals, isDigits.1,
    isDigits.2⟩

/-! ## Sheet names -/

/-- A plain sheet name is a name. -/
theorem isName_of_isPlainSheet
    {name : String}
    (plain : isPlainSheet name = true) :
    (∃ c rest, name.toList = c :: rest ∧ isNameStart c = true) ∧
      ∀ c ∈ name.toList, isNameChar c = true := by
  unfold isPlainSheet at plain
  split at plain
  next =>
    cases plain
  next c rest chars =>
    obtain ⟨starts, inside⟩ := Bool.and_eq_true_iff.mp plain
    rw [chars]
    exact ⟨⟨c, rest, rfl, starts⟩, List.forall_mem_cons.mpr
      ⟨isNameChar_of_isNameStart starts, List.all_eq_true.mp inside⟩⟩

/-- A plain sheet name is read up to its exclamation mark. -/
theorem sheetLength?_plain
    {name : String}
    (plain : isPlainSheet name = true)
    (tail : List Char) :
    sheetLength? (name.toList ++ ['!'] ++ tail) =
      some (name.toList ++ ['!']).length := by
  obtain ⟨starts, inside⟩ := isName_of_isPlainSheet plain
  exact Head.andThen_reads (nameLength?_append starts inside (.cons rfl _))
    (fixedLength?_append ['!'] tail)

/-- A sheet name in quotes is read up to its exclamation mark. -/
theorem quotedSheetLength?_quoted
    {name : String}
    (isSheet : IsSheetName name)
    (tail : List Char) :
    quotedSheetLength? ('\'' :: name.toList ++ ['\'', '!'] ++ tail) =
      some ('\'' :: name.toList ++ ['\'', '!']).length := by
  have inside : ∀ c ∈ name.toList, (c != '\'') = true := by
    intro c member
    rw [bne_iff_ne]
    rintro rfl
    exact isSheet.noQuote member
  have named : runLength? (· != '\'') (name.toList ++ (['\'', '!'] ++ tail)) =
      some name.toList.length :=
    runLength?_append isSheet.nonempty inside (.cons rfl _)
  have later := Head.andThen_reads named (fixedLength?_append ['\'', '!'] tail)
  have whole := Head.andThen_reads (fixedLength?_append ['\''] _) later
  exact whole

/-- A name before an exclamation mark is no range. -/
theorem rangeLength?_sheet
    {name : List Char}
    (noColon : ':' ∉ name)
    (tail : List Char) :
    rangeLength? (name ++ '!' :: tail) = none := by
  cases found : addressLength? (name ++ '!' :: tail) with
  | none =>
      exact Head.andThen_eq_none found _
  | some n =>
      -- An address would stop before the exclamation mark, and no colon
      -- comes before it.
      have inName : n ≤ name.length := by
        by_contra beyond
        have isMark : '!' ∈ (name ++ '!' :: tail).take n := by
          rw [List.take_append, List.mem_append]
          obtain ⟨more, isMore⟩ := Nat.exists_eq_add_of_lt (Nat.lt_of_not_le beyond)
          refine .inr ?_
          rw [show n - name.length = more + 1 by omega]
          exact List.mem_cons_self
        cases reads_address _ _ found '!' isMark
      have noColonNext : ∀ c ∈ (name.drop n ++ '!' :: tail).head?, c ≠ ':' := by
        cases rest : name.drop n with
        | nil =>
            simp
        | cons d rest =>
            have member : d ∈ name :=
              List.mem_of_mem_drop (by rw [rest]; exact List.mem_cons_self)
            have other : d ≠ ':' := by
              rintro rfl
              exact noColon member
            simpa using other
      have noSecond : fixedLength? [':'] ((name ++ '!' :: tail).drop n) = none := by
        rw [List.drop_append_of_le_length inName]
        exact fixedLength?_eq_none noColonNext
      rw [rangeLength?, Head.andThen, found]
      dsimp only
      rw [Head.andThen_eq_none noSecond]
      rfl

/-! ## Lexemes -/

/-- Text that a name starts is in no quotes. -/
theorem quotedSheetLength?_of_name
    {name : List Char}
    (starts : ∃ c rest, name = c :: rest ∧ isNameStart c = true)
    (tail : List Char) :
    quotedSheetLength? (name ++ tail) = none := by
  obtain ⟨c, rest, rfl, isStart⟩ := starts
  refine quotedSheetLength?_eq_none ?_ (rest ++ tail)
  rw [beq_eq_false_iff_ne]
  rintro rfl
  cases isStart

section Qualified

variable {name : String} {addresses tail : List Char}

theorem first?_sheetRange
    (plain : isPlainSheet name = true)
    (range : rangeLength? (addresses ++ tail) = some addresses.length) :
    lexicon.first? (fun _ => true) (name.toList ++ ['!'] ++ addresses ++ tail) =
      some (.sheetRange, (name.toList ++ ['!'] ++ addresses).length) := by
  have split : Terminal.order = [] ++ .sheetRange :: Terminal.order.drop 1 := rfl
  refine Lexicon.first?_eq_some split nofun ?_
  exact Head.andThen_reads (sheetLength?_plain plain _) range

theorem first?_sheetCell
    (plain : isPlainSheet name = true)
    (noRange : rangeLength? (addresses ++ tail) = none)
    (cell : addressLength? (addresses ++ tail) = some addresses.length) :
    lexicon.first? (fun _ => true) (name.toList ++ ['!'] ++ addresses ++ tail) =
      some (.sheetCell, (name.toList ++ ['!'] ++ addresses).length) := by
  obtain ⟨starts, inside⟩ := isName_of_isPlainSheet plain
  have noColon : ':' ∉ name.toList := fun member => by
    cases inside _ member
  have split : Terminal.order = [.sheetRange, .quotedSheetRange, .range] ++
      .sheetCell :: Terminal.order.drop 4 := rfl
  have sheet := sheetLength?_plain plain (addresses ++ tail)
  refine Lexicon.first?_eq_some split (fun other member => ?_) ?_
  · simp only [List.mem_cons, List.not_mem_nil, or_false] at member
    rcases member with rfl | rfl | rfl
    · rw [List.append_assoc _ addresses]
      exact Head.andThen_stuck sheet noRange
    · rw [List.append_assoc, List.append_assoc]
      exact Head.andThen_eq_none (quotedSheetLength?_of_name starts _) _
    · rw [List.append_assoc, List.append_assoc]
      exact rangeLength?_sheet noColon _
  · exact Head.andThen_reads sheet cell

theorem first?_quotedSheetRange
    (isSheet : IsSheetName name)
    (range : rangeLength? (addresses ++ tail) = some addresses.length) :
    lexicon.first? (fun _ => true)
        ('\'' :: name.toList ++ ['\'', '!'] ++ addresses ++ tail) =
      some (.quotedSheetRange,
        ('\'' :: name.toList ++ ['\'', '!'] ++ addresses).length) := by
  have split : Terminal.order =
      [.sheetRange] ++ .quotedSheetRange :: Terminal.order.drop 2 := rfl
  refine first?_of_begins (c := '\'') split (fun other member => .inl ?_) ?_
  · revert other
    decide
  · exact Head.andThen_reads (quotedSheetLength?_quoted isSheet _) range

theorem first?_quotedSheetCell
    (isSheet : IsSheetName name)
    (noRange : rangeLength? (addresses ++ tail) = none)
    (cell : addressLength? (addresses ++ tail) = some addresses.length) :
    lexicon.first? (fun _ => true)
        ('\'' :: name.toList ++ ['\'', '!'] ++ addresses ++ tail) =
      some (.quotedSheetCell,
        ('\'' :: name.toList ++ ['\'', '!'] ++ addresses).length) := by
  have split :
      Terminal.order = [.sheetRange, .quotedSheetRange, .range, .sheetCell] ++
      .quotedSheetCell :: Terminal.order.drop 5 := rfl
  have sheet := quotedSheetLength?_quoted isSheet (addresses ++ tail)
  refine first?_of_begins (c := '\'') split (fun other member => ?_) ?_
  · have either : other.begins '\'' = false ∨ other = .quotedSheetRange := by
      revert other
      decide
    refine either.imp_right ?_
    rintro rfl
    have stuck := Head.andThen_stuck sheet noRange
    rwa [← List.append_assoc] at stuck
  · exact Head.andThen_reads sheet cell

end Qualified

/-- An address is no sheet name if no exclamation mark follows it. -/
theorem IsAddress.noSheet
    {address : String}
    (isAddress : IsAddress address)
    {tail : List Char}
    (stops : Stops isNameChar tail)
    (noMark : ∀ c ∈ tail.head?, c ≠ '!') :
    sheetLength? (address.toList ++ tail) = none ∧
      quotedSheetLength? (address.toList ++ tail) = none := by
  obtain ⟨c, rest, chars, capital⟩ := isAddress.starts
  have starts : ∃ c rest, address.toList = c :: rest ∧ isNameStart c = true :=
    ⟨c, rest, chars, isNameStart_of_isCapital capital⟩
  exact ⟨sheetLength?_of_name starts (fun _ => isAddress.nameChar) stops noMark,
    quotedSheetLength?_of_name starts tail⟩

theorem first?_range
    {start finish : String}
    {tail : List Char}
    (isStart : IsAddress start)
    (isFinish : IsAddress finish)
    (delimits : Delimits tail) :
    lexicon.first? (fun _ => true) (start.toList ++ ':' :: finish.toList ++ tail) =
      some (.range, (start.toList ++ ':' :: finish.toList).length) := by
  have split : Terminal.order =
      [.sheetRange, .quotedSheetRange] ++ .range :: Terminal.order.drop 3 := rfl
  have noMark : ∀ c ∈ (':' :: finish.toList ++ tail).head?, c ≠ '!' := by
    simp
  obtain ⟨noSheet, noQuoted⟩ := isStart.noSheet (.cons rfl _) noMark
  refine Lexicon.first?_eq_some split (fun other member => ?_)
    (rangeLength?_range isStart isFinish delimits.stopsDigits)
  rw [List.append_assoc]
  simp only [List.mem_cons, List.not_mem_nil, or_false] at member
  rcases member with rfl | rfl
  · exact Head.andThen_eq_none noSheet _
  · exact Head.andThen_eq_none noQuoted _

theorem first?_cell
    {address : String}
    {tail : List Char}
    (isAddress : IsAddress address)
    (delimits : Delimits tail) :
    lexicon.first? (fun _ => true) (address.toList ++ tail) =
      some (.cell, address.toList.length) := by
  have split : Terminal.order =
      [.sheetRange, .quotedSheetRange, .range, .sheetCell, .quotedSheetCell] ++
        .cell :: Terminal.order.drop 6 := rfl
  obtain ⟨noSheet, noQuoted⟩ :=
    isAddress.noSheet delimits.stopsName (delimits.head (by decide))
  refine Lexicon.first?_eq_some split (fun other member => ?_)
    (isAddress.addressLength?_append delimits.stopsDigits)
  simp only [List.mem_cons, List.not_mem_nil, or_false] at member
  rcases member with rfl | rfl | rfl | rfl | rfl
  · exact Head.andThen_eq_none noSheet _
  · exact Head.andThen_eq_none noQuoted _
  · exact isAddress.rangeLength?_append delimits.stopsDigits
      (delimits.head (by decide))
  · exact Head.andThen_eq_none noSheet _
  · exact Head.andThen_eq_none noQuoted _

/-! ## What is made of lexemes -/

/-- A capital is its own upper case. -/
theorem upperChar_of_isCapital
    {c : Char}
    (capital : Address.isCapital c = true) :
    upperChar c = [c] := by
  refine upperChar_of_not_lower
    (ascii_of_isNameChar
      (isNameChar_of_isNameStart (isNameStart_of_isCapital capital))) ?_
  rw [Bool.eq_false_iff]
  intro small
  cases (isCapital_of_isLower small).symm.trans capital

/-- A digit is its own upper case. -/
theorem upperChar_of_isDigit
    {c : Char}
    (digit : c.isDigit = true) :
    upperChar c = [c] := by
  have noLetter : (c.isUpper || c.isLower) = false := isAlpha_of_isDigit digit
  exact upperChar_of_not_lower (ascii_of_isNameChar (isNameChar_of_isDigit digit))
    (Bool.or_eq_false_iff.mp noLetter).2

theorem IsAddress.upper
    {address : String}
    (isAddress : IsAddress address)
    {c : Char}
    (member : c ∈ address.toList) :
    upperChar c = [c] :=
  (isAddress.capital_or_digit member).elim upperChar_of_isCapital
    upperChar_of_isDigit

/-- Text in capitals without dollar signs is in normal form. -/
theorem plainAddress_of_upperChar
    {cs : List Char}
    (noDollar : '$' ∉ cs)
    (each : ∀ c ∈ cs, upperChar c = [c]) :
    plainAddress cs = String.ofList cs := by
  rw [plainAddress, replaceChar_of_not_mem noDollar, upper_of_upperChar each]

theorem IsAddress.noDollar
    {address : String}
    (isAddress : IsAddress address) :
    '$' ∉ address.toList := fun member => by
  cases isAddress.nameChar member

theorem plainAddress_address
    {address : String}
    (isAddress : IsAddress address) :
    plainAddress address.toList = address := by
  rw [plainAddress_of_upperChar isAddress.noDollar fun _ => isAddress.upper,
    String.ofList_toList]

theorem plainAddress_range
    {start finish : String}
    (isStart : IsAddress start)
    (isFinish : IsAddress finish) :
    plainAddress (start.toList ++ ':' :: finish.toList) =
      String.ofList (start.toList ++ ':' :: finish.toList) := by
  refine plainAddress_of_upperChar ?_ ?_
  · simp [isStart.noDollar, isFinish.noDollar]
  · exact List.forall_mem_append.mpr ⟨fun _ => isStart.upper,
      List.forall_mem_cons.mpr ⟨rfl, fun _ => isFinish.upper⟩⟩

/-- A range is split into its addresses. -/
theorem splitRange_range
    {start : String}
    (isStart : IsAddress start)
    (finish : String) :
    splitRange (String.ofList (start.toList ++ ':' :: finish.toList)) =
      (start, finish) := by
  have noColon : ':' ∉ start.toList := fun member => by
    cases isStart.nameChar member
  rw [splitRange, String.toList_ofList, cut?_append noColon]
  simp

/-- A qualified address is trimmed already if it begins and ends with
visible characters. -/
theorem trim_qualified
    {qualifier addresses : List Char}
    (first : ∀ c ∈ qualifier.head?, isBlank c = false)
    (last : ∀ c ∈ addresses.getLast?, isBlank c = false) :
    trim (qualifier ++ ['!'] ++ addresses) = qualifier ++ '!' :: addresses := by
  have split : qualifier ++ ['!'] ++ addresses = qualifier ++ '!' :: addresses := by
    simp
  rw [split]
  refine trim_of_visible (fun c isFirst => ?_) (fun c isLast => ?_)
  · cases qualifier with
    | nil =>
        cases isFirst
        rfl
    | cons d qualifier =>
        exact first c isFirst
  · rw [← split, List.getLast?_append] at isLast
    rcases Option.or_eq_some_iff.mp isLast with inAddresses | ⟨-, isMark⟩
    · exact last c inAddresses
    · rw [List.getLast?_concat] at isMark
      cases isMark
      rfl

/-- A sheet name and addresses are told apart at the exclamation mark. -/
theorem splitQualified?_plain
    {name : String}
    {addresses : List Char}
    (plain : isPlainSheet name = true)
    (last : ∀ c ∈ addresses.getLast?, isBlank c = false) :
    splitQualified? (name.toList ++ ['!'] ++ addresses) =
      some (name, plainAddress addresses) := by
  obtain ⟨⟨c, rest, chars, starts⟩, inside⟩ := isName_of_isPlainSheet plain
  have noMark : '!' ∉ name.toList := fun member => by
    cases inside _ member
  have first : ∀ c ∈ name.toList.head?, isBlank c = false := fun c isFirst =>
    isBlank_of_isNameChar (inside c (List.mem_of_mem_head? isFirst))
  unfold splitQualified?
  rw [trim_qualified first last]
  split
  next rest isQuote =>
    rw [chars] at isQuote
    obtain rfl : c = '\'' := (List.cons.inj isQuote).1
    cases starts
  next =>
    rw [cut?_append noMark]
    simp

/-- A sheet name in quotes is what stands between them. -/
theorem splitQualified?_quoted
    {name : String}
    {addresses : List Char}
    (isSheet : IsSheetName name)
    (last : ∀ c ∈ addresses.getLast?, isBlank c = false) :
    splitQualified? ('\'' :: name.toList ++ ['\'', '!'] ++ addresses) =
      some (name, plainAddress addresses) := by
  have first : ∀ c ∈ ('\'' :: name.toList ++ ['\'']).head?, isBlank c = false := by
    intro c isFirst
    cases isFirst
    rfl
  have trimmed := trim_qualified first last
  have split : '\'' :: name.toList ++ ['\'', '!'] ++ addresses =
      '\'' :: name.toList ++ ['\''] ++ ['!'] ++ addresses := by
    simp
  have regrouped : '\'' :: name.toList ++ ['\''] ++ '!' :: addresses =
      '\'' :: (name.toList ++ '\'' :: '!' :: addresses) := by
    simp
  rw [splitQualified?, split, trimmed, regrouped]
  show Option.map _ (cut? ['\''] (name.toList ++ '\'' :: '!' :: addresses)) = _
  rw [cut?_append isSheet.noQuote]
  simp

/-! ## References -/

variable (style : Style)

/-- The kind of the lexeme of a reference. -/
def Style.kind : Reference → Terminal
  | .cell none _ => .cell
  | .range none _ _ => .range
  | .cell (some name) _ =>
      if isPlainSheet name && !style.quotes name then .sheetCell
      else .quotedSheetCell
  | .range (some name) _ _ =>
      if isPlainSheet name && !style.quotes name then .sheetRange
      else .quotedSheetRange

/-- The lexeme of a reference is not passed over. -/
theorem Style.kept (r : Reference) :
    lexicon.ignored.contains (style.kind r) = false := by
  unfold Style.kind
  cases r with
  | cell sheet address =>
      cases sheet with
      | none =>
          rfl
      | some name =>
          dsimp only
          split <;> rfl
  | range sheet start finish =>
      cases sheet with
      | none =>
          rfl
      | some name =>
          dsimp only
          split <;> rfl

/-- A written reference is the first lexeme of a text that it begins. -/
theorem first?_reference
    {r : Reference}
    (writable : IsWritableReference r)
    {tail : List Char}
    (delimits : Delimits tail) :
    lexicon.first? (fun _ => true) (style.referenceText r ++ tail) =
      some (style.kind r, (style.referenceText r).length) := by
  cases r with
  | cell sheet address =>
      obtain ⟨isSheet, isAddress⟩ := writable
      have noRange :=
        isAddress.rangeLength?_append delimits.stopsDigits
          (delimits.head (by decide))
      have cell := isAddress.addressLength?_append delimits.stopsDigits
      cases sheet with
      | none =>
          exact first?_cell isAddress delimits
      | some name =>
          unfold Style.referenceText Style.qualifierText Style.sheetText Style.kind
          dsimp only
          split
          next plain =>
            exact first?_sheetCell (Bool.and_eq_true_iff.mp plain).1 noRange cell
          next =>
            exact first?_quotedSheetCell (isSheet name rfl) noRange cell
  | range sheet start finish =>
      obtain ⟨isSheet, isStart, isFinish⟩ := writable
      have range := rangeLength?_range isStart isFinish delimits.stopsDigits
      cases sheet with
      | none =>
          exact first?_range isStart isFinish delimits
      | some name =>
          unfold Style.referenceText Style.qualifierText Style.sheetText Style.kind
          dsimp only
          split
          next plain =>
            exact first?_sheetRange (Bool.and_eq_true_iff.mp plain).1 range
          next =>
            exact first?_quotedSheetRange (isSheet name rfl) range

/-- What follows the sheet name of a written reference is told apart from it. -/
theorem splitQualified?_sheetText
    {name : String}
    {addresses : List Char}
    (isSheet : IsSheetName name)
    (last : ∀ c ∈ addresses.getLast?, isBlank c = false) :
    splitQualified? (style.sheetText name ++ addresses) =
      some (name, plainAddress addresses) := by
  unfold Style.sheetText
  split
  next plain =>
    exact splitQualified?_plain (Bool.and_eq_true_iff.mp plain).1 last
  next =>
    exact splitQualified?_quoted isSheet last

theorem IsAddress.visible
    {address : String}
    (isAddress : IsAddress address) :
    ∀ c ∈ address.toList.getLast?, isBlank c = false :=
  fun _ isLast =>
    isBlank_of_isNameChar (isAddress.nameChar (List.mem_of_getLast? isLast))

theorem ofSheetCell_sheetText
    {name address : String}
    (isSheet : IsSheetName name)
    (isAddress : IsAddress address) :
    Reference.ofSheetCell (style.sheetText name ++ address.toList) =
      .cell (some name) address := by
  rw [Reference.ofSheetCell,
    splitQualified?_sheetText style isSheet isAddress.visible,
    plainAddress_address isAddress]

theorem ofSheetRange_sheetText
    {name start finish : String}
    (isSheet : IsSheetName name)
    (isStart : IsAddress start)
    (isFinish : IsAddress finish) :
    Reference.ofSheetRange
        (style.sheetText name ++ (start.toList ++ ':' :: finish.toList)) =
      .range (some name) start finish := by
  have visible :
      ∀ c ∈ (start.toList ++ ':' :: finish.toList).getLast?, isBlank c = false := by
    rw [← List.singleton_append, ← List.append_assoc,
      List.getLast?_append_of_ne_nil _ isFinish.ne_nil]
    exact isFinish.visible
  rw [Reference.ofSheetRange, splitQualified?_sheetText style isSheet visible,
    plainAddress_range isStart isFinish]
  dsimp only
  rw [splitRange_range isStart]

/-- A rule makes a written reference of its lexeme. -/
theorem exists_rule_of_reference
    {r : Reference}
    (writable : IsWritableReference r) :
    ∃ rule ∈ Rule.all,
      rule.category = .atom ∧
      rule.parts = [.terminal (style.kind r)] ∧
      ∀ place : Place,
        buildPhrase rule [.token ⟨style.kind r, style.referenceText r, place⟩] =
          .ok (.expression (.reference r)) := by
  have builds {made : Reference} (same : made = r) :
      Except.ok (ε := Breach) (Phrase.expression (.reference made)) =
        .ok (.expression (.reference r)) := by
    rw [same]
  cases r with
  | cell sheet address =>
      obtain ⟨isSheet, isAddress⟩ := writable
      cases sheet with
      | none =>
          refine ⟨.cell, by decide, rfl, rfl, fun place => builds ?_⟩
          exact congrArg (Reference.cell none) (plainAddress_address isAddress)
      | some name =>
          have made := ofSheetCell_sheetText style (isSheet name rfl) isAddress
          unfold Style.kind
          dsimp only
          split
          · exact ⟨.sheetCell, by decide, rfl, rfl, fun place => builds made⟩
          · exact ⟨.quotedSheetCell, by decide, rfl, rfl, fun place => builds made⟩
  | range sheet start finish =>
      obtain ⟨isSheet, isStart, isFinish⟩ := writable
      cases sheet with
      | none =>
          refine ⟨.range, by decide, rfl, rfl, fun place => builds ?_⟩
          show Reference.ofRange (start.toList ++ ':' :: finish.toList) = _
          rw [Reference.ofRange, plainAddress_range isStart isFinish,
            splitRange_range isStart]
      | some name =>
          have made :=
            ofSheetRange_sheetText style (isSheet name rfl) isStart isFinish
          unfold Style.kind
          dsimp only
          split
          · exact ⟨.sheetRange, by decide, rfl, rfl, fun place => builds made⟩
          · exact ⟨.quotedSheetRange, by decide, rfl, rfl, fun place => builds made⟩

end GridScript.Formula
