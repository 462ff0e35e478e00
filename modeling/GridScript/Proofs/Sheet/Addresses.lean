import GridScript.Proofs.Change
import GridScript.Proofs.Number.Reading
import GridScript.Proofs.Sheet.Blocks
import GridScript.Proofs.Text.Letters

namespace GridScript.Address

/-!
# Addresses and positions

Column letters are digits from 1 to 26 of a number in base 26: there is no zero,
so every positive number is written in one way. A written address is read as its
position unless it has too many letters. Dollar signs and the case of ASCII
letters do not change what is read.
-/

open GridScript.Number
open GridScript.Text

/-! ## Letters -/

theorem between_of_isCapital
    {c : Char}
    (capital : isCapital c = true) :
    65 ≤ c.toNat ∧ c.toNat ≤ 90 := by
  simpa [isCapital, Char.le_def, UInt32.le_iff_toNat_le] using capital

theorem toNat_letter
    {digit : Nat}
    (small : digit < 26) :
    (letter digit).toNat = 65 + digit := by
  have each : ∀ digit < 26, (letter digit).toNat = 65 + digit := by decide
  exact each digit small

theorem isCapital_letter
    {digit : Nat}
    (small : digit < 26) :
    isCapital (letter digit) = true := by
  have each : ∀ digit < 26, isCapital (letter digit) = true := by decide
  exact each digit small

/-- A capital letter is the letter of its digit. -/
theorem letter_of_isCapital
    {c : Char}
    (capital : isCapital c = true) :
    letter (c.toNat - 65) = c := by
  obtain ⟨low, _⟩ := between_of_isCapital capital
  rw [letter, Nat.add_sub_cancel' low, Char.ofNat_toNat]

/-! ## Columns -/

/-- The column counted from one that letters name; zero without letters. -/
def columnNumber (letters : List Char) : Nat :=
  letters.foldl (fun n c => n * 26 + (c.toNat - 64)) 0

theorem columnNumber_concat (letters : List Char) (c : Char) :
    columnNumber (letters ++ [c]) = columnNumber letters * 26 + (c.toNat - 64) := by
  rw [columnNumber, List.foldl_append]
  rfl

/-- No capital letter counts as less than one. -/
theorem columnOfLetters_eq
    {letters : List Char}
    (capitals : ∀ c ∈ letters, isCapital c = true) :
    columnOfLetters letters = (columnNumber letters : Int) - 1 := by
  have fold (n : Nat) (cs : List Char) (capitals : ∀ c ∈ cs, isCapital c = true) :
      cs.foldl (fun (n : Int) c => n * 26 + ((c.val.toNat : Int) - 64)) n =
        (cs.foldl (fun n c => n * 26 + (c.toNat - 64)) n : Nat) := by
    induction cs generalizing n with
    | nil =>
        rfl
    | cons c cs inductionHypothesis =>
        obtain ⟨low, _⟩ := between_of_isCapital (capitals c (by simp))
        have digit : (c.val.toNat : Int) - 64 = ((c.toNat - 64 : Nat) : Int) := by
          show (c.toNat : Int) - 64 = _
          omega
        rw [List.foldl_cons, List.foldl_cons, digit,
          ← inductionHypothesis _ fun d member => capitals d (by simp [member])]
        push_cast
        rfl
  rw [columnOfLetters, columnNumber]
  exact congrArg (· - 1) (fold 0 letters capitals)

theorem lettersFrom_zero (rest : List Char) : lettersFrom 0 rest = rest := by
  unfold lettersFrom
  rfl

theorem lettersFrom_append (n : Nat) (rest : List Char) :
    lettersFrom n rest = lettersFrom n [] ++ rest := by
  induction n using Nat.strongRecOn generalizing rest with
  | _ n inductionHypothesis =>
      cases n with
      | zero =>
          simp [lettersFrom_zero]
      | succ n =>
          have smaller : n / 26 < n + 1 := by omega
          unfold lettersFrom
          simp only [Nat.add_one_ne_zero, dite_false, Nat.add_sub_cancel]
          rw [inductionHypothesis _ smaller, inductionHypothesis _ smaller [_],
            List.append_assoc, List.singleton_append]

/-- The last letter of a column, and the letters before it. -/
theorem lettersFrom_succ (n : Nat) :
    lettersFrom (n + 1) [] = lettersFrom (n / 26) [] ++ [letter (n % 26)] := by
  rw [← lettersFrom_append, lettersFrom]
  simp

theorem isCapital_of_mem_lettersFrom
    {n : Nat}
    {c : Char}
    (member : c ∈ lettersFrom n []) :
    isCapital c = true := by
  induction n using Nat.strongRecOn with
  | _ n inductionHypothesis =>
      cases n with
      | zero =>
          simp [lettersFrom_zero] at member
      | succ n =>
          rw [lettersFrom_succ] at member
          rcases List.mem_append.mp member with inFront | isLast
          · exact inductionHypothesis _ (by omega) inFront
          · rw [List.mem_singleton.mp isLast]
            exact isCapital_letter (Nat.mod_lt n (by decide))

/-- The letters of a column name it. -/
theorem columnNumber_lettersFrom (n : Nat) :
    columnNumber (lettersFrom n []) = n := by
  induction n using Nat.strongRecOn with
  | _ n inductionHypothesis =>
      cases n with
      | zero =>
          rw [lettersFrom_zero]
          rfl
      | succ n =>
          rw [lettersFrom_succ, columnNumber_concat,
            inductionHypothesis _ (by omega),
            toNat_letter (Nat.mod_lt n (by decide))]
          omega

/-- Letters are the letters of the column that they name. -/
theorem lettersFrom_columnNumber
    {letters : List Char}
    (capitals : ∀ c ∈ letters, isCapital c = true) :
    lettersFrom (columnNumber letters) [] = letters := by
  induction letters using List.reverseRecOn with
  | nil =>
      exact lettersFrom_zero []
  | append_singleton front c inductionHypothesis =>
      have capital := capitals c (by simp)
      obtain ⟨low, high⟩ := between_of_isCapital capital
      have number : columnNumber (front ++ [c]) =
          columnNumber front * 26 + (c.toNat - 65) + 1 := by
        rw [columnNumber_concat]
        omega
      have quotient :
          (columnNumber front * 26 + (c.toNat - 65)) / 26 = columnNumber front := by
        omega
      have remainder :
          (columnNumber front * 26 + (c.toNat - 65)) % 26 = c.toNat - 65 := by
        omega
      rw [number, lettersFrom_succ, quotient, remainder,
        letter_of_isCapital capital,
        inductionHypothesis fun d member => capitals d (by simp [member])]

/-- The number of columns that have at most so many letters. -/
def columnsWithin : Nat → Nat
  | 0 => 0
  | k + 1 => 26 * columnsWithin k + 26

theorem length_lettersFrom_le_iff {n k : Nat} :
    (lettersFrom n []).length ≤ k ↔ n ≤ columnsWithin k := by
  induction k generalizing n with
  | zero =>
      cases n with
      | zero =>
          simp [lettersFrom_zero, columnsWithin]
      | succ n =>
          simp [lettersFrom_succ, columnsWithin]
  | succ k inductionHypothesis =>
      cases n with
      | zero =>
          simp [lettersFrom_zero]
      | succ n =>
          rw [lettersFrom_succ, List.length_append, List.length_singleton,
            Nat.add_le_add_iff_right, inductionHypothesis, columnsWithin]
          omega

/-- The columns with at most three letters. -/
theorem length_lettersFrom_le_three {column : Nat} :
    (lettersFrom (column + 1) []).length ≤ 3 ↔ column ≤ 18277 := by
  rw [length_lettersFrom_le_iff]
  exact Nat.succ_le_succ_iff

theorem upper_of_isCapital
    {letters : List Char}
    (capitals : ∀ c ∈ letters, isCapital c = true) :
    upper (String.ofList letters) = String.ofList letters := by
  refine upper_of_upperChar fun c member => upperChar_of_lt ?_
  obtain ⟨_, high⟩ := between_of_isCapital (capitals c member)
  omega

theorem columnLetters_coe (column : Nat) :
    columnLetters column = String.ofList (lettersFrom (column + 1) []) := by
  have number : ((column : Int) + 1).toNat = column + 1 := by omega
  rw [columnLetters, number]

theorem columnOfLetters_lettersFrom (column : Nat) :
    columnOfLetters (lettersFrom (column + 1) []) = column := by
  rw [columnOfLetters_eq fun c => isCapital_of_mem_lettersFrom,
    columnNumber_lettersFrom]
  push_cast
  omega

/-- A column is found by its letters. -/
theorem columnIndex_columnLetters (column : Nat) :
    columnIndex (columnLetters column) = column := by
  rw [columnIndex, columnLetters_coe,
      upper_of_isCapital fun c => isCapital_of_mem_lettersFrom,
    String.toList_ofList, columnOfLetters_lettersFrom]

/-- Letters are the letters of the column that is found by them. -/
theorem columnLetters_columnIndex
    {letters : List Char}
    (capitals : ∀ c ∈ letters, isCapital c = true) :
    columnLetters (columnIndex (String.ofList letters)) =
      String.ofList letters := by
  have number :
      ((columnNumber letters : Int) - 1 + 1).toNat = columnNumber letters := by
    omega
  rw [columnIndex, upper_of_isCapital capitals, String.toList_ofList,
    columnOfLetters_eq capitals, columnLetters, number,
    lettersFrom_columnNumber capitals]

/-! ## Reading -/

/-- A result of reading, with the text that was read in its error. -/
def retold (text : String) (result : Outcome SheetError α) : Outcome SheetError α :=
  Outcome.mapError (fun _ => .address text) result

/-- Texts with the same letters and row digits are read alike. -/
theorem parse_congr
    {text text' : String}
    (same :
      parts? (upper (strip text')).toList = parts? (upper (strip text)).toList) :
    parse text' = retold text' (parse text) := by
  unfold parse
  rw [same]
  cases parts? (upper (strip text)).toList with
  | none =>
      rfl
  | some parts =>
      dsimp only
      split
      · rfl
      · split <;> rfl

/-- What reading sees of an ASCII text. -/
theorem upper_strip_of_ascii
    {text : String}
    (ascii : ∀ c ∈ text.toList, c.val < 128) :
    (upper (strip text)).toList = (trim text.toList).map Char.toUpper := by
  rw [strip, upper_of_ascii fun c member => ascii c (mem_of_mem_trim member),
    String.toList_ofList]

/-- The case of the letters of an ASCII text does not change what is read. -/
theorem parse_of_same_letters
    {text text' : String}
    (ascii : ∀ c ∈ text.toList, c.val < 128)
    (ascii' : ∀ c ∈ text'.toList, c.val < 128)
    (sameLetters : text'.toList.map Char.toUpper = text.toList.map Char.toUpper) :
    parse text' = retold text' (parse text) := by
  refine parse_congr ?_
  rw [upper_strip_of_ascii ascii, upper_strip_of_ascii ascii', ← trim_map_toUpper,
    sameLetters, trim_map_toUpper]

/-- A dollar sign, or nothing. -/
def anchor (anchored : Bool) : List Char :=
  if anchored then ['$'] else []

theorem skipDollar_anchor
    (anchored : Bool)
    {cs : List Char}
    (other : cs.head? ≠ some '$') :
    skipDollar (anchor anchored ++ cs) = cs := by
  cases anchored with
  | true =>
      rfl
  | false =>
      show skipDollar cs = cs
      unfold skipDollar
      split
      · exact absurd rfl other
      · rfl

/-- The letters and the row digits of an address, with or without dollar
signs before them. -/
theorem parts?_anchored
    (beforeLetters beforeRow : Bool)
    {letters row : List Char}
    (someLetter : letters ≠ [])
    (capitals : ∀ c ∈ letters, isCapital c = true)
    (rowStarts : ∀ c ∈ row.head?, isCapital c = false ∧ c ≠ '$') :
    parts? (anchor beforeLetters ++ (letters ++ (anchor beforeRow ++ row))) =
      if letters.length > 3 || row.isEmpty || !row.all isDecimalDigit then none
      else some (letters, row) := by
  obtain ⟨first, later, rfl⟩ := List.exists_cons_of_ne_nil someLetter
  have firstIsNoDollar : first ≠ '$' := by
    rintro rfl
    cases capitals '$' (by simp)
  have rowIsNoDollar : row.head? ≠ some '$' := fun isDollar =>
    (rowStarts '$' isDollar).2 rfl
  have noLetter : (anchor beforeRow ++ row).takeWhile isCapital = [] ∧
      (anchor beforeRow ++ row).dropWhile isCapital = anchor beforeRow ++ row := by
    cases beforeRow with
    | true =>
        exact ⟨rfl, rfl⟩
    | false =>
        cases row with
        | nil =>
            exact ⟨rfl, rfl⟩
        | cons c row =>
            have noCapital := (rowStarts c rfl).1
            simp [anchor, noCapital]
  unfold parts?
  rw [skipDollar_anchor beforeLetters (by simpa using firstIsNoDollar)]
  simp only [List.takeWhile_append_of_pos capitals,
    List.dropWhile_append_of_pos capitals, noLetter.1, noLetter.2,
    skipDollar_anchor beforeRow rowIsNoDollar, List.append_nil, List.isEmpty_cons,
    Bool.false_or]

/-- A letter becomes a capital letter. -/
theorem isCapital_toUpper
    {c : Char}
    (isLetter : c.isAlpha = true) :
    isCapital c.toUpper = true := by
  have each : ∀ code < 123, (Char.ofNat code).isAlpha = true →
      isCapital (Char.ofNat code).toUpper = true := by
    decide
  have low : c.toNat < 123 := by
    rcases isAlpha_iff.mp isLetter with ⟨_, high⟩ | ⟨_, high⟩
    · exact Nat.lt_of_le_of_lt (UInt32.le_iff_toNat_le.mp high) (by decide)
    · exact Nat.lt_of_le_of_lt (UInt32.le_iff_toNat_le.mp high) (by decide)
  simpa using each c.toNat low (by simpa using isLetter)

/-- Nothing but letters becomes a capital letter. -/
theorem toUpper_of_no_letter
    {c : Char}
    (noLetter : c.isAlpha = false) :
    c.toUpper = c ∧ isCapital c = false := by
  have outside := mt isAlpha_iff.mpr (Bool.eq_false_iff.mp noLetter)
  refine ⟨?_, Bool.eq_false_iff.mpr fun capital => outside (.inl ?_)⟩
  · delta Char.toUpper
    exact dif_neg fun lower => outside (.inr lower)
  · simpa [isCapital, Char.le_def] using capital

theorem isBlank_of_isAlpha
    {c : Char}
    (isLetter : c.isAlpha = true) :
    isBlank c = false :=
  Parsing.isBlank_of_isNameChar
    (by simp [Parsing.isNameChar, Char.isAlphanum, isLetter])

/-- A text without the dollar signs of a trimmed one is trimmed as well. -/
theorem trim_of_anchored
    {text front between letters row : List Char}
    (spelled : trim text = front ++ (letters ++ (between ++ row)))
    (someLetter : letters ≠ [])
    (isLetters : ∀ c ∈ letters, c.isAlpha = true) :
    trim (letters ++ row) = letters ++ row := by
  have visible {c : Char} (member : c ∈ letters) : isBlank c = false :=
    isBlank_of_isAlpha (isLetters c member)
  refine trim_of_visible (fun c isFirst => ?_) (fun c isLast => ?_)
  · rw [List.head?_append_of_ne_nil _ someLetter] at isFirst
    exact visible (List.mem_of_mem_head? isFirst)
  · rw [List.getLast?_append, Option.mem_def] at isLast
    cases lastOfRow : row.getLast? with
    | some d =>
        rw [lastOfRow, Option.some_or] at isLast
        refine @isBlank_of_getLast?_trim text c ?_
        simp [spelled, List.getLast?_append, lastOfRow, isLast]
    | none =>
        rw [lastOfRow, Option.none_or] at isLast
        exact visible (List.mem_of_getLast? isLast)

/-- Dollar signs before the letters and before the row do not
change what is read. -/
theorem parse_of_anchored
    {text : String}
    {beforeLetters beforeRow : Bool}
    {letters row : List Char}
    (ascii : ∀ c ∈ text.toList, c.val < 128)
    (spelled :
      trim text.toList =
        anchor beforeLetters ++ (letters ++ (anchor beforeRow ++ row)))
    (someLetter : letters ≠ [])
    (isLetters : ∀ c ∈ letters, c.isAlpha = true)
    (rowStarts : ∀ c ∈ row.head?, c.isAlpha = false ∧ c ≠ '$') :
    parse text = retold text (parse (String.ofList (letters ++ row))) := by
  have capitals : ∀ c ∈ letters.map Char.toUpper, isCapital c = true := by
    intro c member
    obtain ⟨d, inLetters, rfl⟩ := List.mem_map.mp member
    exact isCapital_toUpper (isLetters d inLetters)
  have upperRowStarts :
      ∀ c ∈ (row.map Char.toUpper).head?, isCapital c = false ∧ c ≠ '$' := by
    intro c isFirst
    rw [List.head?_map] at isFirst
    obtain ⟨d, firstOfRow, rfl⟩ := Option.map_eq_some_iff.mp isFirst
    obtain ⟨noLetter, noDollar⟩ := rowStarts d firstOfRow
    obtain ⟨same, noCapital⟩ := toUpper_of_no_letter noLetter
    rw [same]
    exact ⟨noCapital, noDollar⟩
  have keepsAnchor (anchored : Bool) :
      (anchor anchored).map Char.toUpper = anchor anchored := by
    cases anchored <;> rfl
  have plainAscii : ∀ c ∈ (String.ofList (letters ++ row)).toList, c.val < 128 := by
    intro c member
    refine ascii c (mem_of_mem_trim ?_)
    rw [String.toList_ofList, List.mem_append] at member
    rw [spelled]
    simp only [List.mem_append]
    tauto
  refine parse_congr ?_
  rw [upper_strip_of_ascii ascii, upper_strip_of_ascii plainAscii, spelled,
    String.toList_ofList, trim_of_anchored spelled someLetter isLetters]
  simp only [List.map_append, keepsAnchor]
  have someCapital : letters.map Char.toUpper ≠ [] := by simpa using someLetter
  rw [parts?_anchored _ _ someCapital capitals upperRowStarts]
  exact (parts?_anchored false false someCapital capitals upperRowStarts).symm

/-! ## Written addresses -/

theorem make_coe (row column : Nat) :
    make row column =
      String.ofList (lettersFrom (column + 1) [] ++ digitChars (row + 1)) := by
  have positive : ¬((row : Int) + 1 < 0) := by omega
  have number : ((row : Int) + 1).natAbs = row + 1 := by omega
  rw [make, columnLetters_coe, intText, if_neg positive, number,
    String.ofList_append]

/-- A written address has no blanks and no small letters. -/
theorem upper_strip_make (row column : Nat) :
    (upper (strip (make row column))).toList =
      lettersFrom (column + 1) [] ++ digitChars (row + 1) := by
  have low : ∀ c ∈ lettersFrom (column + 1) [] ++ digitChars (row + 1),
      48 ≤ c.toNat ∧ c.toNat < 97 := by
    intro c member
    rcases List.mem_append.mp member with inLetters | inRow
    · have between := between_of_isCapital (isCapital_of_mem_lettersFrom inLetters)
      omega
    · have between : 48 ≤ c.toNat ∧ c.toNat ≤ 57 :=
        toNat_of_isDigit (isDigit_of_mem_digitChars inRow)
      omega
  have visible :
      ∀ c ∈ lettersFrom (column + 1) [] ++ digitChars (row + 1),
        isBlank c = false := by
    intro c member
    have between := low c member
    simp [isBlank, inRanges, blankRanges]
    omega
  rw [make_coe, strip, String.toList_ofList, trim_of_visible
    (fun c isFirst => visible c (List.mem_of_mem_head? isFirst))
    (fun c isLast => visible c (List.mem_of_getLast? isLast)),
    upper_of_upperChar fun c member => upperChar_of_lt (low c member).2,
    String.toList_ofList]

/-- A digit is no capital letter and no dollar sign. -/
theorem other_of_isDigit
    {c : Char}
    (digit : c.isDigit = true) :
    isCapital c = false ∧ c ≠ '$' := by
  refine ⟨Bool.eq_false_iff.mpr fun capital => ?_,
    ne_of_isDigit digit '$' (by decide)⟩
  have between := between_of_isCapital capital
  have small : 48 ≤ c.toNat ∧ c.toNat ≤ 57 := toNat_of_isDigit digit
  omega

/-- A written address has its letters and its row digits, unless it
has too many letters. -/
theorem parts?_make (row column : Nat) :
    parts? (upper (strip (make row column))).toList =
      if column ≤ 18277 then
        some (lettersFrom (column + 1) [], digitChars (row + 1))
      else none := by
  have someLetter : lettersFrom (column + 1) [] ≠ [] := by
    rw [lettersFrom_succ]
    exact List.concat_ne_nil _ _
  have rowStarts :
      ∀ c ∈ (digitChars (row + 1)).head?, isCapital c = false ∧ c ≠ '$' :=
    fun c isFirst =>
      other_of_isDigit (isDigit_of_mem_digitChars (List.mem_of_mem_head? isFirst))
  have someRow : (digitChars (row + 1)).isEmpty = false := by
    simpa using digitChars_ne_nil (row + 1)
  have allDigits : (digitChars (row + 1)).all isDecimalDigit = true := by
    refine List.all_eq_true.mpr fun c member => ?_
    rw [isDecimalDigit, digitValue?, if_pos (isDigit_of_mem_digitChars member)]
    rfl
  rw [upper_strip_make]
  refine
    (parts?_anchored false false someLetter (fun c => isCapital_of_mem_lettersFrom)
    rowStarts).trans ?_
  rw [someRow, allDigits]
  by_cases few : column ≤ 18277
  · have short := Nat.not_lt.mpr (length_lettersFrom_le_three.mpr few)
    simp [few, short]
  · have long := Nat.lt_of_not_le (mt length_lettersFrom_le_three.mp few)
    simp [few, long]

/-- A written address is read as its position, unless it has too many letters
or too many digits. -/
theorem parse_make (row column : Nat) :
    parse (make row column) =
      if column ≤ 18277 then
        if maxIntDigits < (digitChars (row + 1)).length then
          breach (.longInteger (digitChars (row + 1)).length)
        else .ok (row, column)
      else fail (.address (make row column)) := by
  unfold parse
  rw [parts?_make]
  by_cases few : column ≤ 18277
  · have plain : (digitChars (row + 1)).map plainDigit = digitChars (row + 1) := by
      rw [List.map_congr_left fun c member =>
          plainDigit_of_isDigit (isDigit_of_mem_digitChars member),
        List.map_id']
    have isColumn :
        (columnOfLetters (lettersFrom (column + 1) [])).toNat = column := by
      rw [columnOfLetters_lettersFrom, Int.toNat_natCast]
    simp only [if_pos few, plain, digitsValue_digitChars, isColumn]
  · rw [if_neg few, if_neg few]

theorem length_digitChars_gt_iff {n : Nat} :
    (digitChars n).length > maxIntDigits ↔ 10 ^ maxIntDigits ≤ n := by
  rw [gt_iff_lt, ← Nat.not_le, ← Nat.not_lt (a := n), not_iff_not]
  exact Nat.length_toDigits_le_iff (by decide) (by decide)

theorem write_coe (row column : Nat) :
    write row column =
      if 10 ^ maxIntDigits ≤ row + 1 then breach .longNumeral
      else .ok (make row column) := by
  have number : ((row : Int) + 1).natAbs = row + 1 := by omega
  rw [write, number]
  exact if_congr length_digitChars_gt_iff rfl rfl

/-- Writing and reading an address gives back the position, as long as the row
has no more digits than are written, and as long as the column has no more
letters than are read. -/
theorem write_bind_parse (row column : Nat) :
    (write row column >>= parse) =
      if 10 ^ maxIntDigits ≤ row + 1 then breach .longNumeral
      else if column ≤ 18277 then .ok (row, column)
      else fail (.address (make row column)) := by
  rw [write_coe]
  by_cases long : 10 ^ maxIntDigits ≤ row + 1
  · simp only [long, if_true]
    rfl
  · have short : ¬maxIntDigits < (digitChars (row + 1)).length :=
      mt length_digitChars_gt_iff.mp long
    simp only [long, if_false, Except.ok_bind, parse_make, short]

/-- The cell at a written address is the cell at the position, and none is found
if the row has more digits than are written. -/
theorem write_bind_getAddress_iff
    {sheet : Sheet}
    {row column : Nat}
    (inRows : row < sheet.rowCount)
    (inColumns : column < sheet.width)
    (few : column ≤ 18277) :
    (write row column >>= sheet.getAddress) = sheet.get row column ↔
      row + 1 < 10 ^ maxIntDigits := by
  rw [write_coe]
  by_cases long : 10 ^ maxIntDigits ≤ row + 1
  · have found := Sheet.get_of_lt inRows inColumns
    simp only [long, if_true, found, Nat.not_lt.mpr long, iff_false]
    exact nofun
  · have isRead : parse (make row column) = .ok (row, column) := by
      have parsed := write_bind_parse row column
      simpa only [write_coe, long, few, if_false, if_true, Except.ok_bind]
        using parsed
    simp only [long, if_false, Except.ok_bind, Sheet.getAddress, isRead,
      Nat.not_le.mp long]

/-! ## Addresses name positions -/

/-- A text of ASCII characters. -/
def IsAscii (text : String) : Prop :=
  ∀ c ∈ text.toList, c.val < 128

/-- An ASCII text is another one in another letter case, or with dollar signs
before its letters and before its row. -/
inductive Respells : String → String → Prop where
  | letterCase
      {text plain : String}
      (ascii : IsAscii text)
      (plainAscii : IsAscii plain)
      (sameLetters : text.toList.map Char.toUpper = plain.toList.map Char.toUpper) :
      Respells text plain
  | anchors
      {text : String}
      {beforeLetters beforeRow : Bool}
      {letters row : List Char}
      (ascii : IsAscii text)
      (spelled :
        trim text.toList =
          anchor beforeLetters ++ (letters ++ (anchor beforeRow ++ row)))
      (someLetter : letters ≠ [])
      (isLetters : ∀ c ∈ letters, c.isAlpha = true)
      (rowStarts : ∀ c ∈ row.head?, c.isAlpha = false ∧ c ≠ '$') :
      Respells text (String.ofList (letters ++ row))

theorem Respells.parse_eq
    {text plain : String}
    (respells : Respells text plain) :
    parse text = retold text (parse plain) := by
  cases respells with
  | letterCase ascii plainAscii sameLetters =>
      exact parse_of_same_letters plainAscii ascii sameLetters
  | anchors ascii spelled someLetter isLetters rowStarts =>
      exact parse_of_anchored ascii spelled someLetter isLetters rowStarts

/--
Columns and their letters name each other, and so do positions and their
addresses, as far as the columns have at most three letters and the rows have no
more digits than are written. Letter case and dollar signs make no difference.
The cell at the address of a position is the cell there exactly if the row has
no more digits than are written.
-/
theorem addresses_bijective
    (sheet : Sheet)
    (row column : Nat)
    (letters : List Char)
    (text plain : String) :
    columnIndex (columnLetters column) = column ∧
      (letters ≠ [] →
        (∀ c ∈ letters, isCapital c = true) →
          columnLetters (columnIndex (String.ofList letters)) =
            String.ofList letters) ∧
      (write row column >>= parse) =
        (if 10 ^ maxIntDigits ≤ row + 1 then breach .longNumeral
        else if column ≤ 18277 then .ok (row, column)
        else fail (.address (make row column))) ∧
      (Respells text plain → parse text = retold text (parse plain)) ∧
      (sheet.width ≤ 18278 →
        row < sheet.rowCount →
          column < sheet.width →
            ((write row column >>= sheet.getAddress) = sheet.get row column ↔
              row + 1 < 10 ^ maxIntDigits)) := by
  refine ⟨columnIndex_columnLetters column, fun _ => columnLetters_columnIndex,
    write_bind_parse row column, Respells.parse_eq,
    fun narrow inRows inColumns => ?_⟩
  exact write_bind_getAddress_iff inRows inColumns (by omega)

/-- A sheet of one row. -/
def pair : Sheet :=
  ⟨"pair", [[.text "left", .text "right"]], 2, none, none, none⟩

/-- Anchors and small letters in the address of a cell in the first column with
two letters, and the second cell of a sheet. -/
theorem addresses_bijective_anchored :
    (write (11 : Nat) (26 : Nat) >>= parse) = .ok (11, 26) ∧
      Respells "$aa$12" "aa12" ∧
      Respells "aa12" "AA12" ∧
      parse "$aa$12" = retold "$aa$12" (retold "aa12" (parse "AA12")) ∧
      columnLetters (columnIndex "AA") = "AA" ∧
      (write (0 : Nat) (1 : Nat) >>= pair.getAddress) = .ok (.text "right") := by
  have rowStarts : ∀ c ∈ ['1', '2'].head?, c.isAlpha = false ∧ c ≠ '$' := by
    rintro c ⟨⟩
    decide
  have anchored : Respells "$aa$12" "aa12" :=
    @Respells.anchors _ true true ['a', 'a'] ['1', '2'] (forall_mem_of_all rfl)
      (by decide) (by decide) (forall_mem_of_all rfl) rowStarts
  have small : Respells "aa12" "AA12" :=
    .letterCase (forall_mem_of_all rfl) (forall_mem_of_all rfl) (by decide)
  have short {row : Nat} (low : row < 100) : row < 10 ^ maxIntDigits :=
    Nat.lt_of_lt_of_le low
      (Nat.pow_le_pow_right (by decide : 0 < 10) (by decide : 2 ≤ maxIntDigits))
  obtain ⟨_, letters, written, withAnchors, _⟩ :=
    addresses_bijective pair 11 26 ['A', 'A'] "$aa$12" "aa12"
  obtain ⟨_, _, _, inCapitals, found⟩ :=
    addresses_bijective pair 0 1 ['A', 'A'] "aa12" "AA12"
  have isFound :=
    (found (by decide) (by decide) (by decide)).mpr (short (by decide))
  refine ⟨?_, anchored, small, ?_, letters (by decide) (forall_mem_of_all rfl),
    isFound⟩
  · have few : 26 ≤ 18277 := by decide
    have fits : ¬10 ^ maxIntDigits ≤ 11 + 1 := Nat.not_le.mpr (short (by decide))
    simpa only [fits, few, if_false, if_true] using written
  · rw [← inCapitals small, withAnchors anchored]

/-- A row whose number has one digit too many: its address is
neither written nor read. -/
theorem long_row_has_no_address :
    (write (10 ^ maxIntDigits - 1 : Nat) (0 : Nat) >>= parse) ≠
        .ok (10 ^ maxIntDigits - 1, 0) ∧
      parse (make (10 ^ maxIntDigits - 1 : Nat) (0 : Nat)) ≠
        .ok (10 ^ maxIntDigits - 1, 0) := by
  have positive : 0 < 10 ^ maxIntDigits := Nat.pow_pos (by decide)
  have long : 10 ^ maxIntDigits ≤ 10 ^ maxIntDigits - 1 + 1 :=
    (Nat.sub_one_add_one_eq_of_pos positive).ge
  generalize 10 ^ maxIntDigits - 1 = row at long ⊢
  constructor
  · simp only [write_bind_parse, long, if_true]
    exact nofun
  · have tooLong : maxIntDigits < (digitChars (row + 1)).length :=
      length_digitChars_gt_iff.mpr long
    simp only [parse_make, tooLong, Nat.zero_le, if_true]
    exact nofun

end GridScript.Address
