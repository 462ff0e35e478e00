import GridScript.Json.Line
import GridScript.Json.Reading
import GridScript.Proofs.Number.Reading

namespace GridScript.Json

/-!
# Strings and numbers on lines

A string that is written on a line is read up to its closing quote, whatever
escapes it needs. The text of a number is read up to the comma, bracket or brace
that follows it: neither its digits nor its exponent reach into what follows.
-/

open GridScript.Number

/-! ## Strings -/

/-- The digits of an escape code. -/
def codeDigits (code : Nat) : List Char :=
  [hexDigit (code / 4096 % 16), hexDigit (code / 256 % 16),
    hexDigit (code / 16 % 16), hexDigit (code % 16)]

theorem hexValue?_hexDigit (n : Nat) :
    hexValue? (hexDigit (n % 16)) = some (n % 16) := by
  have each : ∀ digit < 16, hexValue? (hexDigit digit) = some digit := by decide
  exact each _ (Nat.mod_lt n (by decide))

theorem readCode?_codeDigits
    {code : Nat}
    (small : code < 0x10000)
    (rest : List Char) :
    readCode? (codeDigits code ++ rest) = some (code, rest) := by
  have value :
      ((code / 4096 % 16 * 16 + code / 256 % 16) * 16 + code / 16 % 16) * 16 +
      code % 16 = code := by omega
  simp [codeDigits, readCode?, hexValue?_hexDigit, value]

/-- A character that needs one code is read from it. -/
theorem readUnicode?_single
    {code : Nat}
    (small : code < 0x10000)
    (noPair : ¬(0xD800 ≤ code ∧ code < 0xDC00))
    (rest : List Char) :
    readUnicode? (codeDigits code ++ rest) = some (Char.ofNat code, rest) := by
  rw [readUnicode?, readCode?_codeDigits small]
  exact if_neg noPair

/-- A character that needs two codes is read from them. -/
theorem readUnicode?_pair
    {high low : Nat}
    (isHigh : 0xD800 ≤ high ∧ high < 0xDC00)
    (isLow : 0xDC00 ≤ low ∧ low < 0xE000)
    (rest : List Char) :
    readUnicode? (codeDigits high ++ '\\' :: 'u' :: (codeDigits low ++ rest)) =
      some (Char.ofNat (0x10000 + (high - 0xD800) * 1024 + (low - 0xDC00)),
        rest) := by
  have highRead := readCode?_codeDigits (Nat.lt_trans isHigh.2 (by decide))
    ('\\' :: 'u' :: (codeDigits low ++ rest))
  have lowRead := readCode?_codeDigits (Nat.lt_trans isLow.2 (by decide)) rest
  simp only [readUnicode?, highRead, Option.bind_eq_bind, Option.bind_some,
    if_pos isHigh, lowRead, if_pos isLow, Option.pure_def]

/-- The escape codes of a character are read as the character. -/
theorem readUnicode?_escapeCodes
    (c : Char)
    (rest : List Char) :
    ∃ digits, escapeCodes c.toNat = '\\' :: 'u' :: digits ∧
      readUnicode? (digits ++ rest) = some (c, rest) := by
  have valid := c.valid
  simp only [UInt32.isValidChar, Nat.isValidChar] at valid
  have valid : c.toNat < 0xD800 ∨ 0xDFFF < c.toNat ∧ c.toNat < 0x110000 := valid
  by_cases small : c.toNat < 0x10000
  · refine ⟨codeDigits c.toNat, ?_, ?_⟩
    · rw [escapeCodes, if_pos small]
      rfl
    · rw [readUnicode?_single small (by omega), Char.ofNat_toNat]
  · refine ⟨codeDigits (0xD800 + (c.toNat - 0x10000) / 1024) ++
      '\\' :: 'u' :: codeDigits (0xDC00 + (c.toNat - 0x10000) % 1024), ?_, ?_⟩
    · rw [escapeCodes, if_neg small]
      rfl
    · have whole : 0x10000 + (0xD800 + (c.toNat - 0x10000) / 1024 - 0xD800) * 1024 +
          (0xDC00 + (c.toNat - 0x10000) % 1024 - 0xDC00) = c.toNat := by omega
      rw [List.append_assoc, List.cons_append, List.cons_append,
        readUnicode?_pair (by omega) (by omega), whole, Char.ofNat_toNat]

/-- A character of a written string is read first. -/
theorem readBody?_lineChar
    (fuel : Nat)
    (done : List Char)
    (c : Char)
    (rest : List Char) :
    readBody? (fuel + 1) done (lineChar c ++ rest) =
      readBody? fuel (c :: done) rest := by
  unfold lineChar
  split
  next letter short =>
    unfold shortLetter? at short
    split at short
    case h_8 =>
      cases short
    all_goals
      cases short
      rfl
  next noLetter =>
    have noQuote : c ≠ '"' := by
      rintro rfl
      cases noLetter
    have noBackslash : c ≠ '\\' := by
      rintro rfl
      cases noLetter
    dsimp only
    split
    next plain =>
      have visible : ¬c.val < 32 := fun low =>
        absurd (UInt32.lt_iff_toNat_lt.mp low) (Nat.not_lt.mpr plain.1)
      simp [readBody?, noQuote, noBackslash, visible]
    next =>
      obtain ⟨digits, isEscape, read⟩ := readUnicode?_escapeCodes c rest
      have isEscape : escapeCodes c.val.toNat = '\\' :: 'u' :: digits := isEscape
      rw [isEscape]
      simp [readBody?, read]

/-- A written string is read up to its closing quote. -/
theorem readBody?_lineString
    (fuel : Nat)
    (cs : List Char)
    (enough : cs.length < fuel)
    (done tail : List Char) :
    readBody? fuel done (cs.flatMap lineChar ++ '"' :: tail) =
      some (String.ofList (done.reverse ++ cs), tail) := by
  induction cs generalizing fuel done with
  | nil =>
      obtain ⟨fuel, rfl⟩ := Nat.exists_eq_succ_of_ne_zero (Nat.ne_zero_of_lt enough)
      simp [readBody?]
  | cons c cs inductionHypothesis =>
      obtain ⟨fuel, rfl⟩ := Nat.exists_eq_succ_of_ne_zero (Nat.ne_zero_of_lt enough)
      have later :=
        inductionHypothesis fuel (Nat.lt_of_succ_lt_succ enough) (c :: done)
      rw [List.flatMap_cons, List.append_assoc, readBody?_lineChar, later]
      simp

/-! ## Numbers -/

theorem dropLiteral?_append
    {word cs rest : List Char}
    (read : dropLiteral? word cs = some rest)
    (tail : List Char) :
    dropLiteral? word (cs ++ tail) = some (rest ++ tail) := by
  induction word generalizing cs with
  | nil =>
      cases read
      rfl
  | cons p word inductionHypothesis =>
      cases cs with
      | nil =>
          cases read
      | cons c cs =>
          rw [dropLiteral?] at read
          rw [List.cons_append, dropLiteral?]
          split at read
          next same =>
            rw [if_pos same]
            exact inductionHypothesis read
          next =>
            cases read

/-- A value that begins with a digit is a number. -/
theorem readValue?_of_isDigit
    {c : Char}
    (digit : c.isDigit = true)
    (fuel : Nat)
    (rest : List Char) :
    readValue? (fuel + 1) (c :: rest) = readNumber? false (c :: rest) := by
  rw [readValue?]
  all_goals exact fun _ same =>
    ne_of_isDigit digit _ (by decide) (List.cons.inj same).1

/-- After a minus sign, what begins with a digit is a number. -/
theorem readValue?_minus
    {c : Char}
    (digit : c.isDigit = true)
    (fuel : Nat)
    (rest : List Char) :
    readValue? (fuel + 1) ('-' :: c :: rest) = readNumber? true (c :: rest) := by
  rw [readValue?]
  exact fun _ same => ne_of_isDigit digit 'I' (by decide) (List.cons.inj same).1

/-- A number begins with a digit. -/
theorem exists_digit_of_readNumber?
    {negative : Bool}
    {cs rest : List Char}
    {number : Json}
    (read : readNumber? negative cs = some (number, rest)) :
    ∃ c more, cs = c :: more ∧ c.isDigit = true := by
  simp only [readNumber?, Option.bind_eq_bind, Option.bind_eq_some_iff] at read
  obtain ⟨digits, whole, -⟩ := read
  unfold wholeDigits? at whole
  split at whole
  next more =>
    exact ⟨'0', more, rfl, rfl⟩
  next =>
    cases cs with
    | nil =>
        cases whole
    | cons c more =>
        refine ⟨c, more, rfl, ?_⟩
        by_contra noDigit
        rw [List.takeWhile_cons_of_neg noDigit] at whole
        cases whole

theorem readNumber?_digitChars
    (negative : Bool)
    (n : Nat) :
    readNumber? negative (digitChars n) = some (.int (signed negative n), []) := by
  have whole : wholeDigits? (digitChars n) = some (digitChars n, []) := by
    by_cases isZero : n = 0
    · subst isZero
      rfl
    · obtain ⟨c, rest, digits, nonzero⟩ :=
        digitChars_of_pos (Nat.pos_of_ne_zero isZero)
      have allDigits : ∀ d ∈ c :: rest, d.isDigit = true := fun d member =>
        isDigit_of_mem_digitChars (digits ▸ member)
      have other : ∀ more, c :: rest = '0' :: more → False :=
        fun _ same => nonzero (List.cons.inj same).1
      rw [digits, wholeDigits?.eq_2 _ other,
        List.takeWhile_eq_self_iff.mpr allDigits,
        List.dropWhile_eq_nil_iff.mpr allDigits]
      rfl
  simp only [readNumber?, whole, Option.bind_eq_bind, Option.bind_some]
  show some (Json.int (signed negative (digitsValue (digitChars n))), []) = _
  rw [digitsValue_digitChars]

/-! ## What follows a value -/

/-- Nothing follows a value, or a comma, a closing bracket or a closing brace. -/
inductive Follows : List Char → Prop where
  | nil : Follows []
  | comma (rest : List Char) : Follows (',' :: rest)
  | bracket (rest : List Char) : Follows (']' :: rest)
  | brace (rest : List Char) : Follows ('\x7d' :: rest)

/-- The sign at the head of an exponent. -/
def exponentSign : List Char → List Char
  | '-' :: _ => ['-']
  | '+' :: _ => ['+']
  | _ => []

theorem exponentSign_cons
    (c : Char)
    (rest : List Char) :
    exponentSign (c :: rest) = if c = '-' ∨ c = '+' then [c] else [] := by
  unfold exponentSign
  split <;> simp_all

theorem length_exponentSign_le (cs : List Char) :
    (exponentSign cs).length ≤ cs.length := by
  unfold exponentSign
  split <;> simp

/-- After the letter of an exponent come its sign and its digits. -/
theorem exponentDigits_cons
    {e : Char}
    (isLetter : e = 'e' ∨ e = 'E')
    {rest body : List Char}
    (isBody : rest.drop (exponentSign rest).length = body) :
    exponentDigits (e :: rest) =
      if (body.takeWhile Char.isDigit).isEmpty then ([], e :: rest)
      else
        ('e' :: exponentSign rest ++ body.takeWhile Char.isDigit,
          body.dropWhile Char.isDigit) := by
  subst isBody
  exact if_pos isLetter

section Tails

variable {tail : List Char} (follows : Follows tail)

include follows

/-- Digits end where what follows a value begins. -/
theorem takeWhile_isDigit_append (cs : List Char) :
    (cs ++ tail).takeWhile Char.isDigit = cs.takeWhile Char.isDigit := by
  induction cs with
  | nil =>
      cases follows <;> rfl
  | cons c cs inductionHypothesis =>
      rw [List.cons_append, List.takeWhile_cons, List.takeWhile_cons,
        inductionHypothesis]

theorem dropWhile_isDigit_append (cs : List Char) :
    (cs ++ tail).dropWhile Char.isDigit = cs.dropWhile Char.isDigit ++ tail := by
  induction cs with
  | nil =>
      cases follows <;> rfl
  | cons c cs inductionHypothesis =>
      rw [List.cons_append, List.dropWhile_cons, List.dropWhile_cons,
        inductionHypothesis]
      split <;> rfl

theorem wholeDigits?_append
    {cs digits rest : List Char}
    (read : wholeDigits? cs = some (digits, rest)) :
    wholeDigits? (cs ++ tail) = some (digits, rest ++ tail) := by
  cases cs with
  | nil =>
      cases read
  | cons c cs =>
      by_cases isZero : c = '0'
      · subst isZero
        cases read
        rfl
      · have other (more : List Char) : ∀ rest, c :: more = '0' :: rest → False :=
          fun _ same => isZero (List.cons.inj same).1
        rw [wholeDigits?.eq_2 _ (other cs)] at read
        rw [List.cons_append,
          wholeDigits?.eq_2 _ (other (cs ++ tail)), ← List.cons_append,
          takeWhile_isDigit_append follows, dropWhile_isDigit_append follows]
        split at read
        next =>
          cases read
        next some =>
          cases read
          rw [if_neg some]

theorem fractionDigits_append (cs : List Char) :
    fractionDigits (cs ++ tail) =
      ((fractionDigits cs).1, (fractionDigits cs).2 ++ tail) := by
  cases cs with
  | nil =>
      cases follows <;> rfl
  | cons c cs =>
      by_cases isPoint : c = '.'
      · subst isPoint
        simp only [List.cons_append, fractionDigits,
          takeWhile_isDigit_append follows, dropWhile_isDigit_append follows]
        split <;> rfl
      · have other (more : List Char) : ∀ rest, c :: more = '.' :: rest → False :=
          fun _ same => isPoint (List.cons.inj same).1
        rw [List.cons_append, fractionDigits.eq_2 _ (other (cs ++ tail)),
          fractionDigits.eq_2 _ (other cs)]
        rfl

theorem exponentSign_append (cs : List Char) :
    exponentSign (cs ++ tail) = exponentSign cs := by
  cases cs with
  | nil =>
      cases follows <;> rfl
  | cons c cs =>
      rw [List.cons_append, exponentSign_cons, exponentSign_cons]

theorem exponentDigits_append (cs : List Char) :
    exponentDigits (cs ++ tail) =
      ((exponentDigits cs).1, (exponentDigits cs).2 ++ tail) := by
  cases cs with
  | nil =>
      cases follows <;> rfl
  | cons e cs =>
      by_cases isLetter : e = 'e' ∨ e = 'E'
      · have body : (cs ++ tail).drop (exponentSign (cs ++ tail)).length =
            cs.drop (exponentSign cs).length ++ tail := by
          rw [exponentSign_append follows,
            List.drop_append_of_le_length (length_exponentSign_le cs)]
        rw [List.cons_append, exponentDigits_cons isLetter body,
          exponentDigits_cons isLetter rfl, exponentSign_append follows,
          takeWhile_isDigit_append follows, dropWhile_isDigit_append follows]
        split <;> rfl
      · have none (more : List Char) :
            exponentDigits (e :: more) = ([], e :: more) :=
          if_neg isLetter
        rw [List.cons_append, none, none]
        rfl

/-- A number is read up to what follows it. -/
theorem readNumber?_append
    {negative : Bool}
    {cs rest : List Char}
    {number : Json}
    (read : readNumber? negative cs = some (number, rest)) :
    readNumber? negative (cs ++ tail) = some (number, rest ++ tail) := by
  simp only [readNumber?, Option.bind_eq_bind, Option.bind_eq_some_iff] at read
  obtain ⟨⟨whole, afterWhole⟩, wholeRead, read⟩ := read
  simp only [readNumber?, wholeDigits?_append follows wholeRead,
    fractionDigits_append follows, exponentDigits_append follows,
    Option.bind_eq_bind, Option.bind_some]
  split at read
  next isInt =>
    cases read
    rw [if_pos isInt]
    rfl
  next isFloat =>
    cases read
    rw [if_neg isFloat]
    rfl

/-- An integer is read up to what follows it. -/
theorem readValue?_intText
    (fuel : Nat)
    (i : Int) :
    readValue? (fuel + 1) ((intText i).toList ++ tail) = some (.int i, tail) := by
  obtain ⟨c, rest, digits⟩ :=
    List.exists_cons_of_ne_nil (digitChars_ne_nil i.natAbs)
  have digit : c.isDigit = true :=
    isDigit_of_mem_digitChars (digits ▸ List.mem_cons_self)
  have number (negative : Bool) :=
    readNumber?_append follows (readNumber?_digitChars negative i.natAbs)
  rw [digits] at number
  rw [intText, String.toList_ofList, digits]
  split
  next negative =>
    have value : signed true i.natAbs = i := by
      simp only [signed, if_true]
      omega
    exact (readValue?_minus digit fuel (rest ++ tail)).trans (value ▸ number true)
  next nonnegative =>
    have value : signed false i.natAbs = i := by
      simp only [signed, Bool.false_eq_true, if_false]
      omega
    exact (readValue?_of_isDigit digit fuel (rest ++ tail)).trans
      (value ▸ number false)

/-- A float is read up to what follows it. -/
theorem readValue?_append_of_float
    {cs : List Char}
    {x : Float}
    (read : readValue? 1 cs = some (.float x, []))
    (fuel : Nat) :
    readValue? (fuel + 1) (cs ++ tail) = some (.float x, tail) := by
  have word {value : Json} {letters more : List Char}
      (read : (dropLiteral? letters more).map (value, ·) = some (.float x, [])) :
      (dropLiteral? letters (more ++ tail)).map (value, ·) =
        some (.float x, tail) := by
    obtain ⟨rest, literal, isValue⟩ := Option.map_eq_some_iff.mp read
    cases isValue
    rw [dropLiteral?_append literal]
    rfl
  unfold readValue? at read
  split at read
  -- Strings, arrays, objects, truth values and null are no floats.
  case h_1 | h_4 | h_5 | h_6 =>
    obtain ⟨_, _, isFloat⟩ := Option.map_eq_some_iff.mp read
    cases isFloat
  case h_2 | h_3 =>
    split at read <;> cases read
  case h_7 | h_8 | h_9 =>
    exact word read
  case h_10 =>
    obtain ⟨c, more, rfl, digit⟩ := exists_digit_of_readNumber? read
    exact (readValue?_minus digit fuel (more ++ tail)).trans
      (readNumber?_append follows read)
  case h_11 =>
    obtain ⟨c, more, rfl, digit⟩ := exists_digit_of_readNumber? read
    exact (readValue?_of_isDigit digit fuel (more ++ tail)).trans
      (readNumber?_append follows read)

end Tails

end GridScript.Json
