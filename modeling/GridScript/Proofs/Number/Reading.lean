import GridScript.Number.Reading
import GridScript.Proofs.Text.Rewriting
import Mathlib.Tactic.Tauto

namespace GridScript.Number

/-!
# Reading written integers

The decimal digits of a whole number are read as that number, unless there are
too many of them. A text that does not begin with a minus sign is not read as
a negative number.
-/

open GridScript.Text

/-- The digits of a number are digits. -/
theorem isDigit_of_mem_digitChars
    {n : Nat}
    {c : Char}
    (member : c ∈ digitChars n) :
    c.isDigit = true :=
  Nat.isDigit_of_mem_toDigits (by decide) (by decide) member

theorem digitChars_ne_nil (n : Nat) : digitChars n ≠ [] :=
  Nat.toDigits_ne_nil

/-- The digits of a number have its value. -/
theorem digitsValue_digitChars (n : Nat) : digitsValue (digitChars n) = n := by
  have value := Nat.ofDigitChars_toDigits (b := 10) (n := n) (by decide) (by decide)
  exact value

/-- The first digit of a positive number is not zero. -/
theorem digitChars_of_pos
    {n : Nat}
    (positive : 0 < n) :
    ∃ c rest, digitChars n = c :: rest ∧ c ≠ '0' := by
  induction n using Nat.strongRecOn with
  | ind n inductionHypothesis =>
      by_cases oneDigit : n < 10
      · have nonzero : ∀ n < 10, 0 < n → n.digitChar ≠ '0' := by decide
        exact ⟨_, [], Nat.toDigits_of_lt_base oneDigit, nonzero n oneDigit positive⟩
      · have several : 10 ≤ n := Nat.le_of_not_lt oneDigit
        obtain ⟨c, rest, first, nonzero⟩ :=
          inductionHypothesis (n / 10) (Nat.div_lt_self positive (by decide))
            (Nat.div_pos several (by decide))
        refine ⟨c, rest ++ [(n % 10).digitChar], ?_, nonzero⟩
        rw [digitChars, Nat.toDigits_of_base_le (by decide) several]
        exact congrArg (· ++ _) first

/-- A digit lies between zero and nine. -/
theorem toNat_of_isDigit
    {c : Char}
    (digit : c.isDigit = true) :
    48 ≤ c.val.toNat ∧ c.val.toNat ≤ 57 := by
  simpa [Char.isDigit, UInt32.le_iff_toNat_le] using digit

theorem ne_of_isDigit
    {c : Char}
    (digit : c.isDigit = true)
    (d : Char)
    (other : d.isDigit = false) :
    c ≠ d := by
  rintro rfl
  rw [digit] at other
  cases other

/-- A digit is no white space. -/
theorem isBlank_of_isDigit
    {c : Char}
    (digit : c.isDigit = true) :
    isBlank c = false := by
  obtain ⟨low, high⟩ : 48 ≤ c.toNat ∧ c.toNat ≤ 57 := toNat_of_isDigit digit
  simp [isBlank, inRanges, blankRanges]
  omega

/-- A digit is plain. -/
theorem plainDigit_of_isDigit
    {c : Char}
    (digit : c.isDigit = true) :
    plainDigit c = c := by
  obtain ⟨low, high⟩ := toNat_of_isDigit digit
  have code : 48 + (c.val.toNat - 48) = c.toNat := by
    show 48 + (c.val.toNat - 48) = c.val.toNat
    omega
  simp only [plainDigit, digitValue?, digit, if_true, code, Char.ofNat_toNat]

/-- Digits have no white space around them. -/
theorem trim_of_isDigit
    {digits : List Char}
    (allDigits : ∀ c ∈ digits, c.isDigit = true) :
    trim digits = digits :=
  trim_of_visible
    (fun c isFirst =>
      isBlank_of_isDigit (allDigits c (List.mem_of_mem_head? isFirst)))
    (fun c isLast => isBlank_of_isDigit (allDigits c (List.mem_of_getLast? isLast)))

/-- Digits have no underscore out of place. -/
theorem underscoresFit_of_isDigit
    {digits : List Char}
    (allDigits : ∀ c ∈ digits, c.isDigit = true)
    (before : Char)
    (notUnderscore : before ≠ '_') :
    underscoresFit before digits = true := by
  induction digits generalizing before with
  | nil =>
      simp [underscoresFit, notUnderscore]
  | cons c digits inductionHypothesis =>
      have digit := allDigits c (by simp)
      have other := ne_of_isDigit digit '_' (by decide)
      simp [underscoresFit, other, notUnderscore,
        inductionHypothesis (fun d member => allDigits d (by simp [member]))
          c other]

/-- Digits are plain. -/
theorem plain?_of_isDigit
    {digits : List Char}
    (allDigits : ∀ c ∈ digits, c.isDigit = true) :
    plain? digits = some digits := by
  have same : digits.map plainDigit = digits := by
    rw [List.map_congr_left fun c member =>
        plainDigit_of_isDigit (allDigits c member),
      List.map_id']
  have kept : digits.filter (· != '_') = digits :=
    List.filter_eq_self.mpr fun c member => by
      simpa using ne_of_isDigit (allDigits c member) '_' (by decide)
  rw [plain?]
  simp only [same, underscoresFit_of_isDigit allDigits ' ' (by decide), if_true,
    kept]

/-- The digits of a number are read as the number. -/
theorem readInt_digitChars
    {n : Nat}
    (short : (digitChars n).length ≤ maxIntDigits) :
    readInt (digitChars n) = .value n := by
  have allDigits : ∀ c ∈ digitChars n, c.isDigit = true :=
    fun c => isDigit_of_mem_digitChars
  have noSign : cutSign (digitChars n) = (false, digitChars n) := by
    obtain ⟨c, rest, chars⟩ := List.exists_cons_of_ne_nil (digitChars_ne_nil n)
    have digit := allDigits c (by simp [chars])
    rw [chars, cutSign]
    · exact fun _ h => ne_of_isDigit digit '-' (by decide) (List.cons.inj h).1
    · exact fun _ h => ne_of_isDigit digit '+' (by decide) (List.cons.inj h).1
  have digits : (digitChars n).all Char.isDigit = true :=
    List.all_eq_true.mpr allDigits
  have nonempty : (digitChars n).isEmpty = false := by
    simpa using digitChars_ne_nil n
  unfold readInt
  rw [trim_of_isDigit allDigits, plain?_of_isDigit allDigits]
  simp only [noSign, nonempty, digits, Bool.not_true, Bool.or_self,
    Bool.false_eq_true, if_false, Nat.not_lt.mpr short, digitsValue_digitChars,
    signed]

/-- The digits of a number have neither a point nor an exponent. -/
theorem any_digitChars (n : Nat) :
    ((digitChars n).any fun c => c == '.' || c == 'e' || c == 'E') = false := by
  rw [List.any_eq_false]
  intro c member
  have digit := isDigit_of_mem_digitChars member
  simp [ne_of_isDigit digit '.' (by decide), ne_of_isDigit digit 'e' (by decide),
    ne_of_isDigit digit 'E' (by decide)]

/-- A number of 64 bits has few digits. -/
theorem length_digitChars_le
    {n : Nat}
    (small : n < 10 ^ 19) :
    (digitChars n).length ≤ 19 :=
  (Nat.length_toDigits_le_iff (by decide) (by decide)).mpr small

/-- Digits have fewer values than there are texts of as many digits. -/
theorem digitsValueFrom_lt
    {digits : List Char}
    (allDigits : ∀ c ∈ digits, c.isDigit = true)
    (n : Nat) :
    digitsValueFrom n digits < (n + 1) * 10 ^ digits.length := by
  induction digits generalizing n with
  | nil =>
      simp [digitsValueFrom]
  | cons c digits inductionHypothesis =>
      have between := toNat_of_isDigit (allDigits c List.mem_cons_self)
      have later :=
        inductionHypothesis
          (fun d member => allDigits d (List.mem_cons_of_mem c member))
        (10 * n + (c.val.toNat - 48))
      calc digitsValueFrom n (c :: digits)
        _ = digitsValueFrom (10 * n + (c.val.toNat - 48)) digits := rfl
        _ < (10 * n + (c.val.toNat - 48) + 1) * 10 ^ digits.length := later
        _ ≤ (n + 1) * 10 * 10 ^ digits.length := Nat.mul_le_mul_right _ (by omega)
        _ = (n + 1) * 10 ^ (c :: digits).length := by
          rw [List.length_cons, Nat.pow_succ, Nat.mul_assoc, Nat.mul_comm 10]

/-- An integer that is read has no more digits than are read. -/
theorem length_digitChars_of_readInt
    {text : List Char}
    {i : Int}
    (read : readInt text = .value i) :
    (digitChars i.toNat).length ≤ maxIntDigits := by
  unfold readInt at read
  split at read
  next =>
    cases read
  next cs plain =>
    dsimp only at read
    split at read
    next =>
      cases read
    next isDigits =>
      split at read
      next =>
        cases read
      next few =>
        cases read
        simp only [Bool.or_eq_true, Bool.not_eq_true', not_or, Bool.not_eq_false,
          List.all_eq_true] at isDigits
        have small : digitsValue (cutSign cs).2 < 1 * 10 ^ (cutSign cs).2.length :=
          digitsValueFrom_lt isDigits.2 0
        have power : 10 ^ (cutSign cs).2.length ≤ 10 ^ maxIntDigits :=
          Nat.pow_le_pow_right (by decide) (Nat.le_of_not_lt few)
        have magnitude :
            (signed (cutSign cs).1 (digitsValue (cutSign cs).2)).toNat ≤
            digitsValue (cutSign cs).2 := by
          unfold signed
          split <;> omega
        refine (Nat.length_toDigits_le_iff (by decide) (by decide)).mpr ?_
        rw [Nat.one_mul] at small
        exact Nat.lt_of_le_of_lt magnitude (Nat.lt_of_lt_of_le small power)

/-! ## Texts of decimals -/

/-- Digits stay digits when zeros are put in front. -/
theorem isDigit_of_mem_padLeft
    {width : Nat}
    {cs : List Char}
    {c : Char}
    (digits : ∀ c ∈ cs, c.isDigit = true)
    (member : c ∈ padLeft width cs) :
    c.isDigit = true := by
  rcases List.mem_append.mp member with inZeros | inDigits
  · rw [List.eq_of_mem_replicate inZeros]
    rfl
  · exact digits c inDigits

/-- Between digits stand zeros and a point at most. -/
theorem mem_of_mem_positional
    {places : Int}
    {cs : List Char}
    {c : Char}
    (member : c ∈ positional cs places) :
    c ∈ cs ∨ c = '0' ∨ c = '.' := by
  unfold positional at member
  split at member
  · simp only [List.mem_cons, List.mem_append, List.mem_replicate] at member
    tauto
  · split at member
    · simp only [List.mem_cons, List.mem_append, List.mem_replicate,
        List.not_mem_nil] at member
      tauto
    · rw [← List.take_append_drop places.toNat cs]
      simp only [List.mem_append, List.mem_cons] at member ⊢
      tauto

/-! ## Texts without a sign -/

/-- As an integer the text is at most read as one that is not negative. -/
def Unsigned (text : List Char) : Prop :=
  ∀ i, readInt text = .value i → 0 ≤ i

/-- A digit of a script is one of ten from its zero. -/
theorem exists_zeroDigit
    {c : Char}
    {d : Nat}
    (value : digitValue? c = some d)
    (notAscii : c.isDigit = false) :
    ∃ origin ∈ zeroDigits, c.toNat = origin + d ∧ d ≤ 9 := by
  unfold digitValue? at value
  rw [if_neg (by simp [notAscii])] at value
  split at value
  next =>
    cases value
  next =>
    obtain ⟨origin, found, rfl⟩ := Option.map_eq_some_iff.mp value
    have bounds := List.find?_some found
    rw [Bool.and_eq_true, decide_eq_true_iff, decide_eq_true_iff] at bounds
    refine ⟨origin, List.mem_of_find?_eq_some found, ?_, by omega⟩
    show c.val.toNat = _
    omega

theorem digitValue?_le
    {c : Char}
    {d : Nat}
    (value : digitValue? c = some d) :
    d ≤ 9 := by
  cases ascii : c.isDigit with
  | true =>
      have bounds := toNat_of_isDigit ascii
      rw [digitValue?, if_pos ascii] at value
      obtain rfl := Option.some.inj value
      omega
  | false =>
      obtain ⟨_, _, _, low⟩ := exists_zeroDigit value ascii
      exact low

/-- No digit of a script is white space. -/
theorem isBlank_of_isDecimalDigit
    {c : Char}
    (digit : isDecimalDigit c = true) :
    isBlank c = false := by
  obtain ⟨d, value⟩ := Option.isSome_iff_exists.mp digit
  cases ascii : c.isDigit with
  | true =>
      exact isBlank_of_isDigit ascii
  | false =>
      obtain ⟨origin, member, code, low⟩ := exists_zeroDigit value ascii
      have apart : (zeroDigits.all fun first => blankRanges.all fun range =>
          decide (range.2 < first ∨ first + 9 < range.1)) = true := by
        decide
      refine Bool.eq_false_iff.mpr fun blank => ?_
      obtain ⟨range, inBlank, inside⟩ := List.any_eq_true.mp blank
      have outside :=
        List.all_eq_true.mp (List.all_eq_true.mp apart origin member) range inBlank
      rw [decide_eq_true_iff] at outside
      simp only [Bool.and_eq_true, decide_eq_true_iff] at inside
      have code : c.val.toNat = origin + d := code
      omega

theorem plainDigit_ne_minus
    {c : Char}
    (other : c ≠ '-') :
    plainDigit c ≠ '-' := by
  unfold plainDigit
  split
  next d value =>
    have differs : ∀ d ≤ 9, Char.ofNat (48 + d) ≠ '-' := by decide
    exact differs d (digitValue?_le value)
  next =>
    exact other

/-- Plain text begins with a minus sign only if the text does. -/
theorem plain?_ne_minus
    {text plain rest : List Char}
    (other : text.head? ≠ some '-')
    (isPlain : plain? text = some plain) :
    plain ≠ '-' :: rest := by
  unfold plain? at isPlain
  dsimp only at isPlain
  split at isPlain
  next fits =>
    obtain rfl := Option.some.inj isPlain
    cases text with
    | nil =>
        exact nofun
    | cons c text =>
        -- The first character is kept: an underscore would have no digit before it.
        have kept : plainDigit c ≠ '_' := by
          intro isUnderscore
          simp [isUnderscore, underscoresFit] at fits
        have differs : plainDigit c ≠ '-' :=
          plainDigit_ne_minus (by simpa using other)
        simp [kept, differs]
  next =>
    cases isPlain

/-- A text is unsigned if no minus sign leads it after its white space. -/
theorem unsigned_of_trimLeft
    {text : List Char}
    (other : (trimLeft text).head? ≠ some '-') :
    Unsigned text := by
  have trimmed : (trim text).head? ≠ some '-' := by
    obtain ⟨cut, split⟩ : trim text <+: trimLeft text := by
      rw [trim, trimRight, ← List.reverse_suffix, List.reverse_reverse]
      exact List.dropWhile_suffix isBlank
    intro leads
    rw [← split, List.head?_append, leads] at other
    exact other rfl
  intro i read
  unfold readInt at read
  split at read
  next =>
    cases read
  next plain isPlain =>
    have noMinus : cutSign plain = (false, (cutSign plain).2) := by
      unfold cutSign
      split
      next =>
        exact absurd rfl (plain?_ne_minus trimmed isPlain)
      next =>
        rfl
      next =>
        rfl
    rw [noMinus] at read
    dsimp only at read
    split at read
    next =>
      cases read
    next =>
      split at read
      next =>
        cases read
      next =>
        cases read
        exact Int.natCast_nonneg _

theorem unsigned_of_not_mem
    {text : List Char}
    (without : '-' ∉ text) :
    Unsigned text :=
  unsigned_of_trimLeft fun leads =>
    without ((List.dropWhile_suffix isBlank).subset (List.mem_of_head? leads))

theorem unsigned_cons
    {c : Char}
    (other : c ≠ '-')
    (visible : isBlank c = false)
    (rest : List Char) :
    Unsigned (c :: rest) := by
  refine unsigned_of_trimLeft ?_
  rw [trimLeft, List.dropWhile_cons_of_neg (by simp [visible])]
  simpa using other

end GridScript.Number
