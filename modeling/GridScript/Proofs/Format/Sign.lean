import GridScript.Format.Code
import GridScript.Proofs.Change
import GridScript.Proofs.Format.Digits
import GridScript.Proofs.Format.Sections

namespace GridScript.Format

/-!
# The sign of a formatted number

Every kind of section decides from the rounded digits whether a negative number
gets its minus sign. Custom sections look for a character other than zero in
digits that may be grouped, and take the comma between two groups for one.
-/

open GridScript.Number

variable
  {cs : List Char}
  {c : Char}
  {n : Number}
  {decimals : Nat}
  {digits : FixedDigits}

/-! ## Products by hundreds -/

/-- A finite product by hundreds has the sign of its number. -/
theorem less_timesHundred
    {k : Nat}
    (finite : (timesHundred k n).IsFinite) :
    (timesHundred k n).less (.int 0) = n.less (.int 0) ∧ n.IsFinite := by
  induction k generalizing n with
  | zero => exact ⟨rfl, finite⟩
  | succ k inductionHypothesis =>
      cases n with
      | int i =>
          obtain ⟨sign, -⟩ := inductionHypothesis finite
          refine ⟨sign.trans ?_, _, _, _, rfl⟩
          rw [less_int, less_int, decide_eq_decide]
          omega
      | float x =>
          obtain ⟨sign, product⟩ := inductionHypothesis finite
          have factor := isFinite_of_mul_hundred product
          refine ⟨sign.trans ?_, factor⟩
          rw [less_zero, less_zero, isNegative_mul_hundred factor]

/-! ## Signs -/

/-- The number pattern of a custom section that shows digits. -/
def customPattern? (pattern : List Char) : Option NumberPattern :=
  let marks := markLiterals .start pattern
  if marks.contains ('@', false) || !marks.any isSlot then none
  else (cutPattern marks).numberPattern?

theorem finiteNumber?_value
    (finite : n.IsFinite) :
    finiteNumber? n.value = some n := by
  cases n with
  | int i => rfl
  | float x =>
      obtain ⟨negative, mantissa, exponent, value⟩ := finite
      have value : Exact.ofFloat x = .finite negative mantissa exponent := value
      have isFinite : x.isFinite = true := by
        show x.toModel.unpack.isFinite = true
        rw [exact_unpack] at value
        cases unpacked : x.toModel.unpack with
        | zero | finite => rfl
        | infinity | notANumber =>
            rw [unpacked] at value
            cases value
      show (if x.isFinite then some (Number.float x) else none) = _
      rw [if_pos isFinite]

theorem renderCustom_value
    {pattern : List Char}
    {numberPattern : NumberPattern}
    (finite : n.IsFinite)
    (isPattern : customPattern? pattern = some numberPattern) :
    renderCustom pattern n.value = numberPattern.render n := by
  unfold customPattern? at isPattern
  dsimp only at isPattern
  split at isPattern
  · cases isPattern
  next shows =>
    simp only [Bool.or_eq_true, Bool.not_eq_true', not_or, Bool.not_eq_true,
      Bool.not_eq_false]
      at shows
    unfold renderCustom
    dsimp only
    rw [shows.1, shows.2, finiteNumber?_value finite, isPattern]
    rfl

theorem isDigit_of_mem_padRight
    {width : Nat}
    (digits : ∀ c ∈ cs, c.isDigit = true)
    (member : c ∈ padRight width cs) :
    c.isDigit = true := by
  rcases List.mem_append.mp member with inDigits | inZeros
  · exact digits c inDigits
  · rw [List.eq_of_mem_replicate inZeros]
    rfl

theorem mem_of_mem_dropTrailingZeros
    (member : c ∈ dropTrailingZeros cs) :
    c ∈ cs := by
  have inReverse := (List.dropWhile_sublist _).subset (List.mem_reverse.mp member)
  exact List.mem_reverse.mp inReverse

/-- The digits before the point, filled up, of a number pattern. -/
def filledWhole (pattern : NumberPattern) (digits : FixedDigits) : List Char :=
  padLeft pattern.wholeDigits
    (if pattern.wholeDigits = 0 && digits.whole == ['0'] then [] else digits.whole)

theorem isDigit_of_mem_filledWhole
    {pattern : NumberPattern}
    (proper : digits.Proper)
    (member : c ∈ filledWhole pattern digits) :
    c.isDigit = true := by
  refine isDigit_of_mem_padLeft (fun c member => ?_) member
  split at member
  · cases member
  · exact proper.whole c member

theorem isDigit_of_mem_fraction
    {pattern : NumberPattern}
    (proper : digits.Proper)
    (member : c ∈ (pattern.digits digits).fraction) :
    c.isDigit = true := by
  dsimp only [NumberPattern.digits] at member
  split at member
  · cases member
  · exact isDigit_of_mem_padRight
      (fun c member => proper.fraction c (mem_of_mem_dropTrailingZeros member))
      member

/-- Four digits of which none differs from zero can only come from the pattern. -/
theorem long_filledWhole_iff
    (pattern : NumberPattern)
    (proper : digits.Proper) :
    ShowsNonzero (filledWhole pattern digits) ∨
        4 ≤ (filledWhole pattern digits).length ↔
      ShowsNonzero (filledWhole pattern digits) ∨ 4 ≤ pattern.wholeDigits := by
  refine or_congr_right' fun allZeros => ?_
  rw [filledWhole, showsNonzero_padLeft] at allZeros
  rw [filledWhole, length_padLeft]
  split at allZeros
  next empty =>
    rw [if_pos empty, List.length_nil]
    omega
  next notEmpty =>
    have oneDigit := proper.least.resolve_left allZeros
    rw [if_neg notEmpty]
    omega

/-- What a number pattern shows, and when it takes that for
something other than zero. -/
theorem digits_spec
    (pattern : NumberPattern)
    (proper : digits.Proper) :
    let shown := pattern.digits digits
    let number := shown.whole ++ pointed shown.fraction
    (∀ c ∈ number, isNumberChar c = true) ∧
      ((hasNonzero shown.whole || hasNonzero shown.fraction) = true ↔
        ShowsNonzero number ∨ pattern.thousands = true ∧
          4 ≤ pattern.wholeDigits) := by
  have fraction : ∀ c ∈ (pattern.digits digits).fraction, c.isDigit = true :=
    fun _ => isDigit_of_mem_fraction proper
  have filled : ∀ c ∈ filledWhole pattern digits, c.isDigit = true :=
    fun _ => isDigit_of_mem_filledWhole proper
  have long := long_filledWhole_iff pattern proper
  have whole : (pattern.digits digits).whole =
      if pattern.thousands then group (filledWhole pattern digits)
      else filledWhole pattern digits := by
    rw [← groupFromLeft_eq_group]
    rfl
  dsimp only
  rw [showsNonzero_append, showsNonzero_pointed, Bool.or_eq_true,
    hasNonzero_iff_of_isDigit fraction, whole]
  cases pattern.thousands with
  | false =>
      refine ⟨fun c member => ?_, ?_⟩
      · rcases List.mem_append.mp member with inWhole | inFraction
        · exact isNumberChar_of_isDigit (filled c inWhole)
        · exact isNumberChar_of_mem_pointed fraction inFraction
      · simp [hasNonzero_iff_of_isDigit filled]
  | true =>
      refine ⟨fun c member => ?_, ?_⟩
      · rcases List.mem_append.mp member with inWhole | inFraction
        · exact isNumberChar_of_mem_group filled inWhole
        · exact isNumberChar_of_mem_pointed fraction inFraction
      · rw [if_pos rfl, hasNonzero_group filled, showsNonzero_group, long, eq_self,
          true_and, or_right_comm]

variable {format : NumberFormat} {before after text : List Char}

theorem isNumberChar_of_mem_chars
    {thousands : Bool}
    (proper : digits.Proper)
    (member : c ∈ digits.chars thousands) :
    isNumberChar c = true := by
  rcases List.mem_append.mp member with inWhole | inFraction
  · split at inWhole
    · exact isNumberChar_of_mem_group proper.whole inWhole
    · exact isNumberChar_of_isDigit (proper.whole c inWhole)
  · exact isNumberChar_of_mem_pointed proper.fraction inFraction

/-- A code of one section shows a number by it. -/
theorem choose_of_length
    {code : List Char}
    (n : Number)
    (single : (sections code).length = 1) :
    choose code n.value = some (code, n.value) := by
  have only := sections_of_length single
  cases n <;> simp [choose, only, Number.value, Value.number?]

end GridScript.Format
