import GridScript.Proofs.Format.Sign
import GridScript.Proofs.Text.Rewriting

namespace GridScript.Format

/-!
# Plain codes as custom patterns

The codes of plain numbers, of currencies and of percentages are read by
grammars of their own. An empty quoted text after the last placeholder fits none
of these grammars, nor that of scientific codes or of dates, so that it makes
such a code a custom pattern.

The custom renderer shows the same text: it rounds to as many decimals, its
filling restores exactly the zeros that it trimmed, it counts its groups from
the other end, and its sign looks at the same digits. Only the decimals of
custom patterns are limited.
-/

open GridScript.Number
open GridScript.Text

/-- A code of a plain number, a currency or a percentage. -/
inductive PlainCode where
  | number (thousands : Bool) (decimals : Nat)
  | currency
      (symbol : Char)
      (isSymbol : isCurrency symbol = true)
      (thousands : Bool)
      (decimals : Nat)
  | percentage (decimals : Nat)

namespace PlainCode

/-- The digits after the point. -/
def decimals : PlainCode → Nat
  | number _ decimals | currency _ _ _ decimals | percentage decimals => decimals

/-- The digits before the point are grouped. -/
def thousands : PlainCode → Bool
  | number thousands _ | currency _ _ thousands _ => thousands
  | percentage _ => false

/-- The text before the digits. -/
def before : PlainCode → List Char
  | currency symbol .. => [symbol]
  | _ => []

/-- The text after the digits. -/
def after : PlainCode → List Char
  | percentage _ => ['%']
  | _ => []

/-- How often the number is multiplied by one hundred. -/
def percents : PlainCode → Nat
  | percentage _ => 1
  | _ => 0

/-- The placeholders of the digits. -/
def placeholders (code : PlainCode) : List Char :=
  (if code.thousands then ['#', ',', '#', '#', '0'] else ['0']) ++
    pointed (List.replicate code.decimals '0')

/-- The text of the code. -/
def text (code : PlainCode) : List Char :=
  code.before ++ code.placeholders ++ code.after

/-- The text of the code with an empty quoted text after the last placeholder. -/
def quotedText (code : PlainCode) : List Char :=
  code.before ++ code.placeholders ++ '"' :: '"' :: code.after

/-- The style of the code. -/
def style : PlainCode → Style
  | number thousands decimals => .number decimals thousands
  | currency symbol _ thousands decimals => .currency symbol decimals thousands
  | percentage decimals => .percentage decimals

end PlainCode

/-! ## Characters of plain codes -/

/-- The characters of plain codes. -/
def codeChars : List Char :=
  ['#', ',', '0', '.', '%', '$', '€', '£', '¥']

/-- The characters of plain codes and the quote. -/
def plainChars : List Char :=
  '"' :: codeChars

theorem isCurrency_iff
    {c : Char} :
    isCurrency c = true ↔ c = '$' ∨ c = '€' ∨ c = '£' ∨ c = '¥' := by
  simp [isCurrency]

namespace PlainCode

variable (code : PlainCode)

theorem mem_placeholders
    {c : Char}
    (member : c ∈ code.placeholders) :
    c = '#' ∨ c = ',' ∨ c = '0' ∨ c = '.' := by
  rcases List.mem_append.mp member with inWhole | inFraction
  · split at inWhole <;> simp at inWhole <;> tauto
  · unfold pointed at inFraction
    split at inFraction
    · cases inFraction
    · rcases List.mem_cons.mp inFraction with isPoint | isZero
      · exact .inr (.inr (.inr isPoint))
      · exact .inr (.inr (.inl (List.eq_of_mem_replicate isZero)))

theorem mem_codeChars_text : ∀ c ∈ code.text, c ∈ codeChars := by
  intro c member
  simp only [text, List.mem_append] at member
  rcases member with (inBefore | inCore) | inAfter
  · cases code with
    | currency symbol isSymbol =>
        rw [List.mem_singleton.mp inBefore]
        rcases isCurrency_iff.mp isSymbol with rfl | rfl | rfl | rfl <;> decide
    | number | percentage => cases inBefore
  · rcases code.mem_placeholders inCore with rfl | rfl | rfl | rfl <;> decide
  · cases code with
    | percentage =>
        rw [List.mem_singleton.mp inAfter]
        decide
    | number | currency => cases inAfter

theorem mem_plainChars_text : ∀ c ∈ code.text, c ∈ plainChars :=
  fun c member => List.mem_cons_of_mem _ (code.mem_codeChars_text c member)

theorem mem_plainChars_quotedText : ∀ c ∈ code.quotedText, c ∈ plainChars := by
  intro c member
  have either : c = '"' ∨ c ∈ code.text := by
    simp only [quotedText, text, List.mem_append, List.mem_cons] at member ⊢
    tauto
  rcases either with rfl | inText
  · decide
  · exact code.mem_plainChars_text c inText

end PlainCode

/-! ## Codes of plain characters -/

section Plain

variable {cs : List Char} (plain : ∀ c ∈ cs, c ∈ plainChars)

include plain

theorem not_mem_of_plain
    {c : Char}
    (other : c ∉ plainChars) :
    c ∉ cs :=
  fun member => other (plain c member)

/-- Plain characters separate no sections. -/
theorem sections_of_plain : sections cs = [cs] :=
  sections_of_joins (.of_not_mem (not_mem_of_plain plain (by decide)))

theorem withoutColors_of_plain : withoutColors 0 cs = cs := by
  have noBracket : '[' ∉ cs := not_mem_of_plain plain (by decide)
  clear plain
  induction cs with
  | nil => rfl
  | cons c cs inductionHypothesis =>
      obtain ⟨other, absent⟩ := List.ne_and_not_mem_of_not_mem_cons noBracket
      rw [withoutColors, if_neg (Ne.symm other), inductionHypothesis absent]

theorem trim_of_plain : trim cs = cs := by
  have visible : ∀ c ∈ plainChars, isBlank c = false := by
    simp [plainChars, codeChars, isBlank, inRanges, blankRanges]
  exact trim_of_visible
    (fun c isFirst => visible c (plain c (List.mem_of_mem_head? isFirst)))
    (fun c isLast => visible c (plain c (List.mem_of_mem_getLast? isLast)))

theorem parse_of_plain : NumberFormat.parse cs = ⟨classify cs, cs⟩ := by
  unfold NumberFormat.parse
  rw [sections_of_plain plain, List.headD_cons, withoutColors_of_plain plain,
    trim_of_plain plain]

end Plain

/-- Digits stay where they are in lower case. -/
theorem zero_mem_lowerAfter
    {cs : List Char}
    (member : '0' ∈ cs)
    (before : List Char) :
    '0' ∈ lowerAfter before cs := by
  induction cs generalizing before with
  | nil => cases member
  | cons c cs inductionHypothesis =>
      rw [lowerAfter, List.mem_append]
      rcases List.mem_cons.mp member with rfl | later
      · exact .inl List.mem_cons_self
      · exact .inr (inductionHypothesis later _)

theorem lower_ne_general
    {cs : List Char}
    (member : '0' ∈ cs) :
    (lower (String.ofList cs) == "general") = false := by
  rw [beq_eq_false_iff_ne]
  intro isGeneral
  have shown := zero_mem_lowerAfter member []
  rw [lower, String.toList_ofList] at isGeneral
  have letters : lowerAfter [] cs = "general".toList := by
    rw [← isGeneral, String.toList_ofList]
  rw [letters] at shown
  exact absurd shown (by decide)

/-! ## Classification -/

theorem zeroDecimals?_zeros (decimals : Nat) :
    zeroDecimals? (pointed (List.replicate decimals '0')) = some decimals := by
  cases decimals with
  | zero => rfl
  | succ decimals => simp [pointed, List.replicate_succ, zeroDecimals?]

/-- Nothing but zeros may stand behind the point. -/
theorem zeroDecimals?_append
    {c : Char}
    (noZero : c ≠ '0')
    (noPoint : c ≠ '.')
    (decimals : Nat)
    (rest : List Char) :
    zeroDecimals? (pointed (List.replicate decimals '0') ++ c :: rest) = none := by
  cases decimals with
  | zero =>
      show zeroDecimals? (c :: rest) = none
      unfold zeroDecimals?
      split
      next isEmpty => cases isEmpty
      next isPoint => exact absurd (List.cons.inj isPoint).1 noPoint
      next => rfl
  | succ decimals =>
      simp [pointed, List.replicate_succ, zeroDecimals?, noZero]

theorem plainCode?_placeholders (code : PlainCode) (rest : List Char) :
    plainCode? (code.placeholders ++ rest) =
      (zeroDecimals? (pointed (List.replicate code.decimals '0') ++ rest)).map
        (code.thousands, ·) := by
  unfold PlainCode.placeholders
  cases code.thousands <;> rfl

theorem plainCode?_symbol
    {symbol : Char}
    (isSymbol : isCurrency symbol = true)
    (rest : List Char) :
    plainCode? (symbol :: rest) = none := by
  rcases isCurrency_iff.mp isSymbol with rfl | rfl | rfl | rfl <;> rfl

theorem percentCode?_append (cs : List Char) :
    percentCode? ('0' :: cs ++ ['%']) = zeroDecimals? cs := by
  have isReverse : ('0' :: cs ++ ['%']).reverse = '%' :: ('0' :: cs).reverse := by
    rw [List.reverse_append, List.reverse_singleton, List.singleton_append]
  simp only [percentCode?, isReverse, List.reverse_reverse]

theorem percentCode?_of_other
    {c : Char}
    (other : c ≠ '%')
    (cs : List Char) :
    percentCode? (cs ++ [c]) = none := by
  rw [percentCode?, List.reverse_append, List.reverse_singleton,
    List.singleton_append]
  split
  next isPercent => exact absurd (List.cons.inj isPercent).1 other
  next => rfl

/-- A date pattern begins with a quoted or escaped text, a date
part or a separator. -/
theorem dateTokens?_eq_none
    {c : Char}
    (noQuote : c ≠ '"')
    (noBackslash : c ≠ '\\')
    (noCode :
      (dateCodes.all fun code => code.head?.any fun letter => !standsFor letter c) =
        true)
    (noToken : dateToken? [c] = none)
    (cs : List Char) :
    dateTokens? (c :: cs) = none := by
  have noPart :
      (dateCodes.find? fun code => startsWithCode code (c :: cs)) = none := by
    rw [List.find?_eq_none]
    intro code isCode
    have other := List.all_eq_true.mp noCode code isCode
    cases code with
    | nil => cases other
    | cons letter code =>
        have other : standsFor letter c = false := by simpa using other
        simp [startsWithCode, other]
  have length : dateTokenLength (c :: cs) = 1 := by
    unfold dateTokenLength
    split
    next isEmpty => cases isEmpty
    next isQuote => exact absurd (List.cons.inj isQuote).1 noQuote
    next isBackslash => exact absurd (List.cons.inj isBackslash).1 noBackslash
    next => rw [noPart]
  have stops : dateTokensFrom (c :: cs).length (c :: cs) = none := by
    rw [List.length_cons, dateTokensFrom, length]
    show (dateToken? [c] >>= _) = _
    rw [noToken]
    rfl
  rw [dateTokens?, stops]
  rfl

theorem dateTokens?_placeholders (code : PlainCode) (rest : List Char) :
    dateTokens? (code.placeholders ++ rest) = none := by
  unfold PlainCode.placeholders
  cases code.thousands <;>
    exact dateTokens?_eq_none (by decide) (by decide) (by decide)
      (by decide +kernel) _

theorem dateTokens?_symbol
    {symbol : Char}
    (isSymbol : isCurrency symbol = true)
    (rest : List Char) :
    dateTokens? (symbol :: rest) = none := by
  rcases isCurrency_iff.mp isSymbol with rfl | rfl | rfl | rfl <;>
    exact dateTokens?_eq_none (by decide) (by decide) (by decide)
      (by decide +kernel) rest

theorem scientificCode?_symbol
    {symbol : Char}
    (isSymbol : isCurrency symbol = true)
    (rest : List Char) :
    scientificCode? (symbol :: rest) = none := by
  rcases isCurrency_iff.mp isSymbol with rfl | rfl | rfl | rfl <;> rfl

/-- No scientific code has a quote after its first digits. -/
theorem scientificCode?_quoted (code : PlainCode) (rest : List Char) :
    scientificCode? (code.placeholders ++ '"' :: '"' :: rest) = none := by
  unfold PlainCode.placeholders
  cases code.thousands with
  | true => rfl
  | false =>
      have mantissa : ∀ c ∈ pointed (List.replicate code.decimals '0'),
          (c == '.' || c == '0') = true := by
        intro c member
        unfold pointed at member
        split at member
        · cases member
        · rcases List.mem_cons.mp member with rfl | isZero
          · rfl
          · rw [List.eq_of_mem_replicate isZero]
            rfl
      have exponent :
          ((pointed (List.replicate code.decimals '0') ++
            '"' :: '"' :: rest).dropWhile fun c =>
              c == '.' || c == '0') = '"' :: '"' :: rest := by
        rw [List.dropWhile_append_of_pos mantissa]
        rfl
      show scientificCode? ('0' :: (pointed _ ++ '"' :: '"' :: rest)) = none
      simp only [scientificCode?, exponent]
      split
      next letter _ _ isExponent =>
        rw [← (List.cons.inj isExponent).1]
        rfl
      next =>
        rfl

section Classify

variable {cs : List Char} (zero : '0' ∈ cs)

include zero

theorem classify_of_number
    {thousands : Bool}
    {decimals : Nat}
    (isPlain : plainCode? cs = some (thousands, decimals)) :
    classify cs = .number decimals thousands := by
  have notEmpty : cs.isEmpty = false :=
    List.isEmpty_eq_false_iff.mpr (List.ne_nil_of_mem zero)
  unfold classify
  rw [notEmpty, lower_ne_general zero, Bool.false_or, if_neg Bool.false_ne_true,
    isPlain]

/-- What is no plain number is a currency if a symbol stands
before a plain number. -/
theorem classify_of_not_number
    (notPlain : plainCode? cs = none) :
    classify cs =
      match cs.head?.bind fun symbol =>
        if isCurrency symbol then (plainCode? cs.tail).map (symbol, ·)
        else none with
      | some (symbol, thousands, decimals) => .currency symbol decimals thousands
      | none =>
          match percentCode? cs with
          | some decimals => .percentage decimals
          | none =>
              match scientificCode? cs with
              | some decimals => .scientific decimals
              | none =>
                  match dateTokens? cs with
                  | some tokens =>
                      if isTimeOnly tokens then .time tokens else .date tokens
                  | none => .custom := by
  have notEmpty : cs.isEmpty = false :=
    List.isEmpty_eq_false_iff.mpr (List.ne_nil_of_mem zero)
  unfold classify
  rw [notEmpty, lower_ne_general zero, Bool.false_or, if_neg Bool.false_ne_true,
    notPlain]
  cases cs <;> rfl

theorem classify_of_none
    (notPlain : plainCode? cs = none)
    (notCurrency :
      ∀ symbol ∈ cs.head?, isCurrency symbol = true → plainCode? cs.tail = none)
    (notPercent : percentCode? cs = none)
    (notScientific : scientificCode? cs = none)
    (noDate : dateTokens? cs = none) :
    classify cs = .custom := by
  have noSymbol :
      (cs.head?.bind fun symbol =>
        if isCurrency symbol then (plainCode? cs.tail).map (symbol, ·)
        else none) = none := by
    rw [Option.bind_eq_none_iff]
    intro symbol isFirst
    split
    next isSymbol =>
      rw [notCurrency symbol isFirst isSymbol]
      rfl
    next => rfl
  rw [classify_of_not_number zero notPlain, noSymbol, notPercent, notScientific,
    noDate]

end Classify

namespace PlainCode

variable (code : PlainCode)

theorem zero_mem_placeholders : '0' ∈ code.placeholders := by
  unfold placeholders
  cases code.thousands <;> simp

theorem zero_mem_text : '0' ∈ code.text :=
  List.mem_append_left _ (List.mem_append_right _ code.zero_mem_placeholders)

theorem zero_mem_quotedText : '0' ∈ code.quotedText :=
  List.mem_append_left _ (List.mem_append_right _ code.zero_mem_placeholders)

theorem plainCode?_exact :
    plainCode? code.placeholders = some (code.thousands, code.decimals) := by
  have read := plainCode?_placeholders code []
  rwa [List.append_nil, List.append_nil, zeroDecimals?_zeros] at read

/-- A plain code has its style. -/
theorem classify_text : classify code.text = code.style := by
  have zero := code.zero_mem_text
  cases code with
  | number thousands decimals =>
      have isText : (number thousands decimals).text =
          (number thousands decimals).placeholders := List.append_nil _
      exact classify_of_number zero (isText ▸ plainCode?_exact _)
  | currency symbol isSymbol thousands decimals =>
      have isText : (currency symbol isSymbol thousands decimals).text =
          symbol :: (currency symbol isSymbol thousands decimals).placeholders :=
        List.append_nil _
      rw [isText] at zero ⊢
      rw [classify_of_not_number zero (plainCode?_symbol isSymbol _),
        List.head?_cons, Option.bind_some, if_pos isSymbol, List.tail_cons,
        plainCode?_exact]
      rfl
  | percentage decimals =>
      have isText : (percentage decimals).text =
          '0' :: pointed (List.replicate decimals '0') ++ ['%'] := rfl
      have notPlain : plainCode? (percentage decimals).text = none :=
        (plainCode?_placeholders (percentage decimals) ['%']).trans
          (congrArg (Option.map _)
            (zeroDecimals?_append (by decide) (by decide) decimals []))
      rw [classify_of_not_number zero notPlain, isText, percentCode?_append,
        zeroDecimals?_zeros]
      rfl

/-- With an empty quoted text it is a custom pattern. -/
theorem classify_quotedText : classify code.quotedText = .custom := by
  have zero := code.zero_mem_quotedText
  have notPlain :
      plainCode? (code.placeholders ++ '"' :: '"' :: code.after) = none := by
    rw [plainCode?_placeholders, zeroDecimals?_append (by decide) (by decide)]
    rfl
  have notScientific := scientificCode?_quoted code code.after
  have noDate := dateTokens?_placeholders code ('"' :: '"' :: code.after)
  have notPercent (cs : List Char) : percentCode? (cs ++ ['"', '"']) = none := by
    rw [← List.singleton_append, ← List.append_assoc]
    exact percentCode?_of_other (by decide) _
  cases code with
  | number thousands decimals =>
      refine classify_of_none zero notPlain (fun symbol isFirst isSymbol => ?_)
        (notPercent _) notScientific noDate
      cases thousands <;> cases isFirst <;> cases isSymbol
  | currency symbol isSymbol thousands decimals =>
      refine classify_of_none zero (plainCode?_symbol isSymbol _)
        (fun _ _ _ => notPlain)
        (notPercent (symbol :: _)) (scientificCode?_symbol isSymbol _)
        (dateTokens?_symbol isSymbol _)
  | percentage decimals =>
      have isText : (percentage decimals).quotedText =
          '0' :: (pointed (List.replicate decimals '0') ++ '"' :: '"' :: []) ++
            ['%'] := by
        show '0' :: (pointed (List.replicate decimals '0') ++ '"' :: '"' :: ['%']) =
          _
        simp
      have notPercent : percentCode? (percentage decimals).quotedText = none := by
        rw [isText, percentCode?_append,
          zeroDecimals?_append (by decide) (by decide)]
      refine classify_of_none zero notPlain (fun symbol isFirst isSymbol => ?_)
        notPercent notScientific noDate
      cases isFirst
      cases isSymbol

end PlainCode

/-! ## Cutting a pattern -/

theorem markLiterals_append
    {cs : List Char}
    (noQuote : '"' ∉ cs)
    (noBackslash : '\\' ∉ cs)
    (rest : List Char) :
    markLiterals .start (cs ++ rest) =
      cs.map (·, false) ++ markLiterals .start rest := by
  induction cs with
  | nil => rfl
  | cons c cs inductionHypothesis =>
      obtain ⟨quote, noQuote⟩ := List.ne_and_not_mem_of_not_mem_cons noQuote
      obtain ⟨backslash, noBackslash⟩ :=
        List.ne_and_not_mem_of_not_mem_cons noBackslash
      have stays : Reader.start.next c = .start := by
        simp [Reader.next, Reader.start, Ne.symm quote, Ne.symm backslash]
      rw [List.cons_append, markLiterals, stays,
        inductionHypothesis noQuote noBackslash]
      simp [Reader.start, Ne.symm quote, Ne.symm backslash]

/-- A pattern is cut around the marks from its first to its last placeholder. -/
theorem cutPattern_append
    {before core after : List (Char × Bool)}
    {first last : Char × Bool}
    (noBefore : ∀ mark ∈ before, isSlot mark = false)
    (isFirst : core.head? = some first)
    (isLast : core.getLast? = some last)
    (firstSlot : isSlot first = true)
    (lastSlot : isSlot last = true)
    (noAfter : ∀ mark ∈ after, isSlot mark = false) :
    cutPattern (before ++ core ++ after) = ⟨before, core, after⟩ := by
  have outside {marks : List (Char × Bool)}
      (noSlot : ∀ mark ∈ marks, isSlot mark = false) :
      ∀ mark ∈ marks, (!isSlot mark) = true :=
    fun mark member => by rw [noSlot mark member]; rfl
  obtain ⟨marks, rfl⟩ := List.head?_eq_some_iff.mp isFirst
  have starts :
      (first :: marks ++ after).takeWhile (fun mark => !isSlot mark) = [] ∧
      (first :: marks ++ after).dropWhile (fun mark => !isSlot mark) =
        first :: marks ++ after := by
    simp [firstSlot]
  obtain ⟨others, isReverse⟩ :
      ∃ others, (first :: marks).reverse = last :: others := by
    rw [← List.head?_eq_some_iff, List.head?_reverse]
    exact isLast
  have ends :
      ((first :: marks ++ after).reverse.takeWhile fun mark => !isSlot mark) =
      after.reverse := by
    rw [List.reverse_append, isReverse,
      List.takeWhile_append_of_pos (outside fun mark member =>
        noAfter mark (List.mem_reverse.mp member)),
      List.takeWhile_cons_of_neg (by simp [lastSlot]), List.append_nil]
  simp only [cutPattern, List.append_assoc,
    List.takeWhile_append_of_pos (outside noBefore),
    List.dropWhile_append_of_pos (outside noBefore), starts.1, starts.2, ends,
    List.append_nil, List.reverse_reverse]
  rw [List.length_append, Nat.add_sub_cancel, List.take_left']
  rfl

/-- Digits around a point are found again. -/
theorem pointed_parts
    {whole fraction : List Char}
    (noPoint : '.' ∉ whole)
    (noOther : '.' ∉ fraction) :
    (whole ++ pointed fraction).count '.' ≤ 1 ∧
      (whole ++ pointed fraction).takeWhile (· != '.') = whole ∧
      ((whole ++ pointed fraction).dropWhile (· != '.')).drop 1 = fraction := by
  have others : ∀ c ∈ whole, (c != '.') = true := by
    intro c member
    rw [bne_iff_ne]
    rintro rfl
    exact noPoint member
  rw [List.count_append, List.count_eq_zero_of_not_mem noPoint,
    List.takeWhile_append_of_pos others, List.dropWhile_append_of_pos others]
  cases fraction with
  | nil => simp [pointed]
  | cons c fraction =>
      have later : (c :: fraction).count '.' = 0 :=
        List.count_eq_zero_of_not_mem noOther
      rw [pointed, List.isEmpty_cons, if_neg Bool.false_ne_true,
        List.count_cons_self, later]
      simp

namespace PlainCode

variable (code : PlainCode)

theorem mark_quotedText :
    markLiterals .start code.quotedText = code.text.map (·, false) := by
  have absent (c : Char) (other : c ∉ codeChars) : c ∉ code.text :=
    fun member => other (code.mem_codeChars_text c member)
  have quote := absent '"' (by decide)
  have backslash := absent '\\' (by decide)
  simp only [text, List.mem_append, not_or] at quote backslash
  have quoted (rest : List Char) :
      markLiterals .start ('"' :: '"' :: rest) = markLiterals .start rest := rfl
  have marked := markLiterals_append quote.2 backslash.2 []
  rw [List.append_nil] at marked
  rw [quotedText, List.append_assoc,
    markLiterals_append quote.1.1 backslash.1.1,
    markLiterals_append quote.1.2 backslash.1.2, quoted, marked, text,
    List.map_append, List.map_append, List.append_assoc]
  exact congrArg _ (congrArg _ (List.append_nil _))

theorem head?_placeholders :
    ∃ c, code.placeholders.head? = some c ∧ isSlot (c, false) = true := by
  unfold placeholders
  cases code.thousands
  · exact ⟨'0', rfl, rfl⟩
  · exact ⟨'#', rfl, rfl⟩

theorem getLast?_placeholders : code.placeholders.getLast? = some '0' := by
  unfold placeholders pointed
  cases code.decimals with
  | zero => cases code.thousands <;> rfl
  | succ decimals =>
      rw [List.replicate_succ, List.isEmpty_cons, if_neg Bool.false_ne_true,
        List.getLast?_append, List.getLast?_cons_cons, ← List.replicate_succ,
        List.getLast?_replicate]
      rfl

/-- The number pattern of a plain code. -/
def pattern : NumberPattern where
  before := code.before
  after := code.after
  decimals := min code.decimals maxDecimals
  required := code.decimals
  wholeDigits := 1
  thousands := code.thousands
  percents := code.percents

theorem not_isSlot_before :
    ∀ mark ∈ code.before.map (·, false), isSlot mark = false := by
  intro mark member
  cases code with
  | currency symbol isSymbol =>
      rw [List.mem_singleton.mp member]
      rcases isCurrency_iff.mp isSymbol with rfl | rfl | rfl | rfl <;> rfl
  | number | percentage => cases member

theorem not_isSlot_after :
    ∀ mark ∈ code.after.map (·, false), isSlot mark = false := by
  intro mark member
  cases code with
  | percentage =>
      rw [List.mem_singleton.mp member]
      rfl
  | number | currency => cases member

theorem cut_text :
    cutPattern (code.text.map (·, false)) =
      ⟨code.before.map (·, false), code.placeholders.map (·, false),
        code.after.map (·, false)⟩ := by
  obtain ⟨first, isFirst, slot⟩ := code.head?_placeholders
  have lastSlot : isSlot ('0', false) = true := rfl
  rw [text, List.map_append, List.map_append]
  refine cutPattern_append code.not_isSlot_before ?_ ?_ slot lastSlot
    code.not_isSlot_after
  · rw [List.head?_map, isFirst]
    rfl
  · rw [List.getLast?_map, getLast?_placeholders]
    rfl

theorem count_percents :
    (code.before.map (·, false) ++ code.after.map (·, false)).count ('%', false) =
      code.percents := by
  cases code with
  | currency symbol isSymbol =>
      rcases isCurrency_iff.mp isSymbol with rfl | rfl | rfl | rfl <;> rfl
  | number | percentage => rfl

theorem isCoreMark_placeholders :
    (code.placeholders.map (·, false)).all isCoreMark = true := by
  rw [List.all_map, List.all_eq_true]
  intro c member
  rcases code.mem_placeholders member with rfl | rfl | rfl | rfl <;> rfl

/-- The placeholders before and after the point. -/
theorem placeholders_parts :
    ∃ whole,
      code.placeholders = whole ++ pointed (List.replicate code.decimals '0') ∧
        '.' ∉ whole ∧ whole.count '0' = 1 ∧
          whole.contains ',' = code.thousands := by
  refine ⟨_, rfl, ?_⟩
  cases code.thousands <;> decide

/-- A plain code with an empty quoted text is read as its number pattern. -/
theorem customPattern?_quotedText :
    customPattern? code.quotedText = some code.pattern := by
  have noText : (code.text.map (·, false)).contains ('@', false) = false := by
    rw [← Bool.not_eq_true, List.contains_iff_mem, List.mem_map]
    rintro ⟨c, member, isAt⟩
    cases isAt
    exact absurd (code.mem_codeChars_text '@' member) (by decide)
  have slots : (code.text.map (·, false)).any isSlot = true :=
    List.any_eq_true.mpr
      ⟨('0', false), List.mem_map.mpr ⟨'0', code.zero_mem_text, rfl⟩, rfl⟩
  have isCore (cs : List Char) : (cs.map (·, false)).map Prod.fst = cs := by
    simp [Function.comp_def]
  obtain ⟨whole, parts, noPoint, zeros, commas⟩ := code.placeholders_parts
  obtain ⟨onePoint, isWhole, isFraction⟩ := pointed_parts noPoint
    fun member => absurd (List.eq_of_mem_replicate member : '.' = '0') (by decide)
  rw [← parts] at onePoint isWhole isFraction
  have required :
      requiredDigits (List.replicate code.decimals '0') = code.decimals := by
    rw [requiredDigits, List.reverse_replicate]
    cases code.decimals <;> simp [List.replicate_succ]
  unfold customPattern?
  simp only [mark_quotedText, noText, slots, cut_text, Cut.numberPattern?, isCore,
    isCoreMark_placeholders, count_percents, Nat.not_lt.mpr onePoint, isWhole,
    isFraction, zeros, commas, required, List.length_replicate]
  rfl

end PlainCode

/-! ## Digits of plain codes -/

theorem fraction_length_of_fixed
    {n : Number}
    {decimals : Nat}
    {digits : FixedDigits}
    (shown : fixed n decimals = .ok digits) :
    digits.fraction.length = decimals := by
  unfold fixed at shown
  split at shown
  · cases shown
  · dsimp only at shown
    split at shown
    · cases shown
    · cases shown
      rw [fixedDigits, List.length_drop, length_padLeft]
      omega

/-- Filling up restores the zeros that were dropped. -/
theorem padRight_dropTrailingZeros (cs : List Char) :
    padRight cs.length (dropTrailingZeros cs) = cs := by
  obtain ⟨zeros, isZeros⟩ :
      ∃ zeros, cs.reverse.takeWhile (· == '0') = List.replicate zeros '0' := by
    refine ⟨_, List.eq_replicate_of_mem fun c member => ?_⟩
    have isZero := List.mem_takeWhile_imp member
    exact eq_of_beq isZero
  have parts : cs = dropTrailingZeros cs ++ List.replicate zeros '0' := by
    have split :=
      List.takeWhile_append_dropWhile (p := (· == '0')) (l := cs.reverse)
    rw [isZeros] at split
    calc cs =
      (List.replicate zeros '0' ++ cs.reverse.dropWhile (· == '0')).reverse := by
          rw [split, List.reverse_reverse]
      _ = _ := by
          rw [List.reverse_append, List.reverse_replicate]
          rfl
  have length : cs.length - (dropTrailingZeros cs).length = zeros := by
    have sum := congrArg List.length parts
    rw [List.length_append, List.length_replicate] at sum
    omega
  rw [padRight, length, ← parts]

namespace PlainCode

/-- The number with the digits of the code between its texts, and with the
sign that they show. -/
def shown (code : PlainCode) (n : Number) : Except Breach (List Char) :=
  (fixed (timesHundred code.percents n) code.decimals).map fun digits =>
    visibleSign n (digits.chars code.thousands) ++
      (code.before ++ digits.chars code.thousands ++ code.after)

variable (code : PlainCode) {n : Number} {digits : FixedDigits}

/-- The custom renderer shows the digits as they are, in groups if the
code asks for them. -/
theorem digits_pattern
    (proper : digits.Proper)
    (length : digits.fraction.length = code.decimals) :
    code.pattern.digits digits =
      ⟨if code.thousands then group digits.whole else digits.whole,
        digits.fraction⟩ := by
  have filled : padLeft 1 digits.whole = digits.whole := by
    have least : 1 ≤ digits.whole.length := by
      rcases proper.least with ⟨c, member, -⟩ | one
      · exact List.length_pos_of_mem member
      · exact Nat.le_of_eq one.symm
    rw [padLeft, Nat.sub_eq_zero_of_le least]
    rfl
  have fraction : (if digits.fraction.isEmpty then []
      else padRight code.decimals (dropTrailingZeros digits.fraction)) =
        digits.fraction := by
    split
    next isEmpty => exact (List.isEmpty_iff.mp isEmpty).symm
    next => rw [← length, padRight_dropTrailingZeros]
  have whole :
      (if decide (code.pattern.wholeDigits = 0) && digits.whole == ['0'] then []
        else digits.whole) = digits.whole := rfl
  unfold NumberPattern.digits
  simp only [whole, groupFromLeft_eq_group]
  simp only [pattern, filled, fraction]

/-- The custom renderer shows numbers as the renderer of the plain code does. -/
theorem render_pattern
    (few : code.decimals ≤ maxDecimals)
    (n : Number) :
    code.pattern.render n = code.shown n := by
  have decimals : code.pattern.decimals = code.decimals := Nat.min_eq_left few
  unfold NumberPattern.render shown
  rw [decimals]
  cases isFixed : fixed (timesHundred code.percents n) code.decimals with
  | error breach =>
      show (fixed (timesHundred code.percents n) code.decimals >>= _) = _
      rw [isFixed]
      rfl
  | ok digits =>
      have proper := fixed_proper isFixed
      obtain ⟨sign, -⟩ := less_timesHundred (isFinite_of_fixed isFixed)
      have isShown := code.digits_pattern proper (fraction_length_of_fixed isFixed)
      have nonzero := (digits_spec code.pattern proper).2
      show (fixed (timesHundred code.percents n) code.decimals >>= _) = _
      rw [isFixed]
      show Except.ok _ = Except.ok _
      dsimp only
      rw [isShown] at nonzero ⊢
      have number : ∀ c ∈ digits.chars code.thousands, isNumberChar c = true :=
        fun _ => isNumberChar_of_mem_chars proper
      have visible :
          (hasNonzero (if code.thousands then
            group digits.whole
          else digits.whole) ||
          hasNonzero digits.fraction) =
            isVisible (digits.chars code.thousands) := by
        rw [Bool.eq_iff_iff, isVisible_iff number, nonzero]
        exact or_iff_left fun many => absurd many.2 (show ¬4 ≤ 1 by decide)
      have sign :
          (timesHundred code.pattern.percents n).less (.int 0) = n.less (.int 0) :=
          sign
      rw [visible, sign]
      simp [visibleSign, FixedDigits.chars, pattern]

/-- The renderer of the plain code. -/
theorem format_style
    (finite : n.IsFinite)
    (cs : List Char) :
    NumberFormat.format ⟨code.style, cs⟩ n.value = code.shown n := by
  have isNumber := finiteNumber?_value finite
  cases code with
  | number thousands decimals =>
      simp only [NumberFormat.format, style, isNumber, NumberFormat.formatNumber]
      show _ = (fixed n decimals).map _
      cases fixed n decimals with
      | error => rfl
      | ok digits => exact congrArg Except.ok (congrArg _ (List.append_nil _).symm)
  | currency symbol isSymbol thousands decimals =>
      simp only [NumberFormat.format, style, isNumber, NumberFormat.formatNumber]
      show _ = (fixed n decimals).map _
      cases fixed n decimals with
      | error => rfl
      | ok digits => exact congrArg Except.ok (congrArg _ (List.append_nil _).symm)
  | percentage decimals =>
      simp only [NumberFormat.format, style, isNumber, NumberFormat.formatNumber]
      show _ = (fixed (timesHundred 1 n) decimals).map _
      cases fixed (timesHundred 1 n) decimals with
      | error => rfl
      | ok digits => exact congrArg Except.ok (List.append_assoc _ _ _)

/-- The custom renderer of the code with an empty quoted text. -/
theorem format_custom
    (finite : n.IsFinite)
    (few : code.decimals ≤ maxDecimals) :
    NumberFormat.format ⟨.custom, code.quotedText⟩ n.value = code.shown n :=
  (renderCustom_value finite code.customPattern?_quotedText).trans
    (code.render_pattern few n)

end PlainCode

/-- Codes of plain characters show a number alike if their only sections do. -/
theorem formatValue_of_plain
    {cs ds : List Char}
    {n : Number}
    (plain : ∀ c ∈ cs, c ∈ plainChars)
    (plain' : ∀ c ∈ ds, c ∈ plainChars)
    (alike : NumberFormat.format ⟨classify cs, cs⟩ n.value =
      NumberFormat.format ⟨classify ds, ds⟩ n.value) :
    formatValue n.value (String.ofList cs) =
      formatValue n.value (String.ofList ds) := by
  have chosen {code : List Char} (plain : ∀ c ∈ code, c ∈ plainChars) :
      choose code n.value = some (code, n.value) :=
    choose_of_length n (by rw [sections_of_plain plain]; rfl)
  rw [formatValue, formatValue, String.toList_ofList, String.toList_ofList,
    chosen plain, chosen plain']
  dsimp only
  rw [parse_of_plain plain, parse_of_plain plain', alike]

/-- An empty quoted text after the last placeholder makes a plain code a custom
pattern, and shows every finite number as the plain code does. -/
theorem formatValue_quotedText
    {n : Number}
    (finite : n.IsFinite)
    (code : PlainCode)
    (few : code.decimals ≤ maxDecimals) :
    (NumberFormat.parse code.text).style = code.style ∧
      (NumberFormat.parse code.quotedText).style = .custom ∧
      formatValue n.value (String.ofList code.quotedText) =
        formatValue n.value (String.ofList code.text) := by
  have fast := code.mem_plainChars_text
  have custom := code.mem_plainChars_quotedText
  refine ⟨?_, ?_, ?_⟩
  · rw [parse_of_plain fast, code.classify_text]
  · rw [parse_of_plain custom, code.classify_quotedText]
  · refine formatValue_of_plain custom fast ?_
    rw [code.classify_quotedText, code.classify_text, code.format_custom finite few,
      code.format_style finite]

/-- Euros in groups with two decimals. -/
theorem formatValue_quotedText_euros :
    formatValue (.float (-1234567.885)) "€#,##0.00\"\"" = "-€1,234,567.89" ∧
      formatValue (.float (-1234567.885)) "€#,##0.00" = "-€1,234,567.89" := by
  have finite : (Number.float (-1234567.885)).IsFinite := by
    exact ⟨true, 5302428690766889, -32, by decide +kernel⟩
  have same := formatValue_quotedText finite (.currency '€' rfl true 2) (by decide)
  have shown :
      formatValue (.float (-1234567.885)) "€#,##0.00" = "-€1,234,567.89" := by
    decide +kernel
  exact ⟨same.2.2.trans shown, shown⟩

/-- A custom pattern shows at most thirty decimals, where a percentage shows as
many as its code has. -/
theorem formatValue_quotedText_of_many_decimals :
    (Number.float 1e-33).IsFinite ∧
      String.ofList (PlainCode.percentage 31).text =
        "0.0000000000000000000000000000000%" ∧
      formatValue (Number.float 1e-33).value
          (String.ofList (PlainCode.percentage 31).quotedText) ≠
        formatValue (Number.float 1e-33).value
          (String.ofList (PlainCode.percentage 31).text) := by
  refine ⟨⟨false, 5846006549323612, -162, by decide +kernel⟩, by decide +kernel, ?_⟩
  decide +kernel

end GridScript.Format
