import GridScript.Proofs.Script.Syntax.Lexemes

namespace GridScript.Script

/-!
# Lexemes within a line

The lexemes of all kinds but line breaks stand within one line, and nothing
after the line counts for them.
-/

open GridScript.Number
open GridScript.Parsing
open GridScript.Text

/-- A measure of lexemes looks at nothing after the first line break, and no
lexeme reaches it. -/
def WithinLine (length? : List Char → Option Nat) : Prop :=
  ∀ line : List Char, '\n' ∉ line → ∀ rest : List Char,
    length? (line ++ '\n' :: rest) = length? (line ++ ['\n']) ∧
      ∀ n, length? (line ++ ['\n']) = some n → n ≤ line.length

/-! ## Runs -/

theorem takeWhile_line
    {inClass : Char → Bool}
    (outside : inClass '\n' = false)
    (line rest : List Char) :
    (line ++ '\n' :: rest).takeWhile inClass = line.takeWhile inClass := by
  rw [List.takeWhile_append]
  split
  next whole =>
    rw [List.takeWhile_cons_of_neg (by simp [outside]), List.append_nil,
      (List.takeWhile_prefix inClass).eq_of_length whole]
  next =>
    rfl

theorem withinLine_run
    {inClass : Char → Bool}
    (outside : inClass '\n' = false) :
    WithinLine (runLength? inClass) := by
  intro line _ rest
  rw [runLength?, runLength?, takeWhile_line outside, takeWhile_line outside]
  refine ⟨rfl, fun n found => ?_⟩
  have bound : (line.takeWhile inClass).length ≤ line.length :=
    (List.takeWhile_prefix inClass).length_le
  split at found
  next =>
    cases found
  next m isLength =>
    cases found
    omega

theorem withinLine_name : WithinLine nameLength? := by
  intro line whole rest
  cases line with
  | nil =>
      exact ⟨rfl, nofun⟩
  | cons c line =>
      have outside : isNameChar '\n' = false := by decide
      have bound : (line.takeWhile isNameChar).length ≤ line.length :=
        (List.takeWhile_prefix isNameChar).length_le
      simp only [List.cons_append, nameLength?, takeWhile_line outside]
      refine ⟨trivial, fun n found => ?_⟩
      split at found
      next =>
        cases found
        rw [List.length_cons]
        omega
      next =>
        cases found

/-! ## Comments and texts -/

theorem takeWhile_comment
    {line : List Char}
    (whole : '\n' ∉ line)
    (rest : List Char) :
    (line ++ '\n' :: rest).takeWhile (· != '\n') = line :=
  takeWhile_append_of_stops
    (fun c member => by simpa using ne_of_mem_of_not_mem member whole)
    (.cons rfl rest)

theorem withinLine_comment : WithinLine commentLength? := by
  intro line whole rest
  cases line with
  | nil =>
      exact ⟨rfl, nofun⟩
  | cons c line =>
      have later := List.not_mem_of_not_mem_cons whole
      by_cases quote : c = '\''
      · subst quote
        simp [commentLength?, takeWhile_comment later]
      by_cases slash : c = '/'
      · subst slash
        cases line with
        | nil =>
            exact ⟨rfl, nofun⟩
        | cons d line =>
            by_cases second : d = '/'
            · subst second
              simp [commentLength?,
                takeWhile_comment (List.not_mem_of_not_mem_cons later)]
            · simp [commentLength?, second]
      · simp [commentLength?, quote, slash]

/-- A longer lexeme ends before the line break as well. -/
theorem le_of_map_add
    {length? : Option Nat}
    {most : Nat}
    (bound : ∀ n, length? = some n → n ≤ most)
    (more : Nat) :
    ∀ n, length?.map (· + more) = some n → n ≤ most + more := by
  intro n found
  obtain ⟨shorter, isShorter, rfl⟩ := Option.map_eq_some_iff.mp found
  exact Nat.add_le_add_right (bound shorter isShorter) more

theorem withinLine_stringBody : WithinLine stringBodyLength? := by
  intro line whole rest
  fun_induction stringBodyLength? line with
  | case1 later =>
      simp [stringBodyLength?]
  | case2 later =>
      exact absurd (by simp) whole
  | case3 c later notBreak inductionHypothesis =>
      obtain ⟨same, bound⟩ := inductionHypothesis (by simp_all)
      simp only [List.cons_append, stringBodyLength?, if_neg notBreak, same]
      exact ⟨trivial, le_of_map_add bound 2⟩
  | case4 =>
      simp [stringBodyLength?]
  | case5 later =>
      exact absurd (by simp) whole
  | case6 c later notQuote noEscape noEnd notBreak inductionHypothesis =>
      obtain ⟨same, bound⟩ := inductionHypothesis (by simp_all)
      have notBackslash : c ≠ '\\' := by
        rintro rfl
        cases later with
        | nil =>
            exact noEnd rfl rfl
        | cons d later =>
            exact noEscape d later rfl rfl
      simp only [List.cons_append, stringBodyLength?.eq_4 c _ notQuote
        (fun _ _ isBackslash => absurd isBackslash notBackslash)
        (fun isBackslash => absurd isBackslash notBackslash), if_neg notBreak, same]
      exact ⟨trivial, le_of_map_add bound 1⟩
  | case7 =>
      refine ⟨rfl, ?_⟩
      intro _ found
      cases found

theorem withinLine_string : WithinLine stringLength? := by
  intro line whole rest
  cases line with
  | nil =>
      exact ⟨rfl, nofun⟩
  | cons c line =>
      by_cases quote : c = '"'
      · subst quote
        obtain ⟨same, bound⟩ :=
          withinLine_stringBody line (List.not_mem_of_not_mem_cons whole) rest
        simp only [List.cons_append, stringLength?, same]
        exact ⟨trivial, le_of_map_add bound 1⟩
      · simp [stringLength?, quote]

/-! ## Numbers -/

/-- What is left of a line after some of its characters. -/
theorem drop_line
    {line : List Char}
    {n : Nat}
    (inside : n ≤ line.length)
    (rest : List Char) :
    (line ++ '\n' :: rest).drop n = line.drop n ++ '\n' :: rest :=
  List.drop_append_of_le_length inside

theorem not_mem_drop
    {line : List Char}
    (whole : '\n' ∉ line)
    (n : Nat) :
    '\n' ∉ line.drop n :=
  fun member => whole (List.mem_of_mem_drop member)

theorem withinLine_digits : WithinLine (runLength? isDecimalDigit) :=
  withinLine_run (by decide)

theorem fractionLength_line
    {line : List Char}
    (whole : '\n' ∉ line)
    (rest : List Char) :
    fractionLength (line ++ '\n' :: rest) = fractionLength (line ++ ['\n']) ∧
      fractionLength (line ++ ['\n']) ≤ line.length := by
  cases line with
  | nil =>
      exact ⟨rfl, Nat.le_refl 0⟩
  | cons c line =>
      by_cases point : c = '.'
      · subst point
        obtain ⟨same, bound⟩ :=
          withinLine_digits line (List.not_mem_of_not_mem_cons whole) rest
        simp only [List.cons_append, fractionLength, same]
        refine ⟨trivial, ?_⟩
        split
        next n found =>
          exact Nat.succ_le_succ (bound n found)
        next =>
          exact Nat.zero_le _
      · simp [fractionLength, point]

theorem signLength_line (line rest : List Char) :
    signLength (line ++ '\n' :: rest) = signLength (line ++ ['\n']) ∧
      signLength (line ++ ['\n']) ≤ line.length := by
  cases line with
  | nil =>
      exact ⟨rfl, Nat.le_refl 0⟩
  | cons c line =>
      by_cases plus : c = '+'
      · simp [signLength, plus]
      · by_cases minus : c = '-' <;> simp [signLength, plus, minus]

theorem exponentLength_line
    {line : List Char}
    (whole : '\n' ∉ line)
    (rest : List Char) :
    exponentLength (line ++ '\n' :: rest) = exponentLength (line ++ ['\n']) ∧
      exponentLength (line ++ ['\n']) ≤ line.length := by
  cases line with
  | nil =>
      exact ⟨rfl, Nat.le_refl 0⟩
  | cons c line =>
      have later := List.not_mem_of_not_mem_cons whole
      obtain ⟨sameSign, signBound⟩ := signLength_line line rest
      have digits :=
        withinLine_digits _ (not_mem_drop later (signLength (line ++ ['\n'])))
      simp only [List.cons_append, exponentLength, sameSign, drop_line signBound,
        (digits rest).1]
      refine ⟨trivial, ?_⟩
      split
      next =>
        split
        next n found =>
          have bound := (digits rest).2 n found
          rw [List.length_drop] at bound
          rw [List.length_cons]
          omega
        next =>
          exact Nat.zero_le _
      next =>
        exact Nat.zero_le _

theorem withinLine_number : WithinLine numberLength? := by
  intro line whole rest
  obtain ⟨sameDigits, digitsBound⟩ := withinLine_digits line whole rest
  unfold numberLength?
  rw [sameDigits]
  cases found : runLength? isDecimalDigit (line ++ ['\n']) with
  | none =>
      exact ⟨rfl, nofun⟩
  | some digits =>
      have inside := digitsBound digits found
      obtain ⟨sameFraction, fractionBound⟩ :=
        fractionLength_line (not_mem_drop whole digits) rest
      have insideFraction :
          digits + fractionLength (line.drop digits ++ ['\n']) ≤ line.length := by
        rw [List.length_drop] at fractionBound
        omega
      obtain ⟨sameExponent, exponentBound⟩ := exponentLength_line
        (not_mem_drop whole (digits + fractionLength (line.drop digits ++ ['\n'])))
        rest
      simp only [drop_line inside, sameFraction, drop_line insideFraction,
        sameExponent]
      refine ⟨trivial, fun n isSum => ?_⟩
      rw [List.length_drop] at exponentBound
      cases isSum
      omega

/-! ## Words and marks -/

theorem withinLine_fixed
    {pattern : List Char}
    (noBreak : '\n' ∉ pattern) :
    WithinLine (fixedLength? pattern) := by
  intro line whole rest
  induction pattern generalizing line with
  | nil =>
      simp [fixedLength?]
  | cons p pattern inductionHypothesis =>
      obtain ⟨other, laterWhole⟩ := List.ne_and_not_mem_of_not_mem_cons noBreak
      cases line with
      | nil =>
          simp [fixedLength?, Ne.symm other]
      | cons c line =>
          obtain ⟨same, bound⟩ :=
            inductionHypothesis laterWhole line (List.not_mem_of_not_mem_cons whole)
          simp only [List.cons_append, fixedLength?, same]
          refine ⟨trivial, ?_⟩
          split
          next =>
            exact le_of_map_add bound 1
          next =>
            intro _ found
            cases found

theorem withinLine_folded
    {word : List Char}
    (noBreak : ∀ letter ∈ word, standsFor letter '\n' = false) :
    WithinLine (foldedLength? word) := by
  intro line whole rest
  induction word generalizing line with
  | nil =>
      simp [foldedLength?]
  | cons letter word inductionHypothesis =>
      obtain ⟨other, later⟩ := List.forall_mem_cons.mp noBreak
      cases line with
      | nil =>
          simp [foldedLength?, other]
      | cons c line =>
          obtain ⟨same, bound⟩ :=
            inductionHypothesis later line (List.not_mem_of_not_mem_cons whole)
          simp only [List.cons_append, foldedLength?, same]
          refine ⟨trivial, ?_⟩
          split
          next =>
            exact le_of_map_add bound 1
          next =>
            intro _ found
            cases found

/-- A word ends at a line break as it ends elsewhere. -/
theorem endsWord_line (line rest : List Char) :
    endsWord (line ++ '\n' :: rest) = endsWord (line ++ ['\n']) := by
  cases line <;> rfl

theorem withinLine_keyword (k : Keyword) : WithinLine (keywordLength? k) := by
  intro line whole rest
  have noBreak : ∀ letter ∈ k.word.toList, standsFor letter '\n' = false := by
    intro letter member
    refine Bool.eq_false_iff.mpr fun stands => ?_
    exact absurd (isAlpha_of_standsFor (k.isLower_of_mem member) (by decide) stands)
      (by decide)
  obtain ⟨same, bound⟩ := withinLine_folded noBreak line whole rest
  unfold keywordLength?
  rw [same]
  cases found : foldedLength? k.word.toList (line ++ ['\n']) with
  | none =>
      exact ⟨rfl, nofun⟩
  | some n =>
      have inside := bound n found
      simp only [drop_line inside, endsWord_line]
      refine ⟨trivial, fun m ends => ?_⟩
      split at ends
      next =>
        cases ends
        exact inside
      next =>
        cases ends

/-- All lexemes but line breaks stand within a line. -/
theorem withinLine_of_ne
    {kind : Terminal}
    (other : kind ≠ .newline) :
    WithinLine kind.length? := by
  cases kind with
  | keyword k =>
      exact withinLine_keyword k
  | name =>
      exact withinLine_name
  | newline =>
      exact absurd rfl other
  | number =>
      exact withinLine_number
  | comment =>
      exact withinLine_comment
  | string =>
      exact withinLine_string
  | blank =>
      exact withinLine_run (by decide)
  | mark m =>
      exact withinLine_fixed (by cases m <;> decide)
  | finish =>
      intro line whole rest
      exact ⟨rfl, nofun⟩

end GridScript.Script
