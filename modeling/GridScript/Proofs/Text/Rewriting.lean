import GridScript.Text.Case
import GridScript.Text.Character
import GridScript.Text.Search
import Mathlib.Data.List.DropRight

namespace GridScript.Text

/-!
# Trimmed, cut, replaced and joined texts

A text is cut at the first occurrence of a character. A replacement goes from
left to right: either an occurrence comes first and is replaced, or the first
character stays. Lines without separators that are joined by line feeds are the
lines of the joined text, if the last of them is not empty or ended as well.
-/

/-! ## Blanks -/

/-- A text with visible characters at its ends is trimmed already. -/
theorem trim_of_visible
    {cs : List Char}
    (first : ∀ c ∈ cs.head?, isBlank c = false)
    (last : ∀ c ∈ cs.getLast?, isBlank c = false) :
    trim cs = cs := by
  have keeps (text : List Char) (visible : ∀ c ∈ text.head?, isBlank c = false) :
      text.dropWhile isBlank = text := by
    cases text with
    | nil =>
        rfl
    | cons c text =>
        exact List.dropWhile_cons_of_neg (by simp [visible c rfl])
  rw [trim, trimLeft, keeps cs first, trimRight,
    keeps cs.reverse (by simpa using last), List.reverse_reverse]

/-- Blanks on both sides of a text do not change what is left of it. -/
theorem trim_between_blanks
    {first last : Char}
    (isFirst : isBlank first = true)
    (isLast : isBlank last = true)
    (cs : List Char) :
    trim (first :: cs ++ [last]) = trim cs := by
  have left : trimLeft (first :: cs ++ [last]) = trimLeft (cs ++ [last]) :=
    List.dropWhile_cons_of_pos isFirst
  rw [trim, left, trim, trimLeft, List.dropWhile_append]
  split
  next none =>
    rw [trimLeft, List.isEmpty_iff.mp none, List.dropWhile_cons_of_pos isLast]
    rfl
  next =>
    rw [trimRight, List.reverse_append, List.reverse_singleton,
      List.singleton_append, List.dropWhile_cons_of_pos isLast]
    rfl

/-- What is left of a text after trimming begins with its first
visible character. -/
theorem trim_of_first
    {c : Char}
    (visible : isBlank c = false)
    (blanks : List Char)
    (blank : ∀ b ∈ blanks, isBlank b = true)
    (cs : List Char) :
    ∃ others, trim (blanks ++ c :: cs) = c :: others := by
  have left : trimLeft (blanks ++ c :: cs) = c :: cs := by
    rw [trimLeft, List.dropWhile_append_of_pos blank,
      List.dropWhile_cons_of_neg (by simp [visible])]
  rw [trim, left, trimRight, List.reverse_cons, List.dropWhile_append]
  split
  · exact ⟨[], by simp [visible]⟩
  · exact ⟨_, by rw [List.reverse_append]; rfl⟩

theorem mem_of_mem_trim
    {cs : List Char}
    {c : Char}
    (member : c ∈ trim cs) :
    c ∈ cs := by
  rw [trim, trimRight, List.mem_reverse] at member
  have inFront := List.mem_reverse.mp ((List.dropWhile_sublist _).subset member)
  exact (List.dropWhile_sublist _).subset inFront

/-- Trimmed text ends in a visible character. -/
theorem isBlank_of_getLast?_trim
    {cs : List Char}
    {c : Char}
    (isLast : c ∈ (trim cs).getLast?) :
    isBlank c = false := by
  obtain ⟨someLeft, rfl⟩ := List.mem_getLast?_eq_getLast isLast
  exact Bool.eq_false_iff.mpr
    (List.rdropWhile_last_not isBlank (trimLeft cs) someLeft)

/-! ## Letter case -/

/-- An ASCII character that is no small letter is its own upper case. -/
theorem upperChar_of_not_lower
    {c : Char}
    (ascii : c.val < 128)
    (notLower : c.isLower = false) :
    upperChar c = [c] := by
  have same : c.toUpper = c := by
    delta Char.toUpper
    refine dif_neg fun lower => ?_
    have isLower : c.isLower = true := by
      show (decide (c.val ≥ 97) && decide (c.val ≤ 122)) = true
      simpa using lower
    rw [notLower] at isLower
    cases isLower
  rw [upperChar, if_pos ascii, same]

/-- The characters before the small letters are their own upper case. -/
theorem toUpper_of_lt
    {c : Char}
    (before : c.toNat < 97) :
    c.toUpper = c := by
  delta Char.toUpper
  refine dif_neg fun lower => ?_
  have small : 97 ≤ c.toNat := UInt32.le_iff_toNat_le.mp lower.1
  omega

theorem upperChar_of_lt
    {c : Char}
    (before : c.toNat < 97) :
    upperChar c = [c] := by
  have ascii : c.val < 128 :=
    UInt32.lt_iff_toNat_lt.mpr (Nat.lt_trans before (by decide))
  rw [upperChar, if_pos ascii, toUpper_of_lt before]

/-- A blank stays a blank in upper case, and nothing else becomes one. -/
theorem isBlank_toUpper (c : Char) : isBlank c.toUpper = isBlank c := by
  delta Char.toUpper
  split
  next lower =>
    have low : 97 ≤ c.toNat := UInt32.le_iff_toNat_le.mp lower.1
    have high : c.toNat ≤ 122 := UInt32.le_iff_toNat_le.mp lower.2
    have each : ∀ code < 123, 97 ≤ code →
        isBlank (Char.ofNat code) = false ∧
          isBlank (Char.ofNat code).toUpper = false := by
      decide
    have both := each c.toNat (by omega) low
    rw [Char.ofNat_toNat] at both
    delta Char.toUpper at both
    rw [dif_pos lower] at both
    exact both.2.trans both.1.symm
  next =>
    rfl

theorem trim_map_toUpper (cs : List Char) :
    trim (cs.map Char.toUpper) = (trim cs).map Char.toUpper := by
  have same : isBlank ∘ Char.toUpper = isBlank := funext isBlank_toUpper
  rw [trim, trimLeft, trimRight, List.dropWhile_map, same, ← List.map_reverse,
    List.dropWhile_map, same, ← List.map_reverse]
  rfl

/-- ASCII text is put into upper case character by character. -/
theorem upper_of_ascii
    {cs : List Char}
    (ascii : ∀ c ∈ cs, c.val < 128) :
    upper (String.ofList cs) = String.ofList (cs.map Char.toUpper) := by
  rw [upper, String.toList_ofList, List.map_eq_flatMap]
  exact congrArg String.ofList
    (List.flatMap_congr fun c member => if_pos (ascii c member))

theorem upper_of_upperChar
    {cs : List Char}
    (each : ∀ c ∈ cs, upperChar c = [c]) :
    upper (String.ofList cs) = String.ofList cs := by
  rw [upper, String.toList_ofList]
  congr 1
  induction cs with
  | nil =>
      rfl
  | cons c cs inductionHypothesis =>
      rw [List.flatMap_cons, each c (by simp),
        inductionHypothesis fun d member => each d (by simp [member])]
      rfl

/-! ## Cuts -/

/-- A text is cut where a character stands for the first time. -/
theorem cut?_append
    {c : Char}
    {before : List Char}
    (absent : c ∉ before)
    (after : List Char) :
    cut? [c] (before ++ c :: after) = some (before, after) := by
  induction before with
  | nil =>
      simp [cut?, dropLeading?]
  | cons d before inductionHypothesis =>
      obtain ⟨other, absentLater⟩ := List.ne_and_not_mem_of_not_mem_cons absent
      simp [cut?, dropLeading?, other, inductionHypothesis absentLater]

/-- A text is not cut where a character does not stand. -/
theorem cut?_eq_none
    {c : Char}
    {cs : List Char}
    (absent : c ∉ cs) :
    cut? [c] cs = none := by
  induction cs with
  | nil =>
      rfl
  | cons d cs inductionHypothesis =>
      obtain ⟨other, absentLater⟩ := List.ne_and_not_mem_of_not_mem_cons absent
      simp [cut?, dropLeading?, other, inductionHypothesis absentLater]

/-! ## Replacements -/

theorem dropLeading?_eq_some_iff
    {pattern cs rest : List Char} :
    dropLeading? pattern cs = some rest ↔ cs = pattern ++ rest := by
  induction pattern generalizing cs with
  | nil =>
      rw [dropLeading?, Option.some.injEq, List.nil_append]
  | cons c pattern inductionHypothesis =>
      cases cs with
      | nil =>
          simp [dropLeading?]
      | cons d cs =>
          rw [dropLeading?, List.cons_append, List.cons.injEq]
          split
          next same =>
            rw [inductionHypothesis, eq_comm (a := d), and_iff_right same]
          next other =>
            simp [Ne.symm other]

theorem dropLeading?_append (pattern cs : List Char) :
    dropLeading? pattern (pattern ++ cs) = some cs :=
  dropLeading?_eq_some_iff.mpr rfl

/--
A text is read from the left by the occurrences of a pattern.

It is empty, or an occurrence comes first and is read as a whole, or its first
character is read because none comes first.
-/
theorem induction_on_occurrences
    {pattern : List Char}
    {motive : List Char → Prop}
    (nonempty : pattern ≠ [])
    (nil : motive [])
    (found : ∀ cs, motive cs → motive (pattern ++ cs))
    (stays :
      ∀ c cs, dropLeading? pattern (c :: cs) = none → motive cs → motive (c :: cs))
    (cs : List Char) :
    motive cs := by
  induction length : cs.length using Nat.strongRecOn generalizing cs with
  | ind n inductionHypothesis =>
      subst length
      cases cs with
      | nil =>
          exact nil
      | cons c cs =>
          cases leading : dropLeading? pattern (c :: cs) with
          | none =>
              exact stays c cs leading
                (inductionHypothesis cs.length (Nat.lt_succ_self _) cs rfl)
          | some rest =>
              have shorter := List.length_pos_of_ne_nil nonempty
              rw [dropLeading?_eq_some_iff.mp leading] at inductionHypothesis ⊢
              rw [List.length_append] at inductionHypothesis
              exact found rest (inductionHypothesis rest.length (by omega) rest rfl)

section Pieces

variable {separator : List Char}

theorem piecesAfter_ne_nil
    (separator : List Char)
    (skip : Nat)
    (piece cs : List Char) :
    piecesAfter separator skip piece cs ≠ [] := by
  induction cs generalizing skip piece with
  | nil =>
      exact List.cons_ne_nil _ _
  | cons c cs inductionHypothesis =>
      cases skip with
      | succ skip =>
          exact inductionHypothesis skip piece
      | zero =>
          rw [piecesAfter]
          split
          · exact List.cons_ne_nil _ _
          · exact inductionHypothesis 0 (c :: piece)

/-- Skipped characters have no effect. -/
theorem piecesAfter_skip
    (skip : Nat)
    (piece cs : List Char) :
    piecesAfter separator skip piece cs =
      piecesAfter separator 0 piece (cs.drop skip) := by
  induction cs generalizing skip with
  | nil =>
      rw [List.drop_nil]
      cases skip <;> rfl
  | cons c cs inductionHypothesis =>
      cases skip with
      | zero =>
          rfl
      | succ skip =>
          exact inductionHypothesis skip

/-- The first piece begins with what has been read of it. -/
theorem piecesAfter_piece
    (piece cs : List Char) :
    piecesAfter separator 0 piece cs =
      (piecesAfter separator 0 [] cs).modifyHead (piece.reverse ++ ·) := by
  induction cs generalizing piece with
  | nil =>
      simp [piecesAfter]
  | cons c cs inductionHypothesis =>
      rw [piecesAfter, piecesAfter]
      split
      · simp
      · rw [inductionHypothesis (c :: piece), inductionHypothesis [c],
          List.modifyHead_modifyHead]
        simp [Function.comp_def]

theorem pieces_ne_nil (separator cs : List Char) : pieces separator cs ≠ [] := by
  unfold pieces
  split
  · exact List.cons_ne_nil _ _
  · exact piecesAfter_ne_nil separator 0 [] cs

theorem pieces_nil (separator : List Char) : pieces separator [] = [[]] := by
  unfold pieces
  split <;> rfl

/-- A separator that comes first ends an empty piece. -/
theorem pieces_append
    (nonempty : separator ≠ [])
    (cs : List Char) :
    pieces separator (separator ++ cs) = [] :: pieces separator cs := by
  obtain ⟨c, rest, rfl⟩ := List.exists_cons_of_ne_nil nonempty
  have found := dropLeading?_append (c :: rest) cs
  rw [List.cons_append] at found
  have skipped : piecesAfter (c :: rest) rest.length [] (rest ++ cs) =
      piecesAfter (c :: rest) 0 [] cs := by
    rw [piecesAfter_skip, List.drop_left]
  simp [pieces, piecesAfter, found, skipped]

/-- The first character belongs to the first piece if no separator comes first. -/
theorem pieces_cons
    {c : Char}
    {cs : List Char}
    (nonempty : separator ≠ [])
    (absent : dropLeading? separator (c :: cs) = none) :
    pieces separator (c :: cs) = (pieces separator cs).modifyHead (c :: ·) := by
  obtain ⟨d, rest, rfl⟩ := List.exists_cons_of_ne_nil nonempty
  simp [pieces, piecesAfter, absent, piecesAfter_piece [c]]

end Pieces

section Replacement

variable {pattern replacement : List Char}

theorem replaceAfter_skip
    (skip : Nat)
    (cs : List Char) :
    replaceAfter pattern replacement skip cs =
      replaceAfter pattern replacement 0 (cs.drop skip) := by
  induction cs generalizing skip with
  | nil =>
      rw [List.drop_nil]
      cases skip <;> rfl
  | cons c cs inductionHypothesis =>
      cases skip with
      | zero =>
          rfl
      | succ skip =>
          exact inductionHypothesis skip

theorem replaceAll_nil : replaceAll pattern replacement [] = [] := by
  unfold replaceAll
  split <;> rfl

/-- An occurrence that comes first is replaced. -/
theorem replaceAll_append
    (nonempty : pattern ≠ [])
    (cs : List Char) :
    replaceAll pattern replacement (pattern ++ cs) =
      replacement ++ replaceAll pattern replacement cs := by
  obtain ⟨c, rest, rfl⟩ := List.exists_cons_of_ne_nil nonempty
  have found := dropLeading?_append (c :: rest) cs
  rw [List.cons_append] at found
  have skipped : replaceAfter (c :: rest) replacement rest.length (rest ++ cs) =
      replaceAfter (c :: rest) replacement 0 cs := by
    rw [replaceAfter_skip, List.drop_left]
  simp [replaceAll, replaceAfter, found, skipped]

/-- The first character stays if no occurrence comes first. -/
theorem replaceAll_cons
    {c : Char}
    {cs : List Char}
    (nonempty : pattern ≠ [])
    (absent : dropLeading? pattern (c :: cs) = none) :
    replaceAll pattern replacement (c :: cs) =
      c :: replaceAll pattern replacement cs := by
  obtain ⟨d, rest, rfl⟩ := List.exists_cons_of_ne_nil nonempty
  simp [replaceAll, replaceAfter, absent]

/-- Without the character there is nothing to replace. -/
theorem replaceChar_of_not_mem
    {c : Char}
    {cs : List Char}
    (absent : c ∉ cs) :
    replaceChar c replacement cs = cs := by
  induction cs with
  | nil =>
      rfl
  | cons d cs inductionHypothesis =>
      obtain ⟨other, absentLater⟩ := List.ne_and_not_mem_of_not_mem_cons absent
      have rest := inductionHypothesis absentLater
      unfold replaceChar at rest ⊢
      rw [List.flatMap_cons, if_neg (Ne.symm other), rest]
      rfl

theorem replaceChar_append (c : Char) (cs later : List Char) :
    replaceChar c replacement (cs ++ later) =
      replaceChar c replacement cs ++ replaceChar c replacement later :=
  List.flatMap_append

end Replacement

/-! ## Lines -/

/-- A text without line separators goes on with the current line. -/
theorem linesAfter_append
    {cs : List Char}
    (whole : ∀ c ∈ cs, isLineBreak c = false)
    (line rest : List Char) :
    linesAfter line (cs ++ rest) = linesAfter (cs.reverse ++ line) rest := by
  induction cs generalizing line with
  | nil =>
      rfl
  | cons c cs inductionHypothesis =>
      have inside := whole c List.mem_cons_self
      have notReturn : c ≠ '\r' := by
        rintro rfl
        cases inside
      have later :=
        inductionHypothesis
          (fun d member => whole d (List.mem_cons_of_mem c member))
        (c :: line)
      rw [List.cons_append, linesAfter]
      · simp [inside, later]
      · exact fun _ isReturn => absurd isReturn notReturn

/-- A line feed ends the first line. -/
theorem splitLines_cons
    {line : List Char}
    (whole : ∀ c ∈ line, isLineBreak c = false)
    (rest : List Char) :
    splitLines (line ++ '\n' :: rest) = line :: splitLines rest := by
  rw [splitLines, linesAfter_append whole, List.append_nil, linesAfter]
  · simp [isLineBreak, splitLines]
  · exact nofun

/-- A text without line separators is one line. -/
theorem splitLines_single
    {line : List Char}
    (whole : ∀ c ∈ line, isLineBreak c = false)
    (nonempty : line ≠ []) :
    splitLines line = [line] := by
  have read := linesAfter_append whole [] []
  rw [List.append_nil, List.append_nil] at read
  rw [splitLines, read, linesAfter]
  simp [nonempty]

/-- Joined lines are read back. -/
theorem splitLines_intercalate
    {lines : List (List Char)}
    {ending : List Char}
    (whole : ∀ line ∈ lines, ∀ c ∈ line, isLineBreak c = false)
    (last : ∃ line, lines.getLast? = some line ∧ line ≠ [])
    (ended : ending = [] ∨ ending = ['\n']) :
    splitLines (List.intercalate ['\n'] lines ++ ending) = lines := by
  induction lines with
  | nil =>
      obtain ⟨line, isLast, -⟩ := last
      cases isLast
  | cons line later inductionHypothesis =>
      have lineWhole := whole line List.mem_cons_self
      cases later with
      | nil =>
          obtain ⟨_, isLast, nonempty⟩ := last
          cases isLast
          rw [List.intercalate_singleton]
          rcases ended with rfl | rfl
          · rw [List.append_nil]
            exact splitLines_single lineWhole nonempty
          · exact splitLines_cons lineWhole []
      | cons next later =>
          rw [List.getLast?_cons_cons] at last
          have read := inductionHypothesis
            (fun other member => whole other (List.mem_cons_of_mem line member))
            last
          rw [List.intercalate_cons_cons, List.append_assoc, List.append_assoc,
            List.singleton_append, splitLines_cons lineWhole, read]

end GridScript.Text
