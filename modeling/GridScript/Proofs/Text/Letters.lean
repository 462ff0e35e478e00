import GridScript.Parsing.Lexicon
import GridScript.Text.Case
import GridScript.Text.Character
import Mathlib.Data.List.Forall2

/-!
# Letters and names

As far as ASCII goes, only the two cases of a small letter stand for it, so a
word in any letter case is found where its letters stand and nowhere else: not
in a name that is another word.
-/

namespace GridScript.Text

/-- What holds of each character that is looked at holds of all of them. -/
theorem forall_mem_of_all
    {P : Char → Prop}
    [DecidablePred P]
    {cs : List Char}
    (all : (cs.all fun c => decide (P c)) = true) :
    ∀ c ∈ cs, P c :=
  fun c member => of_decide_eq_true (List.all_eq_true.mp all c member)

/-- The small letters are a range of characters. -/
theorem isLower_iff {c : Char} :
    c.isLower = true ↔ 'a'.val ≤ c.val ∧ c.val ≤ 'z'.val := by
  show (decide (c.val ≥ 'a'.val) && decide (c.val ≤ 'z'.val)) = true ↔ _
  rw [Bool.and_eq_true, decide_eq_true_eq, decide_eq_true_eq]

/-- The letters are two ranges of characters. -/
theorem isAlpha_iff {c : Char} :
    c.isAlpha = true ↔
      'A'.val ≤ c.val ∧ c.val ≤ 'Z'.val ∨ 'a'.val ≤ c.val ∧ c.val ≤ 'z'.val := by
  show (c.isUpper || c.isLower) = true ↔ _
  rw [Bool.or_eq_true, isLower_iff]
  exact or_congr_left decide_eq_true_iff

/-- A digit is no letter. -/
theorem isAlpha_of_isDigit
    {c : Char}
    (digit : c.isDigit = true) :
    c.isAlpha = false := by
  have between : 48 ≤ c.val.toNat ∧ c.val.toNat ≤ 57 := by
    simpa [Char.isDigit, UInt32.le_iff_toNat_le] using digit
  rw [Bool.eq_false_iff, ne_eq, isAlpha_iff]
  simp only [UInt32.le_iff_toNat_le, Char.reduceVal, UInt32.reduceToNat]
  omega

/-- What has a small letter for its lower case is a letter. -/
theorem isAlpha_of_isLower_toLower
    {c : Char}
    (small : c.toLower.isLower = true) :
    c.isAlpha = true := by
  show (c.isUpper || c.isLower) = true
  cases upper : c.isUpper with
  | true =>
      rfl
  | false =>
      have same : c.toLower = c := by
        unfold Char.toLower
        rw [dif_neg (of_decide_eq_false upper)]
      rw [same] at small
      rw [small]
      rfl

/-- As far as ASCII goes, only the two cases of a small letter stand for it. -/
theorem toLower_of_standsFor
    {letter c : Char}
    (ascii : c.val < 128)
    (stands : standsFor letter c = true) :
    c.toLower = letter := by
  have differs (d : Char) (far : 128 ≤ d.val) : (c == d) = false := by
    rw [beq_eq_false_iff_ne]
    rintro rfl
    exact absurd ascii (by simpa using far)
  simpa [standsFor, differs 'İ' (by decide), differs 'ı' (by decide),
    differs 'ſ' (by decide), differs '\u212a' (by decide)] using stands

/-- Only a letter stands for a small letter, as far as ASCII goes. -/
theorem isAlpha_of_standsFor
    {letter c : Char}
    (small : letter.isLower = true)
    (ascii : c.val < 128)
    (stands : standsFor letter c = true) :
    c.isAlpha = true := by
  rw [← toLower_of_standsFor ascii stands] at small
  exact isAlpha_of_isLower_toLower small

/-- A word in any letter case is a lexeme at the head of the text. -/
theorem foldedLength?_eq_some
    {word text : List Char}
    {length : Nat}
    (found : foldedLength? word text = some length) :
    ∃ lexeme rest,
      text = lexeme ++ rest ∧ lexeme.length = length ∧
      List.Forall₂ (fun letter c => standsFor letter c = true) word lexeme := by
  induction word generalizing text length with
  | nil =>
      cases found
      exact ⟨[], text, rfl, rfl, .nil⟩
  | cons letter word inductionHypothesis =>
      cases text with
      | nil =>
          cases found
      | cons c text =>
          rw [foldedLength?] at found
          split at found
          next stands =>
            obtain ⟨shorter, foundRest, rfl⟩ := Option.map_eq_some_iff.mp found
            obtain ⟨lexeme, rest, rfl, rfl, folds⟩ := inductionHypothesis foundRest
            exact ⟨c :: lexeme, rest, rfl, rfl, .cons stands folds⟩
          next =>
            cases found

/-- A name whose letters stand for those of a word is the word in some letter
case. -/
theorem map_toLower_of_folds
    {word lexeme : List Char}
    (ascii : ∀ c ∈ lexeme, c.val < 128)
    (folds : List.Forall₂ (fun letter c => standsFor letter c = true) word lexeme) :
    lexeme.map Char.toLower = word := by
  induction folds with
  | nil =>
      rfl
  | cons stands _ inductionHypothesis =>
      rw [List.map_cons, toLower_of_standsFor (ascii _ (by simp)) stands,
        inductionHypothesis fun c member => ascii c (by simp [member])]

/-- Each character of a word in some letter case stands for a letter. -/
theorem exists_standsFor_of_mem
    {word lexeme : List Char}
    (folds : List.Forall₂ (fun letter c => standsFor letter c = true) word lexeme)
    {c : Char}
    (member : c ∈ lexeme) :
    ∃ letter ∈ word, standsFor letter c = true := by
  induction folds with
  | nil =>
      cases member
  | @cons letter d word lexeme stands _ inductionHypothesis =>
      rcases List.mem_cons.mp member with rfl | member
      · exact ⟨letter, by simp, stands⟩
      · obtain ⟨found, foundMember, foundStands⟩ := inductionHypothesis member
        exact ⟨found, by simp [foundMember], foundStands⟩

/-- Two words differ at a place that both have. -/
def differ : List Char → List Char → Bool
  | letter :: word, c :: text => !standsFor letter c || differ word text
  | _, _ => false

theorem foldedLength?_of_differ
    {word text : List Char}
    (differs : differ word text = true)
    (tail : List Char) :
    foldedLength? word (text ++ tail) = none := by
  induction word generalizing text with
  | nil =>
      cases differs
  | cons letter word inductionHypothesis =>
      cases text with
      | nil =>
          cases differs
      | cons c text =>
          rw [List.cons_append, foldedLength?]
          rw [differ, Bool.or_eq_true] at differs
          split
          next stands =>
            rcases differs with differs | differs
            · rw [stands] at differs
              cases differs
            · rw [inductionHypothesis differs]
              rfl
          next =>
            rfl

/-- A small letter stands for itself. -/
theorem standsFor_self
    {c : Char}
    (small : c.isLower = true) :
    standsFor c c = true := by
  have same : c.toLower = c := by
    unfold Char.toLower
    exact dif_neg fun upper =>
      absurd (UInt32.le_trans (isLower_iff.mp small).1 upper.2) (by decide)
  simp [standsFor, same]

theorem foldedLength?_self
    {word : List Char}
    (small : ∀ c ∈ word, c.isLower = true)
    (tail : List Char) :
    foldedLength? word (word ++ tail) = some word.length := by
  induction word with
  | nil =>
      rfl
  | cons c word inductionHypothesis =>
      rw [List.cons_append, foldedLength?,
        if_pos (standsFor_self (small c (by simp))),
        inductionHypothesis fun d member => small d (by simp [member])]
      rfl

end GridScript.Text

namespace GridScript.Parsing

open GridScript.Text

/-- The characters of names lie between the digit zero and the small letter z. -/
theorem toNat_of_isNameChar
    {c : Char}
    (isChar : isNameChar c = true) :
    48 ≤ c.val.toNat ∧ c.val.toNat ≤ 122 := by
  simp only [isNameChar, Char.isAlphanum, Char.isDigit, Bool.or_eq_true,
    isAlpha_iff, Bool.and_eq_true, decide_eq_true_eq, beq_iff_eq, ge_iff_le,
    UInt32.le_iff_toNat_le, Char.reduceVal, UInt32.reduceToNat] at isChar
  rcases isChar with (letter | digit) | rfl
  · omega
  · omega
  · decide

theorem ascii_of_isNameChar
    {c : Char}
    (isChar : isNameChar c = true) :
    c.val < 128 := by
  have between := toNat_of_isNameChar isChar
  simp only [UInt32.lt_iff_toNat_lt, UInt32.reduceToNat]
  omega

theorem isNameChar_of_isNameStart
    {c : Char}
    (starts : isNameStart c = true) :
    isNameChar c = true := by
  simp only [isNameStart, Bool.or_eq_true] at starts
  simp only [isNameChar, Char.isAlphanum, Bool.or_eq_true]
  exact starts.imp_left .inl

theorem isNameChar_of_isDigit
    {c : Char}
    (digit : c.isDigit = true) :
    isNameChar c = true := by
  simp [isNameChar, Char.isAlphanum, digit]

/-- A character of a name is visible. -/
theorem isBlank_of_isNameChar
    {c : Char}
    (isChar : isNameChar c = true) :
    isBlank c = false := by
  have between : 48 ≤ c.toNat ∧ c.toNat ≤ 122 := toNat_of_isNameChar isChar
  simp [isBlank, inRanges, blankRanges]
  omega

/--
A word that a text leads with ends inside the name that the text leads with.

The name is not that word, and what follows the name is no letter.
-/
theorem drop_foldedLength?_of_name
    {word name tail : List Char}
    {length : Nat}
    (small : ∀ letter ∈ word, letter.isLower = true)
    (isName : ∀ c ∈ name, isNameChar c = true)
    (other : name.map Char.toLower ≠ word)
    (ends : ∀ c ∈ tail.head?, c.val < 128 ∧ c.isAlpha = false)
    (found : foldedLength? word (name ++ tail) = some length) :
    ∃ c rest, (name ++ tail).drop length = c :: rest ∧ isNameChar c = true := by
  obtain ⟨lexeme, rest, split, rfl, folds⟩ := foldedLength?_eq_some found
  have notName : lexeme ≠ name := by
    rintro rfl
    exact other
      (map_toLower_of_folds
        (fun c member => ascii_of_isNameChar (isName c member)) folds)
  rw [split, List.drop_left]
  rcases List.append_eq_append_iff.mp split with
    ⟨more, isLexeme, isTail⟩ | ⟨more, isPrefix, isRest⟩
  · -- The lexeme would go on over the character after the name.
    cases more with
    | nil =>
        exact absurd (by simpa using isLexeme) notName
    | cons c more =>
        obtain ⟨ascii, notAlpha⟩ := ends c (by simp [isTail])
        have inLexeme : c ∈ lexeme := by simp [isLexeme]
        obtain ⟨letter, member, stands⟩ := exists_standsFor_of_mem folds inLexeme
        rw [isAlpha_of_standsFor (small letter member) ascii stands] at notAlpha
        cases notAlpha
  · cases more with
    | nil =>
        exact absurd (by simpa using isPrefix.symm) notName
    | cons c more =>
        exact ⟨c, more ++ tail, isRest, isName c (by simp [isPrefix])⟩

end GridScript.Parsing
