import GridScript.Proofs.Parsing.Scanning
import GridScript.Proofs.Parsing.Spelling
import GridScript.Proofs.Script.Syntax.Lexemes

namespace GridScript.Script

/-!
# Tokens that are no negative integers

The minus sign of a script is a token of its own. So whatever the kind of a
token is, its text is not read as an integer below zero.
-/

open GridScript.Number
open GridScript.Parsing
open GridScript.Text

/-- The texts that line breaks skip have no minus sign before
their first comment. -/
theorem trimLeft_afterBreak (cs : List Char) :
    (trimLeft (cs.take (afterBreak cs))).head? ≠ some '-' := by
  induction cs using afterBreak.induct _ (fun _ => True) with
  | case1 rest inductionHypothesis =>
      exact inductionHypothesis
  | case2 rest =>
      rw [afterBreak]
      exact (by decide : some '/' ≠ some '-')
  | case3 c rest noReturn noSlash skipped inductionHypothesis =>
      have blank : isBlank c = true := by
        simp only [isInlineBlank, Bool.or_eq_true, decide_eq_true_eq, beq_iff_eq]
          at skipped
        rcases skipped with rfl | (rfl | rfl) | rfl <;> rfl
      rw [afterBreak.eq_3 c rest noReturn noSlash, if_pos skipped,
        List.take_succ_cons, trimLeft, List.dropWhile_cons_of_pos blank]
      exact inductionHypothesis
  | case4 rest noReturn noSlash =>
      rw [afterBreak.eq_3 _ rest noReturn noSlash]
      exact (by decide : some '\'' ≠ some '-')
  | case5 c rest noReturn noSlash notSkipped notQuote =>
      rw [afterBreak.eq_3 c rest noReturn noSlash, if_neg notSkipped,
        if_neg notQuote]
      exact (Option.some_ne_none '-').symm
  | case6 =>
      exact (Option.some_ne_none '-').symm
  | _ =>
      trivial

theorem newline_unsigned
    {cs : List Char}
    {n : Nat}
    (found : newlineLength? cs = some n) :
    Unsigned (cs.take n) := by
  unfold newlineLength? at found
  split at found
  next rest =>
    obtain rfl := Option.some.inj found
    exact unsigned_of_trimLeft (trimLeft_afterBreak rest)
  next rest =>
    obtain rfl := Option.some.inj found
    exact unsigned_of_trimLeft (trimLeft_afterBreak rest)
  next =>
    cases found

theorem keyword_unsigned
    {k : Keyword}
    {cs : List Char}
    {n : Nat}
    (found : keywordLength? k cs = some n) :
    Unsigned (cs.take n) := by
  unfold keywordLength? at found
  split at found
  next length folded =>
    split at found
    next =>
      obtain rfl := Option.some.inj found
      obtain ⟨lexeme, rest, rfl, rfl, folds⟩ := foldedLength?_eq_some folded
      rw [List.take_left]
      refine unsigned_of_not_mem fun member => ?_
      obtain ⟨letter, inWord, stands⟩ := exists_standsFor_of_mem folds member
      cases isAlpha_of_standsFor (k.isLower_of_mem inWord) (by decide) stands
    next =>
      cases found
  next =>
    cases found

theorem name_unsigned
    {cs : List Char}
    {n : Nat}
    (found : nameLength? cs = some n) :
    Unsigned (cs.take n) := by
  unfold nameLength? at found
  split at found
  next c rest =>
    split at found
    next starts =>
      obtain rfl := Option.some.inj found
      have isPrefix :=
        List.prefix_iff_eq_take.mp (List.takeWhile_prefix isNameChar (l := rest))
      refine unsigned_of_not_mem fun member => ?_
      rw [List.take_succ_cons, ← isPrefix] at member
      rcases List.mem_cons.mp member with rfl | inside
      · cases starts
      · cases List.mem_takeWhile_imp inside
    next =>
      cases found
  next =>
    cases found

theorem number_unsigned
    {cs : List Char}
    {n : Nat}
    (found : numberLength? cs = some n) :
    Unsigned (cs.take n) := by
  unfold numberLength? at found
  split at found
  next =>
    cases found
  next whole run =>
    obtain ⟨digits, positive⟩ := runLength?_eq_some run
    obtain ⟨more, isMore⟩ :=
      Nat.exists_eq_add_one_of_ne_zero (Nat.ne_of_gt positive)
    cases cs with
    | nil =>
        cases run
    | cons c rest =>
        -- The run of digits begins with the first character.
        have digit : isDecimalDigit c = true := by
          have inRun : c ∈ (c :: rest).takeWhile isDecimalDigit := by
            simp [← digits, isMore]
          exact List.mem_takeWhile_imp inRun
        have other : c ≠ '-' := by
          rintro rfl
          cases digit
        obtain ⟨length, isLength⟩ : ∃ length, n = length + 1 :=
          ⟨n - 1, by rw [← Option.some.inj found]; omega⟩
        rw [isLength]
        exact unsigned_cons other (isBlank_of_isDecimalDigit digit) _

theorem comment_unsigned
    {cs : List Char}
    {n : Nat}
    (found : commentLength? cs = some n) :
    Unsigned (cs.take n) := by
  unfold commentLength? at found
  split at found
  next rest =>
    obtain rfl := Option.some.inj found
    exact unsigned_cons (by decide) (by decide) _
  next rest =>
    obtain rfl := Option.some.inj found
    exact unsigned_cons (by decide) (by decide) _
  next =>
    cases found

theorem string_unsigned
    {cs : List Char}
    {n : Nat}
    (found : stringLength? cs = some n) :
    Unsigned (cs.take n) := by
  unfold stringLength? at found
  split at found
  next rest =>
    obtain ⟨length, -, rfl⟩ := Option.map_eq_some_iff.mp found
    exact unsigned_cons (by decide) (by decide) _
  next =>
    cases found

theorem blank_unsigned
    {cs : List Char}
    {n : Nat}
    (found : runLength? isInlineBlank cs = some n) :
    Unsigned (cs.take n) := by
  rw [(runLength?_eq_some found).1]
  refine unsigned_of_not_mem fun member => ?_
  cases List.mem_takeWhile_imp member

theorem take_fixedLength?
    {pattern cs : List Char}
    {n : Nat}
    (found : fixedLength? pattern cs = some n) :
    cs.take n = pattern := by
  induction pattern generalizing cs n with
  | nil =>
      obtain rfl := Option.some.inj found
      rfl
  | cons p pattern inductionHypothesis =>
      cases cs with
      | nil =>
          cases found
      | cons c cs =>
          rw [fixedLength?] at found
          split at found
          next same =>
            obtain ⟨length, foundRest, rfl⟩ := Option.map_eq_some_iff.mp found
            rw [List.take_succ_cons, inductionHypothesis foundRest, same]
          next =>
            cases found

theorem mark_unsigned
    {m : Mark}
    {cs : List Char}
    {n : Nat}
    (found : fixedLength? m.text.toList cs = some n) :
    Unsigned (cs.take n) := by
  rw [take_fixedLength? found]
  by_cases isMinus : m = .minus
  · -- A minus sign alone is no integer.
    subst isMinus
    exact nofun
  · refine unsigned_of_not_mem ?_
    revert isMinus
    cases m <;> decide

/-- Whatever its kind is, a token is not read as a negative integer. -/
theorem Terminal.length?_unsigned
    {kind : Terminal}
    {cs : List Char}
    {n : Nat}
    (found : kind.length? cs = some n) :
    Unsigned (cs.take n) := by
  cases kind with
  | keyword k =>
      exact keyword_unsigned found
  | name =>
      exact name_unsigned found
  | newline =>
      exact newline_unsigned found
  | number =>
      exact number_unsigned found
  | comment =>
      exact comment_unsigned found
  | string =>
      exact string_unsigned found
  | blank =>
      exact blank_unsigned found
  | mark m =>
      exact mark_unsigned found
  | finish =>
      cases found

/-- A token in a text is not read as a negative integer. -/
theorem unsigned_of_stands
    {place : Place}
    {text rest : List Char}
    {token : Token Terminal}
    (stands : lexicon.Stands place text token rest) :
    Unsigned token.text := by
  obtain ⟨length, isLength, isText⟩ := stands.lexeme
  rw [isText]
  exact Terminal.length?_unsigned isLength

end GridScript.Script
