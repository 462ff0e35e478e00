import GridScript.Proofs.Script.Joining.Ground
import GridScript.Proofs.Script.Joining.Scanning

namespace GridScript.Script

/-!
# How a text begins

After a line break, the blank lines and comment lines at the start of a text are
passed over with it. At the start of a program they are a line break of their
own, or they are ignored. What is left of the text is the same, and it begins
with a token that is neither.
-/

open GridScript.Parsing
open GridScript.Text
open Table

/-! ## Blank lines and comment lines -/

/-- A comment is passed over up to the end of its line. -/
theorem inComment_eq (cs : List Char) :
    inComment cs =
      (cs.takeWhile (· != '\n')).length +
        afterBreak (cs.dropWhile (· != '\n')) := by
  induction cs with
  | nil =>
      rfl
  | cons c cs inductionHypothesis =>
      by_cases isBreak : c = '\n'
      · subst isBreak
        simp [inComment, afterBreak]
      · rw [inComment, if_neg isBreak, inductionHypothesis,
          List.takeWhile_cons_of_pos (by simpa),
          List.dropWhile_cons_of_pos (by simpa), List.length_cons]
        omega

/-- After what is passed over after a line break, nothing more is passed over. -/
theorem afterBreak_drop (text : List Char) :
    afterBreak (text.drop (afterBreak text)) = 0 := by
  induction text using afterBreak.induct _
    (fun text => afterBreak (text.drop (inComment text)) = 0) with
  | case1 rest inductionHypothesis =>
      exact inductionHypothesis
  | case2 rest inductionHypothesis =>
      exact inductionHypothesis
  | case3 c rest noReturn noSlash passed inductionHypothesis =>
      rw [afterBreak.eq_3 c rest noReturn noSlash, if_pos passed]
      exact inductionHypothesis
  | case4 rest noReturn noSlash notPassed inductionHypothesis =>
      rw [afterBreak.eq_3 _ rest noReturn noSlash, if_neg notPassed, if_pos rfl]
      exact inductionHypothesis
  | case5 c rest noReturn noSlash notPassed notQuote =>
      have stops : afterBreak (c :: rest) = 0 := by
        rw [afterBreak.eq_3 c rest noReturn noSlash, if_neg notPassed,
          if_neg notQuote]
      rw [stops]
      exact stops
  | case6 =>
      rfl
  | case7 rest inductionHypothesis =>
      rw [inComment, if_pos rfl]
      exact inductionHypothesis
  | case8 c rest notBreak inductionHypothesis =>
      rw [inComment, if_neg notBreak]
      exact inductionHypothesis
  | case9 =>
      rfl

/-- The first lexeme of what is passed over after a line break: a line break
with all of it, or an ignored lexeme within a line. -/
inductive Opens (text : List Char) : Prop where
  | newline (first : lexicon.first? (fun _ => true) text =
    some (.newline, afterBreak text))
  | ignored
      {kind : Terminal}
      {length : Nat}
      (first : lexicon.first? (fun _ => true) text = some (kind, length))
      (isIgnored : lexicon.ignored.contains kind = true)
      (within : '\n' ∉ text.take length)
      (later : afterBreak text = length + afterBreak (text.drop length))

theorem take_length_takeWhile (inClass : Char → Bool) (cs : List Char) :
    cs.take (cs.takeWhile inClass).length = cs.takeWhile inClass :=
  (List.prefix_iff_eq_take.mp (List.takeWhile_prefix inClass)).symm

theorem drop_length_takeWhile (inClass : Char → Bool) (cs : List Char) :
    cs.drop (cs.takeWhile inClass).length = cs.dropWhile inClass := by
  have whole := congrArg (List.drop (cs.takeWhile inClass).length)
    (List.takeWhile_append_dropWhile (p := inClass) (l := cs))
  rw [List.drop_left] at whole
  exact whole.symm

theorem opens_newline
    {mark : List Char}
    (isMark : mark = ['\n'] ∨ mark = ['\r', '\n'])
    (rest : List Char) :
    Opens (mark ++ rest) := by
  have split : plainKinds = [.name] ++ .newline :: plainKinds.drop 2 := rfl
  have others {c : Char} (notStart : isNameStart c = false) (cs : List Char) :
      ∀ kind ∈ [Terminal.name], kind.length? (c :: cs) = none := by
    intro kind member
    obtain rfl := List.mem_singleton.mp member
    exact if_neg (by simp [notStart])
  rcases isMark with rfl | rfl
  · exact .newline
      (first?_plain (by decide) (by decide) split (others (by decide) _) rfl)
  · exact .newline
      (first?_plain (by decide) (by decide) split (others (by decide) _) rfl)

theorem opens_comment
    {mark : List Char}
    (isMark : mark = ['\''] ∨ mark = ['/', '/'])
    (rest : List Char) :
    Opens (mark ++ rest) := by
  have split :
      plainKinds = [.name, .newline, .number] ++ .comment :: plainKinds.drop 4 :=
      rfl
  have body : '\n' ∉ rest.takeWhile (· != '\n') := fun member =>
    absurd (List.mem_takeWhile_imp member) (by decide)
  have first : lexicon.first? (fun _ => true) (mark ++ rest) =
      some (.comment, mark.length + (rest.takeWhile (· != '\n')).length) := by
    rw [Nat.add_comm]
    rcases isMark with rfl | rfl
    · refine first?_plain (by decide) (by decide) split (fun kind member => ?_) rfl
      have either : kind = .name ∨ kind = .newline ∨ kind = .number := by
        simpa using member
      rcases either with rfl | rfl | rfl <;> rfl
    · refine first?_plain (by decide) (by decide) split (fun kind member => ?_) rfl
      have either : kind = .name ∨ kind = .newline ∨ kind = .number := by
        simpa using member
      rcases either with rfl | rfl | rfl <;> rfl
  have passed : afterBreak (mark ++ rest) = mark.length + inComment rest := by
    rcases isMark with rfl | rfl
    · exact Nat.add_comm _ 1
    · exact Nat.add_comm _ 2
  have noBreak : '\n' ∉ mark := by
    rcases isMark with rfl | rfl <;> decide
  refine .ignored first rfl ?_ ?_
  · rw [List.take_length_add_append, take_length_takeWhile, List.mem_append]
    exact not_or.mpr ⟨noBreak, body⟩
  · rw [passed, inComment_eq, List.drop_length_add_append, drop_length_takeWhile,
      Nat.add_assoc]

theorem opens_blank
    {c : Char}
    (blank : isInlineBlank c = true)
    (rest : List Char) :
    Opens (c :: rest) := by
  have split : plainKinds =
      [.name, .newline, .number, .comment, .string] ++
        .blank :: plainKinds.drop 6 := rfl
  have first : lexicon.first? (fun _ => true) (c :: rest) =
      some (.blank, ((c :: rest).takeWhile isInlineBlank).length) := by
    have either : c = ' ' ∨ c = '\t' ∨ c = '\x0c' := by
      simpa [isInlineBlank, or_assoc] using blank
    have others : ∀ kind ∈ [Terminal.name, .newline, .number, .comment, .string],
        kind.length? (c :: rest) = none := by
      intro kind member
      have one : kind = .name ∨ kind = .newline ∨ kind = .number ∨ kind = .comment ∨
          kind = .string := by
        simpa using member
      rcases either with rfl | rfl | rfl <;> rcases one with
        rfl | rfl | rfl | rfl | rfl <;> rfl
    have matching : Terminal.blank.length? (c :: rest) =
        some ((c :: rest).takeWhile isInlineBlank).length := by
      rw [List.takeWhile_cons_of_pos blank]
      show runLength? isInlineBlank (c :: rest) = _
      rw [runLength?, List.takeWhile_cons_of_pos blank]
      rfl
    rcases either with rfl | rfl | rfl <;>
      exact first?_plain (by decide) (by decide) split others matching
  have inside : ∀ d ∈ (c :: rest).takeWhile isInlineBlank, isInlineBlank d = true :=
    fun d member => List.mem_takeWhile_imp member
  refine .ignored first rfl ?_ ?_
  · rw [take_length_takeWhile]
    exact fun member => absurd (inside _ member) (by decide)
  · rw [drop_length_takeWhile, ← afterBreak_blanks inside,
      List.takeWhile_append_dropWhile]

/-- What is passed over after a line break begins with a line break or with
an ignored lexeme. -/
theorem opens_of_afterBreak
    {text : List Char}
    (passes : afterBreak text ≠ 0) :
    Opens text := by
  fun_cases afterBreak text with
  | case1 rest =>
      show Opens (['\r', '\n'] ++ rest)
      exact opens_newline (.inr rfl) rest
  | case2 rest =>
      exact opens_comment (.inr rfl) rest
  | case3 c rest noReturn noSlash passed =>
      rcases Bool.or_eq_true_iff.mp passed with isBreak | blank
      · obtain rfl := of_decide_eq_true isBreak
        show Opens (['\n'] ++ rest)
        exact opens_newline (.inl rfl) rest
      · exact opens_blank blank rest
  | case4 rest noReturn noSlash notPassed =>
      exact opens_comment (.inl rfl) rest
  | case5 c rest noReturn noSlash notPassed notQuote =>
      rw [afterBreak.eq_3 c rest noReturn noSlash, if_neg notPassed,
        if_neg notQuote] at passes
      exact absurd rfl passes
  | case6 =>
      exact absurd rfl passes

/-! ## The first token -/

/-- An ignored lexeme is passed over. -/
theorem scan_ignored
    {text : List Char}
    {kind : Terminal}
    {length : Nat}
    (first : lexicon.first? (fun _ => true) text = some (kind, length))
    (isIgnored : lexicon.ignored.contains kind = true)
    (wanted : Terminal → Bool)
    (place : Place) :
    lexicon.scan wanted place text =
      lexicon.scan wanted (place.advance (text.take length))
        (text.drop length) := by
  cases text with
  | nil =>
      rw [List.drop_nil]
      rfl
  | cons c cs =>
      have positive := Terminal.length?_pos (Lexicon.matches_of_first? first).2
      have isFirst :
          lexicon.first? (fun kind => lexicon.ignored.contains kind || wanted kind)
          (c :: cs) = some (kind, length) :=
        Lexicon.first?_of_wanted first (by rw [isIgnored]; rfl)
      rw [Lexicon.scan, List.length_cons,
        scanFrom_succ _ _ _ (List.cons_ne_nil c cs), isFirst]
      dsimp only
      rw [if_pos isIgnored]
      refine Lexicon.scanFrom_eq_of_length_le Terminal.length?_pos ?_
        (Nat.le_refl _)
      rw [List.length_drop, List.length_cons]
      omega

/-- What is passed over within a line before a text is passed over
before its first token. -/
theorem scan_skip
    {text : List Char}
    (whole : '\n' ∉ text.take (afterBreak text))
    (wanted : Terminal → Bool)
    (place : Place) :
    lexicon.scan wanted place text =
      lexicon.scan wanted (place.advance (text.take (afterBreak text)))
        (text.drop (afterBreak text)) := by
  generalize isLength : text.length = length
  induction length using Nat.strong_induction_on generalizing text place with
  | h length inductionHypothesis =>
      by_cases stops : afterBreak text = 0
      · rw [stops]
        rfl
      cases opens_of_afterBreak stops with
      | newline first =>
          exact absurd
            (mem_take_of_newlineLength? (Lexicon.matches_of_first? first).2) whole
      | @ignored kind n first isIgnored within later =>
          have positive := Terminal.length?_pos (Lexicon.matches_of_first? first).2
          have nonempty : text ≠ [] := by
            rintro rfl
            exact stops rfl
          have shorter : (text.drop n).length < length := by
            have := List.length_pos_iff.mpr nonempty
            rw [List.length_drop]
            omega
          rw [later, List.take_add] at whole ⊢
          rw [scan_ignored first isIgnored, inductionHypothesis _ shorter
            (fun member => whole (List.mem_append_right _ member)) _ rfl,
            Place.advance_append, List.drop_drop]

/-- Blank lines and comment lines before a text are a line break,
where one is wanted. -/
theorem scan_break
    {text : List Char}
    (broken : '\n' ∈ text.take (afterBreak text))
    {wanted : Terminal → Bool}
    (isWanted : wanted .newline = true)
    (place : Place) :
    ∃ token : Token Terminal,
      lexicon.scan wanted place text = .token token (text.drop (afterBreak text)) ∧
        token.kind = .newline := by
  generalize isLength : text.length = length
  induction length using Nat.strong_induction_on generalizing text place with
  | h length inductionHypothesis =>
      have stops : afterBreak text ≠ 0 := by
        intro stops
        rw [stops] at broken
        cases broken
      have nonempty : text ≠ [] := by
        rintro rfl
        exact stops rfl
      cases opens_of_afterBreak stops with
      | newline first =>
          have isFirst :
              lexicon.first?
                (fun kind => lexicon.ignored.contains kind || wanted kind)
              text = some (.newline, afterBreak text) :=
            Lexicon.first?_of_wanted first (by rw [isWanted, Bool.or_true])
          obtain ⟨c, cs, rfl⟩ := List.exists_cons_of_ne_nil nonempty
          rw [Lexicon.scan, List.length_cons, scanFrom_succ _ _ _ nonempty, isFirst]
          exact ⟨_, rfl, rfl⟩
      | @ignored kind n first isIgnored within later =>
          have positive := Terminal.length?_pos (Lexicon.matches_of_first? first).2
          have shorter : (text.drop n).length < length := by
            have := List.length_pos_iff.mpr nonempty
            rw [List.length_drop]
            omega
          rw [later, List.take_add] at broken
          obtain ⟨token, scan, isBreak⟩ := inductionHypothesis _ shorter
            ((List.mem_append.mp broken).resolve_left within)
            (place.advance (text.take n)) rfl
          refine ⟨token, ?_, isBreak⟩
          rw [scan_ignored first isIgnored, scan, later, List.drop_drop]

/-- Where nothing is passed over after a line break, no line break comes first
and nothing is ignored. -/
theorem length?_of_afterBreak
    {text : List Char}
    (stops : afterBreak text = 0)
    {kind : Terminal}
    (member : kind ∈ [Terminal.newline, .comment, .blank]) :
    kind.length? text = .none := by
  have either : kind = .newline ∨ kind = .comment ∨ kind = .blank := by
    simpa using member
  rcases either with rfl | rfl | rfl
  · show newlineLength? text = .none
    unfold newlineLength?
    split
    next =>
      cases stops
    next =>
      cases stops
    next =>
      rfl
  · show commentLength? text = .none
    unfold commentLength?
    split
    next =>
      cases stops
    next =>
      cases stops
    next =>
      rfl
  · show runLength? isInlineBlank text = .none
    cases text with
    | nil =>
        rfl
    | cons c rest =>
        cases blank : isInlineBlank c with
        | false =>
            rw [runLength?, List.takeWhile_cons_of_neg (by simp [blank])]
            rfl
        | true =>
            rw [afterBreak_blank blank] at stops
            cases stops

/-- The first lexeme does not depend on wanted kinds that do not match. -/
theorem first?_congr
    {wanted wanted' : Terminal → Bool}
    {text : List Char}
    (same : ∀ kind, kind.length? text ≠ none → wanted kind = wanted' kind) :
    lexicon.first? wanted text = lexicon.first? wanted' text := by
  unfold Lexicon.first?
  congr 1
  funext kind
  by_cases matching : kind.length? text = none
  · have noLexeme : lexicon.length? kind text = none := matching
    rw [noLexeme]
    split <;> split <;> rfl
  · rw [same kind matching]

theorem not_ignored
    {text : List Char}
    (stops : afterBreak text = 0)
    {kind : Terminal}
    (matching : kind.length? text ≠ .none) :
    lexicon.ignored.contains kind = false := by
  rw [← Bool.not_eq_true, List.contains_iff_mem]
  intro isIgnored
  have either : kind = .blank ∨ kind = .comment := by
    simpa [lexicon] using isIgnored
  refine matching (length?_of_afterBreak stops ?_)
  rcases either with rfl | rfl <;> decide

/-- Where nothing is passed over after a line break, the first
token comes at once. -/
theorem scan_of_afterBreak
    {text : List Char}
    (stops : afterBreak text = 0)
    (nonempty : text ≠ [])
    (wanted : Terminal → Bool)
    (place : Place) :
    lexicon.scan wanted place text =
      match lexicon.first? wanted text with
      | some (kind, length) =>
          .token ⟨kind, text.take length, place⟩ (text.drop length)
      | none => .stuck place text := by
  have sameFirst :
      lexicon.first? (fun kind => lexicon.ignored.contains kind || wanted kind)
        text =
      lexicon.first? wanted text :=
    first?_congr fun kind matching =>
      by rw [not_ignored stops matching, Bool.false_or]
  obtain ⟨c, cs, rfl⟩ := List.exists_cons_of_ne_nil nonempty
  rw [Lexicon.scan, List.length_cons, scanFrom_succ _ _ _ nonempty, sameFirst]
  cases first : lexicon.first? wanted (c :: cs) with
  | none =>
      rfl
  | some found =>
      obtain ⟨kind, length⟩ := found
      have matching : kind.length? (c :: cs) ≠ .none := by
        have isSome : kind.length? (c :: cs) = some length :=
          (Lexicon.matches_of_first? first).2
        exact isSome ▸ Option.some_ne_none length
      dsimp only
      rw [not_ignored stops matching]
      rfl

/-! ## Closing words -/

/-- A character stands for one small letter only. -/
theorem letter_eq_of_standsFor
    {letter letter' c : Char}
    (small : letter.isLower = true)
    (small' : letter'.isLower = true)
    (stands : standsFor letter c = true)
    (stands' : standsFor letter' c = true) :
    letter = letter' := by
  simp only [standsFor, Bool.or_eq_true, Bool.and_eq_true, beq_iff_eq]
    at stands stands'
  rcases stands with ((rfl | ⟨rfl, rfl | rfl⟩) | ⟨rfl, rfl⟩) | ⟨rfl, rfl⟩ <;>
    rcases stands' with ((rfl | ⟨rfl, isC | isC⟩) | ⟨rfl, isC⟩) | ⟨rfl, isC⟩ <;>
    first
      | rfl
      | subst isC; revert small small'; decide
      | revert small small' isC; decide
      | revert small small'; decide

/-- Of two words at the head of a text, one begins with the other. -/
theorem prefix_of_foldedLength?
    {word word' text : List Char}
    {length length' : Nat}
    (small : ∀ letter ∈ word, letter.isLower = true)
    (small' : ∀ letter ∈ word', letter.isLower = true)
    (found : foldedLength? word text = some length)
    (found' : foldedLength? word' text = some length') :
    word <+: word' ∨ word' <+: word := by
  induction word generalizing word' text length length' with
  | nil =>
      exact .inl (List.nil_prefix ..)
  | cons letter word inductionHypothesis =>
      cases word' with
      | nil =>
          exact .inr (List.nil_prefix ..)
      | cons letter' word' =>
          cases text with
          | nil =>
              cases found
          | cons c text =>
              rw [foldedLength?] at found found'
              split at found
              next stands =>
                split at found'
                next stands' =>
                  obtain ⟨_, foundRest, -⟩ := Option.map_eq_some_iff.mp found
                  obtain ⟨_, foundRest', -⟩ := Option.map_eq_some_iff.mp found'
                  obtain ⟨isSmall, later⟩ := List.forall_mem_cons.mp small
                  obtain ⟨isSmall', later'⟩ := List.forall_mem_cons.mp small'
                  obtain rfl :=
                    letter_eq_of_standsFor isSmall isSmall' stands stands'
                  refine (inductionHypothesis later later' foundRest foundRest').imp
                    ?_ ?_
                  · exact fun isPrefix => List.cons_prefix_cons.mpr ⟨rfl, isPrefix⟩
                  · exact fun isPrefix => List.cons_prefix_cons.mpr ⟨rfl, isPrefix⟩
                next =>
                  cases found'
              next =>
                cases found

/-- A text begins with a word that ends a block or a branch of one. -/
def Closes (text : List Char) : Prop :=
  ∃ k ∈ closers, keywordLength? k text ≠ none

instance (text : List Char) : Decidable (Closes text) :=
  inferInstanceAs (Decidable (∃ k ∈ closers, keywordLength? k text ≠ none))

theorem foldedLength?_of_keywordLength?
    {k : Keyword}
    {text : List Char}
    (matching : keywordLength? k text ≠ none) :
    ∃ length, foldedLength? k.word.toList text = some length := by
  unfold keywordLength? at matching
  split at matching
  next length found =>
    exact ⟨length, found⟩
  next =>
    exact absurd rfl matching

/-- No word that opens a statement stands where one stands that closes. -/
theorem not_opener_of_closer
    {k k' : Keyword}
    {text : List Char}
    (closer : k ∈ closers)
    (matching : keywordLength? k text ≠ none)
    (matching' : keywordLength? k' text ≠ none) :
    Terminal.keyword k' ∉ openers := by
  intro opener
  have differ : ∀ k ∈ closers, ∀ k' ∈ Keyword.all, .keyword k' ∈ openers →
      ¬(k.word.toList <+: k'.word.toList ∨ k'.word.toList <+: k.word.toList) := by
    decide +kernel
  obtain ⟨_, found⟩ := foldedLength?_of_keywordLength? matching
  obtain ⟨_, found'⟩ := foldedLength?_of_keywordLength? matching'
  exact differ k closer k' (by cases k' <;> decide) opener
    (prefix_of_foldedLength? (fun _ => k.isLower_of_mem)
      (fun _ => k'.isLower_of_mem) found found')

/-! ## Kinds that are wanted at the start of a statement -/

theorem ground_wants_iff
    {state : Nat}
    (ground : state ∈ groundStates)
    (kind : Terminal) :
    language.wants state kind = true ↔
      kind ∈ openers ∨ kind = .finish ∨ (kind = .newline ∧ state = 0) := by
  have pushes : ∀ state ∈ groundStates, ∀ kind ∈ .finish :: openers,
      (language.actionAt? (rowIn · parts) state kind).isSome = true := by
    decide +kernel
  have breaks : language.wants 0 .newline = true := by
    rw [Language.wants, ← Language.actionAt?_eq row_eq]
    decide +kernel
  constructor
  · intro isWanted
    obtain ⟨action, acts⟩ := Option.isSome_iff_exists.mp isWanted
    cases action with
    | shift target =>
        rcases ground_shift ground acts with
          ⟨isBreak, isStart, -⟩ | ⟨-, -, opener, -⟩
        · exact .inr (.inr ⟨isBreak, isStart⟩)
        · exact .inl opener
    | reduce rule =>
        exact .inr (.inl (ground_reduce ground acts))
    | accept =>
        exact .inr (.inl (Language.accepting_of_accept acts).2)
  · rintro (opener | rfl | ⟨rfl, rfl⟩)
    · rw [Language.wants, ← Language.actionAt?_eq row_eq]
      exact pushes state ground kind (List.mem_cons_of_mem _ opener)
    · rw [Language.wants, ← Language.actionAt?_eq row_eq]
      exact pushes state ground .finish List.mem_cons_self
    · exact breaks

/-- Where no closing word stands, the same token comes first after a statement
and at the start of a statement. -/
theorem first?_ground
    {state : Nat}
    {text : List Char}
    (ground : state ∈ groundStates)
    (stops : afterBreak text = 0)
    (opens : ¬Closes text) :
    lexicon.first? (language.wants state) text =
      lexicon.first? (followers.contains ·) text := by
  refine first?_congr fun kind matching => ?_
  have notBreak : kind ≠ .newline := by
    rintro rfl
    exact matching (length?_of_afterBreak stops (by decide))
  have notCloser : ¬∃ k ∈ closers, .keyword k = kind := by
    rintro ⟨k, closer, rfl⟩
    exact opens ⟨k, closer, matching⟩
  rw [Bool.eq_iff_iff, ground_wants_iff ground, List.contains_iff_mem]
  simp [followers, notBreak, notCloser]

/-- At the start of a statement, the first token opens one. -/
theorem opener_of_first?
    {state length : Nat}
    {text : List Char}
    {kind : Terminal}
    (ground : state ∈ groundStates)
    (stops : afterBreak text = 0)
    (first : lexicon.first? (language.wants state) text = some (kind, length)) :
    kind ∈ openers := by
  obtain ⟨order, matching⟩ := Lexicon.matches_of_first? first
  have isSome : kind.length? text = some length := matching
  rcases (ground_wants_iff ground kind).mp (Lexicon.wanted_of_first? first) with
    opener | rfl | ⟨rfl, -⟩
  · exact opener
  · exact absurd order traced_language.finish
  · rw [length?_of_afterBreak stops (by decide)] at isSome
    cases isSome

/-- Where no line break comes first, all ground states want the same. -/
theorem first?_ground_eq
    {state other : Nat}
    {text : List Char}
    (ground : state ∈ groundStates)
    (otherGround : other ∈ groundStates)
    (stops : afterBreak text = 0) :
    lexicon.first? (language.wants state) text =
      lexicon.first? (language.wants other) text := by
  refine first?_congr fun kind matching => ?_
  have notBreak : kind ≠ .newline := by
    rintro rfl
    exact matching (length?_of_afterBreak stops (by decide))
  rw [Bool.eq_iff_iff, ground_wants_iff ground, ground_wants_iff otherGround]
  simp [notBreak]

/-- Where a closing word stands, it comes first after a statement. -/
theorem first?_closes
    {text : List Char}
    (closes : Closes text) :
    ∃ k ∈ closers, ∃ length,
      lexicon.first? (followers.contains ·) text = some (.keyword k, length) := by
  obtain ⟨k, closer, matching⟩ := closes
  have follows : followers.contains (.keyword k) = true := by
    rw [List.contains_iff_mem, followers]
    simp [closer]
  have tried : ((Keyword.all.map Terminal.keyword).findSome? fun kind =>
      if followers.contains kind then (lexicon.length? kind text).map (kind, ·)
      else none).isSome = true := by
    rw [List.findSome?_isSome_iff]
    refine ⟨.keyword k, List.mem_map_of_mem (by cases k <;> decide), ?_⟩
    rw [if_pos follows, Option.isSome_map]
    exact Option.isSome_iff_ne_none.mpr matching
  obtain ⟨found, isFound⟩ := Option.isSome_iff_exists.mp tried
  obtain ⟨kind, member, isTried⟩ := List.exists_of_findSome?_eq_some isFound
  obtain ⟨k', -, rfl⟩ := List.mem_map.mp member
  split at isTried
  next follows' =>
    obtain ⟨length, matching', rfl⟩ := Option.map_eq_some_iff.mp isTried
    have closer' : k' ∈ closers := by
      have isSome : keywordLength? k' text = some length := matching'
      have notOpener :=
        not_opener_of_closer closer matching (isSome ▸ Option.some_ne_none length)
      simpa [followers, notOpener] using follows'
    refine ⟨k', closer', length, ?_⟩
    rw [Lexicon.first?, order_eq, List.findSome?_append, isFound]
    rfl
  next =>
    cases isTried

end GridScript.Script
