import GridScript.Proofs.Parsing.Scanning
import GridScript.Proofs.Script.Joining.Lexemes

namespace GridScript.Script

/-!
# Scanning texts of whole lines

The tokens of whole lines are the same before every other text. Only the
last line break can differ: it goes on over the empty lines at the start
of the other text.
-/

open GridScript.Parsing
open GridScript.Text

/-!
## Texts of whole lines

A text of whole lines before another text is read in the same way whatever the
other text is, up to its last line break: that one goes on over the blank and
comment lines at the start of the other text.
-/

/-- No line is begun and not ended. -/
def Closed (text : List Char) : Prop :=
  ∀ c ∈ text.getLast?, c = '\n'

theorem Closed.drop
    {text : List Char}
    (closed : Closed text)
    (n : Nat) :
    Closed (text.drop n) := by
  intro c isLast
  rw [List.getLast?_drop] at isLast
  split at isLast
  next =>
    cases isLast
  next =>
    exact closed c isLast

theorem Closed.of_cons
    {c : Char}
    {text : List Char}
    (closed : Closed (c :: text)) :
    Closed text :=
  closed.drop 1

/-- A character that ends no line is not the last one. -/
theorem Closed.ne_nil
    {c : Char}
    {text : List Char}
    (closed : Closed (c :: text))
    (other : c ≠ '\n') :
    text ≠ [] := by
  rintro rfl
  exact other (closed c rfl)

/-- Texts of whole lines have a first line. -/
theorem Closed.exists_line
    {text : List Char}
    (closed : Closed text)
    (nonempty : text ≠ []) :
    ∃ line rest, text = line ++ '\n' :: rest ∧ '\n' ∉ line := by
  have member : '\n' ∈ text := by
    have isLast := List.getLast_mem nonempty
    rwa [closed _ (List.getLast?_eq_some_getLast nonempty)] at isLast
  obtain ⟨line, rest, split, whole⟩ := List.eq_append_cons_of_mem member
  exact ⟨line, rest, split, whole⟩

/-- A measure of what is passed over after a line break gives one answer on all
texts with the same whole lines first, or it goes on over all these lines. -/
def PassesLines (length : List Char → Nat) (lines : List Char) : Prop :=
  (∃ n < lines.length, ∀ tail, length (lines ++ tail) = n) ∨
    ∀ tail, length (lines ++ tail) = lines.length + afterBreak tail

theorem PassesLines.add
    {length length' : List Char → Nat}
    {lines : List Char}
    (passes : PassesLines length lines)
    (front : List Char)
    (longer :
      ∀ tail, length' (front ++ (lines ++ tail)) =
        length (lines ++ tail) + front.length) :
    PassesLines length' (front ++ lines) := by
  rcases passes with ⟨n, less, same⟩ | whole
  · refine .inl ⟨n + front.length, ?_, fun tail => ?_⟩
    · rw [List.length_append]
      omega
    · rw [List.append_assoc, longer, same]
  · refine .inr fun tail => ?_
    rw [List.append_assoc, longer, whole, List.length_append]
    omega

/-- A character that neither returns the carriage of a line break nor opens a
comment with the character after it does not do so before more text. -/
theorem afterBreak_cons_append
    {c : Char}
    {rest : List Char}
    (closed : Closed (c :: rest))
    (noReturn : ∀ later, c = '\r' → rest = '\n' :: later → False)
    (noSlash : ∀ later, c = '/' → rest = '/' :: later → False)
    (tail : List Char) :
    afterBreak (c :: (rest ++ tail)) =
      if c = '\n' || isInlineBlank c then afterBreak (rest ++ tail) + 1
      else if c = '\'' then inComment (rest ++ tail) + 1
      else 0 := by
  cases rest with
  | nil =>
      obtain rfl := closed c rfl
      exact afterBreak.eq_3 _ _ (fun _ isReturn => absurd isReturn (by decide))
        (fun _ isSlash => absurd isSlash (by decide))
  | cons d rest =>
      refine afterBreak.eq_3 _ _ (fun later isReturn isBreak => ?_)
        fun later isSlash again => ?_
      · exact noReturn rest isReturn (by rw [(List.cons.inj isBreak).1])
      · exact noSlash rest isSlash (by rw [(List.cons.inj again).1])

/-- What is passed over after a line break ends in whole lines, or goes
on over all of them. -/
theorem passesLines_afterBreak
    {lines : List Char}
    (closed : Closed lines) :
    PassesLines afterBreak lines := by
  induction lines using afterBreak.induct _
    (fun lines => Closed lines → lines ≠ [] → PassesLines inComment lines) with
  | case1 rest inductionHypothesis =>
      exact (inductionHypothesis (closed.drop 2)).add ['\r', '\n'] fun _ => rfl
  | case2 rest inductionHypothesis =>
      have nonempty := closed.of_cons.ne_nil (by decide)
      exact (inductionHypothesis (closed.drop 2) nonempty).add ['/', '/']
        fun _ => rfl
  | case3 c rest noReturn noSlash passed inductionHypothesis =>
      refine (inductionHypothesis closed.of_cons).add [c] fun tail => ?_
      exact (afterBreak_cons_append closed noReturn noSlash tail).trans
        (if_pos passed)
  | case4 rest noReturn noSlash notPassed inductionHypothesis =>
      have nonempty := closed.ne_nil (by decide)
      refine (inductionHypothesis closed.of_cons nonempty).add ['\''] fun tail => ?_
      exact afterBreak_cons_append closed noReturn noSlash tail
  | case5 c rest noReturn noSlash notPassed notQuote =>
      refine .inl ⟨0, Nat.zero_lt_succ _, fun tail => ?_⟩
      rw [List.cons_append, afterBreak_cons_append closed noReturn noSlash,
        if_neg notPassed, if_neg notQuote]
  | case6 =>
      exact .inr fun tail => (Nat.zero_add _).symm
  | case7 rest inductionHypothesis =>
      rename_i closed nonempty
      exact (inductionHypothesis closed.of_cons).add ['\n'] fun _ => rfl
  | case8 c rest notBreak inductionHypothesis =>
      rename_i closed nonempty
      refine (inductionHypothesis closed.of_cons (closed.ne_nil notBreak)).add [c]
        fun tail => ?_
      show inComment (c :: (rest ++ tail)) = _
      rw [inComment, if_neg notBreak]
      rfl
  | case9 =>
      rename_i closed nonempty
      exact absurd rfl nonempty

/-! ## Empty lines -/

/-- A line without tokens: blanks, or blanks and a comment. -/
inductive EmptyLine : List Char → Prop
  | blank
      {blanks ending : List Char}
      (inside : ∀ c ∈ blanks, isInlineBlank c = true)
      (ended : ending = ['\n'] ∨ ending = ['\r', '\n']) :
      EmptyLine (blanks ++ ending)
  | comment
      {blanks mark body : List Char}
      (inside : ∀ c ∈ blanks, isInlineBlank c = true)
      (opens : mark = ['\''] ∨ mark = ['/', '/'])
      (whole : '\n' ∉ body) :
      EmptyLine (blanks ++ (mark ++ (body ++ ['\n'])))

theorem afterBreak_blank
    {c : Char}
    (blank : isInlineBlank c = true)
    (rest : List Char) :
    afterBreak (c :: rest) = afterBreak rest + 1 := by
  have cases : (c = ' ' ∨ c = '\t') ∨ c = '\x0c' := by
    simpa [isInlineBlank] using blank
  rcases cases with (rfl | rfl) | rfl <;> simp [afterBreak, isInlineBlank]

theorem afterBreak_blanks
    {blanks : List Char}
    (inside : ∀ c ∈ blanks, isInlineBlank c = true)
    (rest : List Char) :
    afterBreak (blanks ++ rest) = blanks.length + afterBreak rest := by
  induction blanks with
  | nil =>
      exact (Nat.zero_add _).symm
  | cons c blanks inductionHypothesis =>
      obtain ⟨blank, later⟩ := List.forall_mem_cons.mp inside
      rw [List.cons_append, afterBreak_blank blank, inductionHypothesis later,
        List.length_cons]
      omega

theorem inComment_body
    {body : List Char}
    (whole : '\n' ∉ body)
    (rest : List Char) :
    inComment (body ++ '\n' :: rest) = body.length + 1 + afterBreak rest := by
  induction body with
  | nil =>
      rw [List.nil_append, inComment, if_pos rfl, List.length_nil]
      omega
  | cons c body inductionHypothesis =>
      obtain ⟨other, later⟩ := List.ne_and_not_mem_of_not_mem_cons whole
      rw [List.cons_append, inComment, if_neg (Ne.symm other),
        inductionHypothesis later, List.length_cons]
      omega

namespace EmptyLine

variable {line : List Char}

/-- An empty line after a line break is passed over. -/
theorem afterBreak_append
    (empty : EmptyLine line)
    (rest : List Char) :
    afterBreak (line ++ rest) = line.length + afterBreak rest := by
  cases empty with
  | blank inside ended =>
      rw [List.append_assoc, afterBreak_blanks inside, List.length_append]
      rcases ended with rfl | rfl
      · simp [afterBreak]
        omega
      · simp [afterBreak]
        omega
  | comment inside opens whole =>
      rw [List.append_assoc, List.append_assoc, List.append_assoc,
        List.singleton_append, afterBreak_blanks inside, List.length_append,
        List.length_append, List.length_append]
      have body := inComment_body whole rest
      rcases opens with rfl | rfl
      · simp [afterBreak, isInlineBlank, body]
        omega
      · simp [afterBreak, body]
        omega

/-- An empty line has one line break. -/
theorem count_eq (empty : EmptyLine line) : line.count '\n' = 1 := by
  have blanks {cs : List Char} (inside : ∀ c ∈ cs, isInlineBlank c = true) :
      cs.count '\n' = 0 := by
    refine List.count_eq_zero.mpr fun member => ?_
    have blank := inside _ member
    revert blank
    decide
  cases empty with
  | blank inside ended =>
      rw [List.count_append, blanks inside]
      rcases ended with rfl | rfl <;> rfl
  | comment inside opens whole =>
      rw [List.count_append, List.count_append, List.count_append, blanks inside,
        List.count_eq_zero.mpr whole]
      rcases opens with rfl | rfl <;> rfl

theorem closed (empty : EmptyLine line) : Closed line := by
  have ends {front : List Char} : Closed (front ++ ['\n']) := by
    intro c isLast
    rw [List.getLast?_concat] at isLast
    exact (Option.some.inj isLast).symm
  cases empty with
  | @blank blanks _ inside ended =>
      rcases ended with rfl | rfl
      · exact ends
      · exact List.append_assoc blanks ['\r'] ['\n'] ▸ ends
  | @comment blanks mark body inside opens whole =>
      rw [← List.append_assoc, ← List.append_assoc]
      exact ends

end EmptyLine

/-! ## Lexemes -/

/-- What is found at the head of whole lines does not depend on the text after
them, or it is a line break that goes on over all of them. -/
def StopsOrPasses
    (find? : List Char → Option (Terminal × Nat))
    (lines : List Char) : Prop :=
  (∃ found, (∀ tail, find? (lines ++ tail) = found) ∧
    ∀ kind n, found = some (kind, n) → 0 < n ∧ n < lines.length) ∨
  ∀ tail, find? (lines ++ tail) = some (.newline, lines.length + afterBreak tail)

theorem StopsOrPasses.of_none
    {find? : List Char → Option (Terminal × Nat)}
    {lines : List Char}
    (none : ∀ tail, find? (lines ++ tail) = none) :
    StopsOrPasses find? lines :=
  .inl ⟨_, none, nofun⟩

/-- A line break goes on over the lines after it. -/
theorem StopsOrPasses.of_passes
    {find? : List Char → Option (Terminal × Nat)}
    {lines : List Char}
    (passes : PassesLines afterBreak lines)
    (front : List Char)
    (nonempty : front ≠ [])
    (found : ∀ tail, find? (front ++ (lines ++ tail)) =
      some (.newline, afterBreak (lines ++ tail) + front.length)) :
    StopsOrPasses find? (front ++ lines) := by
  have positive := List.length_pos_iff.mpr nonempty
  rcases passes with ⟨n, less, same⟩ | whole
  · refine .inl ⟨some (.newline, n + front.length), fun tail => ?_,
      fun kind m isFound => ?_⟩
    · rw [List.append_assoc, found, same]
    · cases isFound
      rw [List.length_append]
      omega
  · refine .inr fun tail => ?_
    rw [List.append_assoc, found, whole, List.length_append]
    congr 2
    omega

section Lines

variable {lines : List Char} (closed : Closed lines) (nonempty : lines ≠ [])

include closed nonempty

theorem stopsOrPasses_newline :
    StopsOrPasses (fun cs => (newlineLength? cs).map (Terminal.newline, ·))
      lines := by
  obtain ⟨c, rest, rfl⟩ := List.exists_cons_of_ne_nil nonempty
  by_cases isBreak : c = '\n'
  · subst isBreak
    exact .of_passes (passesLines_afterBreak closed.of_cons) ['\n']
      (List.cons_ne_nil _ _) fun tail => rfl
  by_cases isReturn : c = '\r'
  · subst isReturn
    obtain ⟨d, rest, rfl⟩ := List.exists_cons_of_ne_nil (closed.ne_nil isBreak)
    by_cases second : d = '\n'
    · subst second
      exact .of_passes (passesLines_afterBreak (closed.drop 2)) ['\r', '\n']
        (List.cons_ne_nil _ _) fun tail => rfl
    · refine .of_none fun tail => ?_
      simp [newlineLength?, second]
  · refine .of_none fun tail => ?_
    simp [newlineLength?, isBreak, isReturn]

/-- Each kind is found in the same way before every text. -/
theorem stopsOrPasses_length? (kind : Terminal) :
    StopsOrPasses (fun cs => (kind.length? cs).map (kind, ·)) lines := by
  by_cases isNewline : kind = .newline
  · subst isNewline
    exact stopsOrPasses_newline closed nonempty
  · obtain ⟨line, rest, rfl, whole⟩ := closed.exists_line nonempty
    have within := withinLine_of_ne isNewline line whole
    refine .inl ⟨(kind.length? (line ++ ['\n'])).map (kind, ·), fun tail => ?_,
      fun found n isFound => ?_⟩
    · show (kind.length? (line ++ '\n' :: rest ++ tail)).map (kind, ·) = _
      rw [List.append_assoc, List.cons_append, (within (rest ++ tail)).1]
    · obtain ⟨m, isLength, same⟩ := Option.map_eq_some_iff.mp isFound
      cases same
      have bound := (within rest).2 n isLength
      refine ⟨Terminal.length?_pos isLength, ?_⟩
      rw [List.length_append, List.length_cons]
      omega

/-- The first wanted kind is found in the same way before every text. -/
theorem stopsOrPasses_first? (wanted : Terminal → Bool) :
    StopsOrPasses (lexicon.first? wanted) lines := by
  have each (order : List Terminal) :
      StopsOrPasses (fun cs => order.findSome? fun kind =>
        if wanted kind then (kind.length? cs).map (kind, ·) else none) lines := by
    induction order with
    | nil =>
        exact .of_none fun _ => rfl
    | cons kind order inductionHypothesis =>
        by_cases isWanted : wanted kind = true
        · rcases stopsOrPasses_length? closed nonempty kind with
            ⟨_ | found, same, bound⟩ | whole
          · simpa only [StopsOrPasses, List.findSome?_cons, isWanted, if_true, same]
              using inductionHypothesis
          · refine .inl ⟨some found, fun tail => ?_, bound⟩
            simp only [List.findSome?_cons, isWanted, if_true, same]
          · refine .inr fun tail => ?_
            simp only [List.findSome?_cons, isWanted, if_true, whole]
        · simpa only [StopsOrPasses, List.findSome?_cons, isWanted, if_false,
            Bool.false_eq_true] using
            inductionHypothesis
  exact each Terminal.order

end Lines

/-! ## Tokens -/

/-- Whole lines before two texts hold the same first token, or a line break that
goes on over all of them, or no token. -/
inductive SameScan
    (tail tail' : List Char) : Scan Terminal → Scan Terminal → Prop where
  | within
      {token : Token Terminal}
      {lines : List Char}
      (closed : Closed lines)
      (nonempty : lines ≠ []) :
      SameScan tail tail' (.token token (lines ++ tail))
        (.token token (lines ++ tail'))
  | across
      {text text' : List Char}
      {place : Place} :
      SameScan tail tail'
        (.token ⟨.newline, text, place⟩ (tail.drop (afterBreak tail)))
        (.token ⟨.newline, text', place⟩ (tail'.drop (afterBreak tail')))
  | stuck
      {place : Place}
      {text text' : List Char} :
      SameScan tail tail' (.stuck place text) (.stuck place text')

/-- What a scan does with the first wanted kind. -/
theorem scanFrom_succ
    (wanted : Terminal → Bool)
    (fuel : Nat)
    (place : Place)
    {text : List Char}
    (nonempty : text ≠ []) :
    lexicon.scanFrom wanted (fuel + 1) place text =
      match lexicon.first?
        (fun kind => lexicon.ignored.contains kind || wanted kind) text with
      | none => .stuck place text
      | some (kind, length) =>
          if lexicon.ignored.contains kind then
            lexicon.scanFrom wanted fuel (place.advance (text.take length))
              (text.drop length)
          else .token ⟨kind, text.take length, place⟩ (text.drop length) := by
  obtain ⟨c, cs, rfl⟩ := List.exists_cons_of_ne_nil nonempty
  rw [Lexicon.scanFrom]
  cases lexicon.first? (fun kind => lexicon.ignored.contains kind || wanted kind)
    (c :: cs) <;> rfl

/-- Whole lines are scanned in the same way before every text. -/
theorem sameScan_scanFrom
    (wanted : Terminal → Bool)
    {tail tail' : List Char}
    {fuel fuel' : Nat}
    {lines : List Char}
    (closed : Closed lines)
    (nonempty : lines ≠ [])
    (enough : (lines ++ tail).length ≤ fuel)
    (enough' : (lines ++ tail').length ≤ fuel')
    (place : Place) :
    SameScan tail tail' (lexicon.scanFrom wanted fuel place (lines ++ tail))
      (lexicon.scanFrom wanted fuel' place (lines ++ tail')) := by
  have positive := List.length_pos_iff.mpr nonempty
  rw [List.length_append] at enough enough'
  induction fuel generalizing fuel' lines place with
  | zero =>
      omega
  | succ fuel inductionHypothesis =>
      obtain ⟨fuel', rfl⟩ :=
        Nat.exists_eq_add_of_le' (Nat.le_trans (by omega : 1 ≤ _) enough')
      rw [scanFrom_succ _ _ _ (List.append_ne_nil_of_left_ne_nil nonempty tail),
        scanFrom_succ _ _ _ (List.append_ne_nil_of_left_ne_nil nonempty tail')]
      rcases stopsOrPasses_first? closed nonempty
        (fun kind => lexicon.ignored.contains kind || wanted kind) with
        ⟨found, same, bound⟩ | whole
      · rw [same, same]
        cases found with
        | none =>
            exact .stuck
        | some entry =>
            obtain ⟨kind, n⟩ := entry
            obtain ⟨isPositive, inside⟩ := bound kind n rfl
            have left : lines.drop n ≠ [] := by
              rw [ne_eq, List.drop_eq_nil_iff]
              omega
            dsimp only
            rw [List.take_append_of_le_length (Nat.le_of_lt inside),
              List.take_append_of_le_length (Nat.le_of_lt inside),
              List.drop_append_of_le_length (Nat.le_of_lt inside),
              List.drop_append_of_le_length (Nat.le_of_lt inside)]
            split
            · refine inductionHypothesis (closed.drop n) left ?_ ?_ _
                (List.length_pos_iff.mpr left)
              · rw [List.length_drop]
                omega
              · rw [List.length_drop]
                omega
            · exact .within (closed.drop n) left
      · rw [whole, whole]
        have kept : lexicon.ignored.contains Terminal.newline = false := by decide
        simp only [kept, Bool.false_eq_true, if_false, List.drop_length_add_append]
        exact .across

end GridScript.Script
