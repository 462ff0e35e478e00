import GridScript.Proofs.Table.Markdown

namespace GridScript.Table

/-!
# Fenced blocks

A fenced block of a document begins with a line of at most three spaces and a
run of at least three backticks or tildes. It ends before a line of at most
three spaces and a run of the same character that is no shorter, with nothing
but blanks after it, or with the document.

The scanner takes any blanks for the indentation and remembers only the
character of a block, so that every line that begins with a run of this
character ends the block for it. As long as it sees the fences of a document
where they are, the lines inside a block make no difference.
-/

open GridScript.Text

/-! ## Blocks of a document -/

/-- The run of characters that opens a block. -/
structure Fence where
  mark : Char
  length : Nat
  deriving Repr, DecidableEq

/-- The run at the beginning of a line, after at most three spaces, and
the text behind it. -/
def fenceRun? (line : List Char) : Option (Fence × List Char) :=
  let indent := (line.takeWhile (· == ' ')).length
  let body := line.drop indent
  match body with
  | c :: _ =>
      let length := (body.takeWhile (· == c)).length
      if indent ≤ 3 && (c == '\x60' || c == '~') && length ≥ 3 then
        some (⟨c, length⟩, body.drop length)
      else none
  | [] => none

/-- The fence of the block that a line outside of blocks opens. -/
def openingFence? (line : List Char) : Option Fence :=
  (fenceRun? line).map Prod.fst

/-- The line closes a block with this fence. -/
def Fence.closedBy (fence : Fence) (line : List Char) : Bool :=
  (fenceRun? line).any fun (run, behind) =>
    run.mark == fence.mark && fence.length ≤ run.length && behind.all isBlank

/-- The block that is open after a line. -/
def blockAfter (block : Option Fence) (line : List Char) : Option Fence :=
  match block with
  | none => openingFence? line
  | some fence => if fence.closedBy line then none else some fence

/-- The block that is open after some lines. -/
def blockAfterLines
    (block : Option Fence)
    (lines : List (List Char)) : Option Fence :=
  lines.foldl blockAfter block

/-! ## What the scanner sees of them -/

/-- The scanner sees the fences of a line where they are. Outside of
blocks these are the lines that open a block, none of which looks like a
row of a table; inside of a block they are the lines that close it, and
runs of the other character. -/
def SeesFence (block : Option Fence) (line : List Char) : Prop :=
  match block with
  | none =>
      fence? line = (openingFence? line).map Fence.mark ∧
        (isTableLine line = true → fence? line = none)
  | some fence => fence? line = some fence.mark → fence.closedBy line = true

instance (block : Option Fence) (line : List Char) :
    Decidable (SeesFence block line) :=
  match block with
  | none => inferInstanceAs (Decidable (_ ∧ _))
  | some _ => inferInstanceAs (Decidable (_ → _))

/-- The scanner sees the fences of lines where they are. -/
def SeesFences : Option Fence → List (List Char) → Prop
  | _, [] => True
  | block, line :: rest => SeesFence block line ∧
    SeesFences (blockAfter block line) rest

instance decidableSeesFences :
    (block : Option Fence) → (lines : List (List Char)) →
      Decidable (SeesFences block lines)
  | _, [] => .isTrue trivial
  | block, line :: rest =>
      have := decidableSeesFences (blockAfter block line) rest
      inferInstanceAs (Decidable (_ ∧ _))

variable {block : Option Fence} {fence : Fence} {line opening : List Char}
  {before inside rest : List (List Char)}

theorem seesFences_append :
    SeesFences block (before ++ rest) ↔
      SeesFences block before ∧ SeesFences (blockAfterLines block before) rest := by
  induction before generalizing block with
  | nil => simp [SeesFences, blockAfterLines]
  | cons line before inductionHypothesis =>
      rw [List.cons_append, SeesFences, SeesFences, inductionHypothesis, and_assoc]
      rfl

/-- The scanner sees every line that begins with a run, whatever stands behind
it. -/
theorem fence?_of_run
    {behind : List Char}
    (run : fenceRun? line = some (fence, behind)) :
    fence? line = some fence.mark := by
  unfold fenceRun? at run
  dsimp only at run
  split at run
  next c tail isBody =>
    split at run
    next begins =>
      cases run
      simp only [Bool.and_eq_true, Bool.or_eq_true, beq_iff_eq, decide_eq_true_eq]
        at begins
      obtain ⟨⟨near, isMark⟩, long⟩ := begins
      have visible : isBlank c = false := by
        rcases isMark with rfl | rfl <;> decide
      have spaces : ∀ b ∈ line.takeWhile (· == ' '), isBlank b = true := by
        intro b member
        have isSpace := List.mem_takeWhile_imp member
        rw [eq_of_beq isSpace]
        decide
      have indent : line.takeWhile isBlank = line.takeWhile (· == ' ') := by
        have isTaken :=
          List.prefix_iff_eq_take.mp (List.takeWhile_prefix (l := line) (· == ' '))
        have parts := List.take_append_drop (line.takeWhile (· == ' ')).length line
        rw [← isTaken, isBody] at parts
        conv_lhs => rw [← parts]
        rw [List.takeWhile_append_of_pos spaces,
          List.takeWhile_cons_of_neg (by simp [visible]), List.append_nil]
      rw [isBody] at long
      unfold fence?
      simp only [indent, isBody]
      rw [if_pos]
      simp only [near, isMark, long, Bool.and_eq_true, Bool.or_eq_true, beq_iff_eq,
        decide_eq_true_eq, and_self]
    next => cases run
  next => cases run

theorem fence?_of_closedBy
    (closes : fence.closedBy line = true) :
    fence? line = some fence.mark := by
  unfold Fence.closedBy at closes
  rw [Option.any_eq_true] at closes
  obtain ⟨⟨run, behind⟩, isRun, same⟩ := closes
  simp only [Bool.and_eq_true, beq_iff_eq] at same
  rw [fence?_of_run isRun, same.1.1]

theorem fence?_of_opening
    (opens : openingFence? line = some fence) :
    fence? line = some fence.mark := by
  obtain ⟨⟨_, behind⟩, isRun, rfl⟩ := Option.map_eq_some_iff.mp opens
  exact fence?_of_run isRun

/-- A line that is no fence for the scanner opens and closes no block. -/
theorem blockAfter_of_no_fence
    (noFence : fence? line = none) :
    blockAfter block line = block := by
  cases block with
  | none =>
      refine Option.eq_none_iff_forall_ne_some.mpr fun fence opens => ?_
      cases noFence.symm.trans (fence?_of_opening opens)
  | some fence =>
      refine if_neg fun closes => ?_
      cases noFence.symm.trans (fence?_of_closedBy closes)

/-- The first of the lines of a table after its delimiter are no fences. -/
theorem fence?_of_row
    (seen : SeesFences none rest) :
    ∀ row ∈ rest.takeWhile isTableLine, fence? row = none := by
  induction rest with
  | nil => exact nofun
  | cons line rest inductionHypothesis =>
      intro row member
      by_cases isRow : isTableLine line = true
      · have noFence := seen.1.2 isRow
        rw [List.takeWhile_cons_of_pos isRow] at member
        rcases List.mem_cons.mp member with rfl | later
        · exact noFence
        · have seen := seen.2
          rw [blockAfter_of_no_fence noFence] at seen
          exact inductionHypothesis seen row later
      · rw [List.takeWhile_cons_of_neg isRow] at member
        cases member

/-! ## Fences are no delimiters -/

theorem dropLastPipe_of_first
    {c : Char}
    (other : c ≠ '|')
    (cs : List Char) :
    ∃ others, dropLastPipe (c :: cs) = c :: others := by
  unfold dropLastPipe
  split
  next => exact ⟨cs, rfl⟩
  next front _ isReverse =>
    have isWhole : c :: cs = front.reverse ++ ['|'] := by
      rw [← List.reverse_reverse (c :: cs), isReverse, List.reverse_cons]
    cases isFront : front.reverse with
    | nil =>
        rw [isFront] at isWhole
        exact absurd (List.cons.inj isWhole).1 other
    | cons first others =>
        rw [isFront] at isWhole
        exact ⟨others, by rw [(List.cons.inj isWhole).1]⟩
  next => exact ⟨cs, rfl⟩

/-- The first cell keeps what it begins with. -/
theorem cutAtPipes_of_cell (cell cs : List Char) :
    ∃ others cells, cutAtPipes cell cs = (cell.reverse ++ others) :: cells := by
  induction cell, cs using cutAtPipes.induct with
  | case1 cell => exact ⟨[], [], by simp [cutAtPipes]⟩
  | case2 cell rest inductionHypothesis =>
      obtain ⟨others, cells, isCut⟩ := inductionHypothesis
      exact ⟨'|' :: others, cells, by simp [cutAtPipes, isCut]⟩
  | case3 cell rest =>
      exact ⟨[], cutAtPipes [] rest, by simp [cutAtPipes]⟩
  | case4 cell c rest _ other inductionHypothesis =>
      obtain ⟨others, cells, isCut⟩ := inductionHypothesis
      exact ⟨c :: others, cells, by simp [cutAtPipes, other, isCut]⟩

/-- The indentation of a fence and its first character. -/
theorem exists_body_of_fence
    {mark : Char}
    (isFence : fence? line = some mark) :
    (mark = '\x60' ∨ mark = '~') ∧
      ∃ blanks body, line = blanks ++ mark :: body ∧
        ∀ b ∈ blanks, isBlank b = true := by
  have isTaken :=
    List.prefix_iff_eq_take.mp (List.takeWhile_prefix (l := line) isBlank)
  have parts := List.take_append_drop (line.takeWhile isBlank).length line
  unfold fence? at isFence
  dsimp only at isFence
  split at isFence
  next c body isBody =>
    split at isFence
    next begins =>
      cases isFence
      rw [← isTaken, isBody] at parts
      simp only [Bool.and_eq_true, Bool.or_eq_true, beq_iff_eq] at begins
      exact ⟨begins.1.2, _, body, parts.symm, fun _ => List.mem_takeWhile_imp⟩
    next => cases isFence
  next => cases isFence

/-- A fence is no delimiter line, as its first cell begins with the fence. -/
theorem isDelimiter_of_fence
    {mark : Char}
    (isFence : fence? line = some mark) :
    isDelimiter line = false := by
  obtain ⟨isMark, blanks, body, rfl, blank⟩ := exists_body_of_fence isFence
  have visible : isBlank mark = false := by
    rcases isMark with rfl | rfl <;> decide
  have noPipe : mark ≠ '|' := by
    rcases isMark with rfl | rfl <;> decide
  have unescaped : mark ≠ '\\' := by
    rcases isMark with rfl | rfl <;> decide
  obtain ⟨trimmed, isTrimmed⟩ := trim_of_first visible blanks blank body
  have noFirst : dropFirstPipe (mark :: trimmed) = mark :: trimmed := by
    rcases isMark with rfl | rfl <;> rfl
  obtain ⟨row, isRow⟩ := dropLastPipe_of_first noPipe trimmed
  obtain ⟨others, cells, isCut⟩ := cutAtPipes_of_cell [mark] row
  obtain ⟨cell, isCell⟩ : ∃ cell, trim (mark :: others) = mark :: cell :=
    trim_of_first visible [] (List.forall_mem_nil _) others
  have first : cutAtPipes [] (mark :: row) = (mark :: others) :: cells := by
    rw [cutAtPipes_other noPipe fun escaped => absurd escaped unescaped, isCut]
    rfl
  have noDashes : isDelimiterCell (String.ofList (mark :: cell)) = false := by
    unfold isDelimiterCell
    rw [String.toList_ofList]
    have sameLength :
        decide ((mark :: cell).length > (mark :: cell).length) = false :=
      decide_eq_false (Nat.lt_irrefl _)
    rcases isMark with rfl | rfl <;>
      exact (congrArg (· && _) sameLength).trans (Bool.false_and _)
  rw [isDelimiter, cellsOfLine, isTrimmed, noFirst, isRow, first, List.map_cons,
    List.all_cons, isCell, noDashes, Bool.false_and, Bool.and_false]

/-! ## Steps of the scanner -/

theorem markAfter_of_other
    {mark : Char}
    (other : fence? line ≠ some mark) :
    markAfter (some mark) line = some mark := by
  unfold markAfter
  cases isFence : fence? line with
  | none => rfl
  | some seen => exact if_neg fun same => other (isFence.trans (congrArg some same))

variable {scan after : Scan} {number : Nat}

/-- The scanner has the same block open, and the lines that it is going to pass
over are no fences. -/
structure Tracks
    (block : Option Fence)
    (scan : Scan)
    (before : List (List Char)) : Prop where
  mark : scan.fence = block.map Fence.mark
  within : scan.skip ≤ before.length
  rows : ∀ row ∈ before.take scan.skip, fence? row = none

/-- A line with a fence and without a pipe. -/
structure IsFence (line : List Char) : Prop where
  noRow : isTableLine line = false
  isFence : fence? line ≠ none

/-- The scanner remembers the character of the open block as long as
it sees the fences. -/
theorem mark_blockAfter
    (seen : SeesFence block line) :
    markAfter (block.map Fence.mark) line =
      (blockAfter block line).map Fence.mark := by
  cases block with
  | none =>
      rw [blockAfter, ← seen.1]
      show markAfter none line = _
      unfold markAfter
      cases fence? line <;> rfl
  | some fence =>
      show markAfter (some fence.mark) line = _
      by_cases closes : fence.closedBy line = true
      · simp [blockAfter, closes, markAfter, fence?_of_closedBy closes]
      · rw [blockAfter, if_neg closes,
          markAfter_of_other fun isFence => closes (seen isFence)]
        rfl

/-- The rows of a table end before a fence. -/
theorem takeWhile_before_fence
    (isFence : IsFence opening)
    (body tail : List (List Char)) :
    (body ++ opening :: tail).takeWhile isTableLine =
      body.takeWhile isTableLine := by
  induction body with
  | nil => exact List.takeWhile_cons_of_neg (by simp [isFence.noRow])
  | cons row body inductionHypothesis =>
      rw [List.cons_append, List.takeWhile_cons, List.takeWhile_cons,
        inductionHypothesis]

/-- A line before a fence is scanned without regard to the lines after the fence. -/
theorem scanLine_before_fence
    (isFence : IsFence opening)
    (scan : Scan)
    (number : Nat)
    (line : List Char)
    (before inside inside' : List (List Char)) :
    scanLine scan number line (before ++ opening :: inside) =
      scanLine scan number line (before ++ opening :: inside') := by
  obtain ⟨mark, isMark⟩ := Option.ne_none_iff_exists'.mp isFence.isFence
  cases before with
  | nil =>
      have noTable : (isTableLine line && isDelimiter opening) = false := by
        rw [isDelimiter_of_fence isMark, Bool.and_false]
      simp only [scanLine, List.nil_append, noTable, Bool.false_eq_true, if_false]
  | cons delimiter body =>
      have rows (tail : List (List Char)) :
          (body ++ opening :: tail).takeWhile isTableLine =
          body.takeWhile isTableLine := takeWhile_before_fence isFence body tail
      simp only [scanLine, List.cons_append, rows]

/-- A line before a fence keeps track of the blocks: the lines of a table that
it reads are none of their fences, and they end before the fence. -/
theorem tracks_scanLine
    (isFence : IsFence opening)
    (tracks : Tracks block scan (line :: before))
    (seen : SeesFences block (line :: before))
    (scanned :
      scanLine scan number line (before ++ opening :: inside) = .ok after) :
    Tracks (blockAfter block line) after before := by
  obtain ⟨mark, isMark⟩ := Option.ne_none_iff_exists'.mp isFence.isFence
  rcases scanLine_eq_ok scanned with ⟨skips, rfl⟩ | ⟨noSkip, rfl⟩ |
    ⟨closed, noFence, delimiter, body, _, _, sheet, isRest, isDelimiter, -, rfl⟩
  · obtain ⟨skip, isSkip⟩ := Nat.exists_eq_succ_of_ne_zero (Nat.ne_of_gt skips)
    have within := tracks.within
    have rows := tracks.rows
    rw [isSkip] at within rows ⊢
    have noFence := rows line (by simp)
    refine ⟨?_, Nat.le_of_succ_le_succ within, fun row member => rows row ?_⟩
    · rw [blockAfter_of_no_fence noFence]
      exact tracks.mark
    · rw [List.take_succ_cons]
      exact List.mem_cons_of_mem _ member
  · refine ⟨?_, ?_, ?_⟩
    · show markAfter scan.fence line = _
      rw [tracks.mark, mark_blockAfter seen.1]
    · show scan.skip ≤ _
      omega
    · show ∀ row ∈ before.take scan.skip, _
      rw [noSkip]
      exact nofun
  · have outside : block = none := by
      have isMark := tracks.mark
      rw [closed] at isMark
      exact Option.map_eq_none_iff.mp isMark.symm
    subst outside
    have stays : blockAfter none line = none := blockAfter_of_no_fence noFence
    have later := seen.2
    rw [stays] at later ⊢
    cases before with
    | nil =>
        rw [List.nil_append] at isRest
        rw [← (List.cons.inj isRest).1, isDelimiter_of_fence isMark] at isDelimiter
        cases isDelimiter
    | cons other lines =>
        rw [List.cons_append] at isRest
        obtain ⟨rfl, rfl⟩ := List.cons.inj isRest
        have noOther : fence? other = none := by
          refine Option.eq_none_iff_forall_ne_some.mpr fun mark isFence => ?_
          rw [isDelimiter_of_fence isFence] at isDelimiter
          cases isDelimiter
        have rows := later.2
        rw [blockAfter_of_no_fence noOther] at rows
        have isTaken :=
          List.prefix_iff_eq_take.mp
            (List.takeWhile_prefix (l := lines) isTableLine)
        refine ⟨closed, ?_, ?_⟩
        · show ((lines ++ opening :: inside).takeWhile isTableLine).length + 1 ≤ _
          rw [takeWhile_before_fence isFence]
          exact Nat.succ_le_succ (List.takeWhile_prefix _).length_le
        · show ∀ row ∈ (other :: lines).take
            (((lines ++ opening :: inside).takeWhile isTableLine).length + 1), _
          rw [takeWhile_before_fence isFence, List.take_succ_cons, ← isTaken]
          exact List.forall_mem_cons.mpr ⟨noOther, fence?_of_row rows⟩

/-- Lines before a fence are scanned without regard to the lines after the
fence, as long as these leave a scan that begins at the fence as it is. -/
theorem scanLines_before_fence
    {inside inside' : List (List Char)}
    (isFence : IsFence opening)
    (tracks : Tracks block scan before)
    (seen : SeesFences block before)
    (outside : blockAfterLines block before = none)
    (same : ∀ sheets number,
      scanLines ⟨none, 0, sheets⟩ number (opening :: inside) =
        scanLines ⟨none, 0, sheets⟩ number (opening :: inside'))
    (number : Nat) :
    scanLines scan number (before ++ opening :: inside) =
      scanLines scan number (before ++ opening :: inside') := by
  induction before generalizing block scan number with
  | nil =>
      obtain ⟨opened, skip, sheets⟩ := scan
      cases show block = none from outside
      cases show opened = none from tracks.mark
      cases Nat.le_zero.mp tracks.within
      exact same sheets number
  | cons line before inductionHypothesis =>
      rw [List.cons_append, List.cons_append, scanLines, scanLines,
        scanLine_before_fence isFence scan number line before inside inside']
      cases scanned : scanLine scan number line (before ++ opening :: inside') with
      | error failure => rfl
      | ok after =>
          exact inductionHypothesis (tracks_scanLine isFence tracks seen scanned)
            seen.2 outside (number + 1)

/-- Inside of a block a line is looked at for a fence only. -/
theorem scanLine_inside
    (mark : Char)
    (sheets : List Sheet)
    (number : Nat)
    (line : List Char)
    (rest : List (List Char)) :
    scanLine ⟨some mark, 0, sheets⟩ number line rest =
      .ok ⟨markAfter (some mark) line, 0, sheets⟩ := by
  unfold scanLine markAfter
  cases fence? line <;> rfl

/-- Inside of a block lines that are no fences of its character are passed over. -/
theorem scanLines_inside
    {mark : Char}
    (others : ∀ line ∈ inside, fence? line ≠ some mark)
    (sheets : List Sheet)
    (number : Nat)
    (rest : List (List Char)) :
    scanLines ⟨some mark, 0, sheets⟩ number (inside ++ rest) =
      scanLines ⟨some mark, 0, sheets⟩ (number + inside.length) rest := by
  induction inside generalizing number with
  | nil => rfl
  | cons line inside inductionHypothesis =>
      obtain ⟨other, later⟩ := List.forall_mem_cons.mp others
      have passes : scanLine ⟨some mark, 0, sheets⟩ number line (inside ++ rest) =
          .ok ⟨some mark, 0, sheets⟩ := by
        rw [scanLine_inside, markAfter_of_other other]
      rw [List.cons_append, scanLines, passes]
      show scanLines _ (number + 1) (inside ++ rest) = _
      rw [inductionHypothesis later, List.length_cons, Nat.add_assoc,
        Nat.add_comm 1]

/-- Lines that the scanner sees where they are, none of which closes the block,
are no fences of its character. -/
theorem fence?_of_inside
    (seen : SeesFences (some fence) inside)
    (stays : ∀ line ∈ inside, fence.closedBy line = false) :
    ∀ line ∈ inside, fence? line ≠ some fence.mark := by
  induction inside with
  | nil => exact nofun
  | cons line inside inductionHypothesis =>
      obtain ⟨noEnd, later⟩ := List.forall_mem_cons.mp stays
      have isOpen : blockAfter (some fence) line = some fence := by
        rw [blockAfter, noEnd, if_neg Bool.false_ne_true]
      have seenLater := seen.2
      rw [isOpen] at seenLater
      refine List.forall_mem_cons.mpr ⟨fun isFence => ?_,
        inductionHypothesis seenLater later⟩
      rw [seen.1 isFence] at noEnd
      cases noEnd

/-- Lines inside of a block, as many as before, make no difference to the sheets
of a document or to the error that it is refused with, if the scanner sees the
fences of both documents where they are as far as these lines. -/
theorem readMarkdown_inside_block
    {text text' : String}
    {inside' : List (List Char)}
    (lines : splitLines text.toList = before ++ opening :: (inside ++ rest))
    (lines' : splitLines text'.toList = before ++ opening :: (inside' ++ rest))
    (length : inside.length = inside'.length)
    (outside : blockAfterLines none before = none)
    (opens : openingFence? opening = some fence)
    (stays : ∀ line ∈ inside, fence.closedBy line = false)
    (stays' : ∀ line ∈ inside', fence.closedBy line = false)
    (seen : SeesFences none (before ++ opening :: inside))
    (seen' : SeesFences none (before ++ opening :: inside')) :
    readMarkdown text = readMarkdown text' := by
  obtain ⟨seenBefore, seenOpening, seenInside⟩ := seesFences_append.mp seen
  obtain ⟨-, -, seenInside'⟩ := seesFences_append.mp seen'
  have isOpen : blockAfter (blockAfterLines none before) opening = some fence := by
    rw [outside]
    exact opens
  rw [isOpen] at seenInside seenInside'
  rw [outside] at seenOpening
  have isMark := fence?_of_opening opens
  have isFence : IsFence opening := by
    refine ⟨Bool.eq_false_iff.mpr fun isRow => ?_, fun noFence => ?_⟩
    · cases isMark.symm.trans (seenOpening.2 isRow)
    · cases isMark.symm.trans noFence
  have passes {inner : List (List Char)} (seen : SeesFences (some fence) inner)
      (stays : ∀ line ∈ inner, fence.closedBy line = false) (sheets : List Sheet)
      (number : Nat) :
      scanLines ⟨none, 0, sheets⟩ number (opening :: (inner ++ rest)) =
        scanLines ⟨some fence.mark, 0, sheets⟩ (number + 1 + inner.length)
          rest := by
    have starts : scanLine ⟨none, 0, sheets⟩ number opening (inner ++ rest) =
        .ok ⟨some fence.mark, 0, sheets⟩ := by
      unfold scanLine
      rw [isMark]
      rfl
    rw [scanLines, starts]
    exact scanLines_inside (fence?_of_inside seen stays) sheets (number + 1) rest
  have tracks : Tracks none ⟨none, 0, []⟩ before :=
    ⟨rfl, Nat.zero_le _, List.forall_mem_nil _⟩
  have same : scanLines ⟨none, 0, []⟩ 1 (before ++ opening :: (inside ++ rest)) =
      scanLines ⟨none, 0, []⟩ 1 (before ++ opening :: (inside' ++ rest)) := by
    refine scanLines_before_fence isFence tracks seenBefore outside
      (fun sheets number => ?_) 1
    rw [passes seenInside stays, passes seenInside' stays', length]
  rw [readMarkdown, readMarkdown, lines, lines', same]

/-- A block of tildes between two tables, with a table or with
backticks inside of it. -/
theorem readMarkdown_inside_block_tildes :
    readMarkdown "| a |\n|---|\n~~~ sql\n| b |\n|---|\n~~~~\n| c |\n|---|\n" =
        readMarkdown
          "| a |\n|---|\n~~~ sql\n\x60\x60\x60\nselect b\n~~~~\n| c |\n|---|\n" ∧
      (readMarkdown "| a |\n|---|\n~~~ sql\n| b |\n|---|\n~~~~\n| c |\n|---|\n").map
          (·.map Sheet.columnNames) =
        .ok [["a"], ["c"]] := by
  have lines :
      splitLines
          "| a |\n|---|\n~~~ sql\n| b |\n|---|\n~~~~\n| c |\n|---|\n".toList =
        ["| a |".toList, "|---|".toList] ++ "~~~ sql".toList ::
          (["| b |".toList, "|---|".toList] ++
            ["~~~~".toList, "| c |".toList, "|---|".toList]) := by
    decide +kernel
  have lines' : splitLines
      "| a |\n|---|\n~~~ sql\n\x60\x60\x60\nselect b\n~~~~\n| c |\n|---|\n".toList =
        ["| a |".toList, "|---|".toList] ++ "~~~ sql".toList ::
          (["\x60\x60\x60".toList, "select b".toList] ++
            ["~~~~".toList, "| c |".toList, "|---|".toList]) := by
    decide +kernel
  have opens : openingFence? "~~~ sql".toList = some ⟨'~', 3⟩ := by decide +kernel
  refine ⟨readMarkdown_inside_block lines lines' rfl ?_ opens ?_ ?_ ?_ ?_, ?_⟩ <;>
    decide +kernel

/-- A shorter run inside of a block ends it for the scanner, which reads the
table behind the run. -/
theorem readMarkdown_of_shorter_run :
    let fence : Fence := ⟨'\x60', 4⟩
    let inside := ["\x60\x60\x60".toList, "| a |".toList, "|---|".toList]
    let inside' := ["x".toList, "x".toList, "x".toList]
    openingFence? "\x60\x60\x60\x60".toList = some fence ∧
      fence.closedBy "\x60\x60\x60\x60".toList = true ∧
      (∀ line ∈ inside ++ inside', fence.closedBy line = false) ∧
      splitLines
        "\x60\x60\x60\x60\n\x60\x60\x60\n| a |\n|---|\n\x60\x60\x60\x60\n".toList =
        "\x60\x60\x60\x60".toList :: (inside ++ ["\x60\x60\x60\x60".toList]) ∧
      splitLines "\x60\x60\x60\x60\nx\nx\nx\n\x60\x60\x60\x60\n".toList =
        "\x60\x60\x60\x60".toList :: (inside' ++ ["\x60\x60\x60\x60".toList]) ∧
      (readMarkdown
        "\x60\x60\x60\x60\n\x60\x60\x60\n| a |\n|---|\n\x60\x60\x60\x60\n").map
          (·.map Sheet.name) = .ok ["Table1"] ∧
      (readMarkdown "\x60\x60\x60\x60\nx\nx\nx\n\x60\x60\x60\x60\n").map
          (·.map Sheet.name) =
        .error .noTables := by
  refine ⟨?_, ?_, ?_, ?_, ?_, ?_, ?_⟩ <;> decide +kernel

end GridScript.Table
