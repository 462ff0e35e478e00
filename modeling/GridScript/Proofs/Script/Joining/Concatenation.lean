import GridScript.Proofs.Script.Joining.Runs
import GridScript.Proofs.Script.Joining.Building
import GridScript.Proofs.Script.Layout.Reading

namespace GridScript.Script

/-!
# Concatenated programs

A program after another one adds its statements to those of the first one,
unless it begins with a word that closes a block. At the start of a text such a
word is a name, but after a statement it is a keyword, so the second program is
then no program any more.

A blank line or a line with a comment does not change the program, wherever it
is put between lines: only the lines of the nodes after it change.
-/

open GridScript.Parsing
open Table

variable {c c' : Configuration Terminal Phrase PhraseFailure}

/-- A parser that has read the end of the text. -/
def atFinish
    (c : Configuration Terminal Phrase PhraseFailure) :
    Configuration Terminal Phrase PhraseFailure :=
  { c with ahead := some (language.finishToken c.last), rest := [] }

/-- A step is a run. -/
theorem exists_run_of_steps
    {steps fuel : Nat}
    {result : Except PhraseFailure Phrase}
    (toEnd : Language.Steps language steps c c')
    (ran : language.run fuel c' = .accepted result) :
    ∃ fuel, language.run fuel c = .accepted result :=
  ⟨steps + fuel, (toEnd.run_eq fuel).trans ran⟩

/-- The rest of a run after some of its steps. -/
theorem exists_run_after_steps
    {steps fuel : Nat}
    {result : Except PhraseFailure Phrase}
    (toEnd : Language.Steps language steps c c')
    (ran : language.run fuel c = .accepted result) :
    language.run fuel c' = .accepted result := by
  rw [← toEnd.run_eq, Nat.add_comm]
  exact Language.run_add ran steps

theorem finish_mem_followers : Terminal.finish ∈ followers := by
  decide

/-- A text that ends after the statements before is their program. -/
theorem run_ended
    {phrase : Except PhraseFailure Phrase}
    (base : Base c.stack phrase)
    (unread : c.ahead = none)
    (ended : nextScan c = .finished)
    (fuel : Nat) :
    language.run (fuel + 3) c =
      .accepted (do return .statements (← phrase).statementList) := by
  have atEnd :
      language.run (fuel + 3) c = language.run (fuel + 2) (atFinish c) := by
    rw [Language.run, step_finished unread ended]
    rfl
  rw [atEnd]
  exact base.run_finish (c := atFinish c) rfl rfl rfl fuel

/-! ## The start of a text -/

/-- A parser that has passed over the blank lines and comment lines at
the start of a text. -/
structure Opened
    (text : List Char)
    (c : Configuration Terminal Phrase PhraseFailure) : Prop where
  base : Base c.stack (.ok (.statements []))
  top : Language.top c.stack = 0 ∨ Language.top c.stack = 2
  unread : c.ahead = none
  rest : c.rest = text.drop (afterBreak text)
  line : c.place.line = 1 + (text.take (afterBreak text)).count '\n'

theorem wants_newline : language.wants 0 .newline = true :=
  (ground_wants_iff (by decide) _).mpr (.inr (.inr ⟨rfl, rfl⟩))

/-- At the start of a text, a line break is pushed. -/
theorem action_newline : language.action? 0 .newline = some (.shift 2) := by
  rw [← Language.actionAt?_eq row_eq]
  decide +kernel

/-- Blank lines at the start of a text are a line break. -/
theorem opened_of_broken
    {text : List Char}
    (broken : '\n' ∈ text.take (afterBreak text)) :
    ∃ c, Language.Steps language 2 (Language.initial text) c ∧ Opened text c := by
  obtain ⟨token, scan, isBreak⟩ := scan_break broken wants_newline .start
  have conserved := (Lexicon.stands_of_scanFrom scan).line_add_count
  have split := count_take_add_count_drop text (afterBreak text)
  have read : language.step (Language.initial text) =
      .next ⟨[], some token, none, token.place.advance token.text,
        text.drop (afterBreak text)⟩ :=
    step_token (c := Language.initial text) rfl scan
  have used : language.step
      ⟨[], some token, none, token.place.advance token.text,
        text.drop (afterBreak text)⟩ =
      .next ⟨[⟨2, .ok (.token token)⟩], none, some token,
        token.place.advance token.text, text.drop (afterBreak text)⟩ := by
    simp only [Language.step, Language.use, Language.top, isBreak, action_newline]
    rfl
  refine ⟨_, .next read (.next used (.none _)), .led token, .inr rfl, rfl, rfl, ?_⟩
  have isStart : Place.start.line = 1 := rfl
  dsimp only at conserved ⊢
  omega

/-- A run of a text goes on after its blank lines and comment lines. -/
theorem opened_of_run
    {text : List Char}
    {fuel : Nat}
    {part : Phrase}
    (ran : language.run fuel (Language.initial text) = .accepted (.ok part)) :
    ∃ c fuel', Opened text c ∧ language.run fuel' c = .accepted (.ok part) := by
  by_cases broken : '\n' ∈ text.take (afterBreak text)
  · obtain ⟨c, steps, opened⟩ := opened_of_broken broken
    refine ⟨c, fuel, opened, ?_⟩
    rw [← steps.run_eq, Nat.add_comm]
    exact Language.run_add ran 2
  · let c : Configuration Terminal Phrase PhraseFailure :=
      ⟨[], none, none, Place.start.advance (text.take (afterBreak text)),
        text.drop (afterBreak text)⟩
    have opened : Opened text c :=
      ⟨.start, .inl rfl, rfl, rfl, Place.line_advance _ _⟩
    have sameScan : nextScan (Language.initial text) = nextScan c :=
      scan_skip broken _ _
    cases fuel with
    | zero =>
        cases ran
    | succ fuel =>
        cases scan : nextScan c with
        | token token rest =>
            have read : language.step (Language.initial text) = language.step c :=
              (step_token rfl (sameScan.trans scan)).trans
                (step_token rfl scan).symm
            refine ⟨c, fuel + 1, opened, ?_⟩
            rwa [Language.run, ← read]
        | finished =>
            have program := Language.run_add ran 3
            rw [run_ended .start rfl (sameScan.trans scan)] at program
            refine ⟨c, 3, opened, ?_⟩
            rw [← program]
            exact run_ended .start rfl scan 0
        | stuck place left =>
            exact absurd (sameScan.trans scan)
              (nextScan_ne_stuck rfl ran place left)

/-! ## The end of a text -/

variable {p q : List Char}

/-- Two parsers at the start of their texts. -/
theorem Grounds.start {move : Nat → Nat} :
    Grounds move [] [] [] (.ok (.statements [])) (.ok (.statements [])) where
  base := .start
  base' := .start
  started _ := rfl
  agrees := by
    rintro _ ⟨⟩
    exact ⟨[], rfl, rfl⟩
  nonempty notStart := absurd rfl notStart

/-- Parsers of the same whole lines before two texts take the same steps up to
the end of these lines. -/
theorem crossed_of_run
    {move : Nat → Nat}
    {tail : List Char}
    {fuel : Nat}
    {result : Except PhraseFailure Phrase}
    (closed : Closed p)
    (nonempty : p ≠ [])
    (still : ∀ l < 1 + p.count '\n', move l = l)
    (ran : language.run fuel (Language.initial (p ++ tail)) = .accepted result)
    (tail' : List Char) :
    ∃ steps left d d',
      Language.Steps language steps (Language.initial (p ++ tail')) d' ∧
        language.run left d = .accepted result ∧
          Crossed move tail tail' (1 + p.count '\n') d d' := by
  have beside :
      Beside move tail tail' (1 + p.count '\n') (Language.initial (p ++ tail))
      (Language.initial (p ++ tail')) :=
    ⟨.within .start .nil nofun, fun _ => rfl, .none, nofun,
      .before p closed nonempty rfl rfl rfl rfl⟩
  obtain ⟨steps, left, d, d', -, toEnd', ran', crossed⟩ := beside.run still ran
  exact ⟨steps, left, d, d', toEnd', ran', crossed⟩

/-- A run of a text is one with nothing after the text. -/
theorem run_append_nil
    {fuel : Nat}
    {result : Except PhraseFailure Phrase}
    (ran : language.run fuel (Language.initial p) = .accepted result) :
    language.run fuel (Language.initial (p ++ [])) = .accepted result := by
  rwa [List.append_nil]

namespace Crossed

variable {line : Nat} {d d' : Configuration Terminal Phrase PhraseFailure}

/-- After a line break, the parser is at the start of the text or
within a statement. -/
theorem top_eq
    (crossed : Crossed id [] q line d d') :
    Language.top d.stack = 2 ∨ IsInner (Language.top d.stack) := by
  obtain ⟨state, shifts⟩ := crossed.broken
  obtain ⟨isPast, notStart, notAccepting, -⟩ := traced_language.shifts shifts
  by_cases isLed : Language.top d.stack = 2
  · exact .inl isLed
  refine .inr ?_
  simp only [IsInner, groundStates, List.mem_cons, List.not_mem_nil, or_false,
    not_or]
  refine ⟨notAccepting, notStart, isLed, ?_, ?_⟩
  · intro isFilled
    rw [isFilled] at isPast
    cases (List.cons_prefix_cons.mp isPast).1
  · intro isFilled
    rw [isFilled] at isPast
    cases (List.cons_prefix_cons.mp isPast).1

theorem joined_finish
    (crossed : Crossed id [] q line d d')
    {fuel : Nat}
    {result : Except PhraseFailure Phrase}
    (ran : language.run fuel d = .accepted result) :
    ∃ left, language.run left (atFinish d) = .accepted result := by
  cases fuel with
  | zero =>
      cases ran
  | succ fuel =>
      have ended : nextScan d = .finished := by
        rw [nextScan, crossed.rest, List.drop_nil]
        rfl
      exact ⟨fuel, step_of_run ran (step_finished crossed.unread ended)⟩

/-- Where the first text ends, the parser of both texts goes on with a token
that can follow a statement, after the statements of the first text. -/
theorem follow
    (crossed : Crossed id [] q line d d')
    {fuel : Nat}
    {body : List Statement}
    (ran : language.run fuel d = .accepted (.ok (.statements body)))
    {e : Configuration Terminal Phrase PhraseFailure}
    {token : Token Terminal}
    (stack : e.stack = d'.stack)
    (ahead : e.ahead = some token)
    (follower : token.kind ∈ followers) :
    ∃ steps after,
      Language.Steps language steps e { e with stack := after } ∧ after ≠ [] ∧
        Base after (.ok (.statements body)) ∧
          (Language.top d.stack ≠ 2 → body ≠ []) := by
  obtain ⟨left, ran⟩ := crossed.joined_finish ran
  have joined := crossed.joined
  rw [← stack] at joined
  obtain ⟨steps, after, statements, toEnd, started, isPart, base, some⟩ :=
    joined.descend (c := atFinish d) crossed.nonempty rfl rfl ahead follower ran
  cases isPart
  rw [← Statement.mapLinesOfAll_eq, Statement.mapLinesOfAll_id, List.nil_append]
    at base
  obtain ⟨state, shifts⟩ := crossed.broken
  exact ⟨steps, after, toEnd, started, base,
    some (traced_language.shifts shifts).2.1⟩

/-- Within a statement, the parser wants what can follow one. -/
theorem wants_eq
    (crossed : Crossed id [] q line d d')
    {fuel : Nat}
    {result : Except PhraseFailure Phrase}
    (ran : language.run fuel d = .accepted result)
    (notLed : Language.top d.stack ≠ 2) :
    language.wants (Language.top d'.stack) =
      fun kind => followers.contains kind := by
  have inner := crossed.top_eq.resolve_left notLed
  rw [crossed.joined.wants_eq fun isNil => absurd isNil crossed.nonempty]
  obtain ⟨left, ran⟩ := crossed.joined_finish ran
  cases left with
  | zero =>
      cases ran
  | succ left =>
      obtain ⟨rule, reduces⟩ :=
        reduces_of_run (c := atFinish d) crossed.joined rfl rfl ran
      funext kind
      rw [Language.wants, inner.action_of_finish reduces]
      split <;> simp_all

/-- Within a statement, there are statements before the line break. -/
theorem ne_nil
    (crossed : Crossed id [] q line d d')
    {fuel : Nat}
    {body : List Statement}
    (ran : language.run fuel d = .accepted (.ok (.statements body)))
    (notLed : Language.top d.stack ≠ 2) :
    body ≠ [] := by
  obtain ⟨_, _, -, -, -, some⟩ :=
    crossed.follow (e := atFinish d') ran rfl rfl finish_mem_followers
  exact some notLed

/-- After a line break at the start of the text, there are no statements. -/
theorem eq_nil
    (crossed : Crossed id [] q line d d')
    {fuel : Nat}
    {body : List Statement}
    (ran : language.run fuel d = .accepted (.ok (.statements body)))
    (isLed : Language.top d.stack = 2) :
    body = [] := by
  obtain ⟨left, ran⟩ := crossed.joined_finish ran
  have ground : Language.top d.stack ∈ groundStates := by
    rw [isLed]
    decide
  obtain ⟨phrase, phrase', grounds⟩ := crossed.joined.grounds ground
  have grounds' : Grounds id [] (atFinish d).stack d'.stack phrase phrase' :=
    grounds
  obtain ⟨statements, isPart, isPhrase, -⟩ := grounds'.phrase_of_run rfl rfl ran
  cases isPart
  have base := grounds.base
  generalize d.stack = stack at base isLed
  cases base with
  | start =>
      cases isLed
  | led =>
      cases isPhrase
      rfl
  | filled =>
      cases isLed
  | ledFilled =>
      cases isLed

/-- The first token of the second text is the same after the first text, if that
has no statements or the token closes no block. -/
theorem first?_eq
    (crossed : Crossed id [] q line d d')
    {fuel state : Nat}
    {body : List Statement}
    (ran : language.run fuel d = .accepted (.ok (.statements body)))
    {text : List Char}
    (stops : afterBreak text = 0)
    (opens : body = [] ∨ ¬Closes text)
    (ground : state ∈ groundStates) :
    lexicon.first? (language.wants (Language.top d'.stack)) text =
      lexicon.first? (language.wants state) text := by
  by_cases isLed : Language.top d.stack = 2
  · rw [crossed.joined.wants_eq fun isNil => absurd isNil crossed.nonempty, isLed]
    exact first?_ground_eq (by decide) ground stops
  · rw [crossed.wants_eq ran isLed]
    exact (first?_ground ground stops
      (opens.resolve_left (crossed.ne_nil ran isLed))).symm

/-- From its first token on, the second text is read as it is read alone, and
its statements are added to those of the first one. -/
theorem go_on_token
    (crossed : Crossed id [] q line d d')
    {fuel left : Nat}
    {first second : List Statement}
    {move : Nat → Nat}
    {token token' : Token Terminal}
    {rest : List Char}
    (ran : language.run fuel d = .accepted (.ok (.statements first)))
    (opened : Opened q c)
    (ran' : language.run (left + 1) c = .accepted (.ok (.statements second)))
    (scan : nextScan c = .token token rest)
    (scan' : nextScan d' = .token token' rest)
    (moves : TokenMoves move token token')
    (opener : token.kind ∈ openers)
    (later : ∀ n, move ((token.place.advance token.text).line + n) =
      (token'.place.advance token'.text).line + n) :
    ∃ fuel, language.run fuel d' =
      .accepted
        (.ok (.statements (first ++ second.map (Statement.mapLines move)))) := by
  let e : Configuration Terminal Phrase PhraseFailure :=
    { d' with
      ahead := some token', place := token'.place.advance token'.text, rest :=
      rest }
  have follower : token'.kind ∈ followers := by
    rw [moves.kind]
    exact List.mem_append_left _ (List.mem_append_left _ opener)
  have notBreak : token.kind ≠ .newline := by
    intro isBreak
    rw [isBreak] at opener
    exact absurd opener (by decide)
  obtain ⟨steps, after, toEnd, started, base, -⟩ :=
    crossed.follow (e := e) ran rfl rfl follower
  have grounds :
      Grounds move first c.stack after (.ok (.statements []))
        (.ok (.statements first)) := by
    refine ⟨opened.base, base, fun isNil => absurd isNil started, ?_,
      fun notStart notLed => ?_⟩
    · rintro _ ⟨⟩
      exact ⟨[], rfl, by rw [List.map_nil, List.append_nil]⟩
    · exact absurd opened.top (not_or.mpr ⟨notStart, notLed⟩)
  have abreast : Abreast move first
      { c with
        ahead := some token, place := token.place.advance token.text, rest := rest }
      { e with stack := after } :=
    ⟨.within grounds .nil nofun, fun _ => .inr ⟨token, rfl, notBreak⟩,
      .some ⟨moves.kind, fun _ => moves⟩, rfl, later⟩
  obtain ⟨body, isPart, more, whole⟩ :=
    abreast.run (step_of_run ran' (step_token opened.unread scan))
  cases isPart
  have toStart : Language.Steps language (1 + steps) d' { e with stack := after } :=
    .trans (.next (step_token crossed.unread' scan') (.none _)) toEnd
  exact exists_run_of_steps toStart whole

/-- The statements of the second text are added to those of the first one. -/
theorem go_on
    (crossed : Crossed id [] q line d d')
    {fuel left : Nat}
    {first second : List Statement}
    {move : Nat → Nat}
    (ran : language.run fuel d = .accepted (.ok (.statements first)))
    (opened : Opened q c)
    (ran' : language.run left c = .accepted (.ok (.statements second)))
    (opens : first = [] ∨ ¬Closes (q.drop (afterBreak q)))
    (moves : ∀ n, move (1 + n) = line + n) :
    ∃ fuel, language.run fuel d' =
      .accepted
        (.ok (.statements (first ++ second.map (Statement.mapLines move)))) := by
  have stops := afterBreak_drop q
  by_cases isNil : q.drop (afterBreak q) = []
  · have ended : nextScan c = .finished := by
      rw [nextScan, opened.rest, isNil]
      rfl
    have ended' : nextScan d' = .finished := by
      rw [nextScan, crossed.rest', isNil]
      rfl
    have program := Language.run_add ran' 3
    rw [run_ended opened.base opened.unread ended] at program
    obtain rfl : [] = second := by
      cases program
      rfl
    obtain ⟨steps, after, toEnd, -, base, -⟩ :=
      crossed.follow (e := atFinish d') ran rfl rfl finish_mem_followers
    have finished :=
      base.run_finish (c := { atFinish d' with stack := after }) rfl rfl rfl 0
    have toFinish :
        Language.Steps language (1 + steps) d'
          { atFinish d' with stack := after } :=
      .trans (.next (step_finished crossed.unread' ended') (.none _)) toEnd
    refine exists_run_of_steps toFinish (finished.trans ?_)
    rw [List.map_nil, List.append_nil]
    rfl
  · cases left with
    | zero =>
        cases ran'
    | succ left =>
        have ground := opened.base.top_mem
        have reads (state : Nat) (place : Place) :=
          scan_of_afterBreak stops isNil (language.wants state) place
        cases first : lexicon.first? (language.wants (Language.top c.stack))
            (q.drop (afterBreak q)) with
        | none =>
            have stuck : nextScan c = .stuck c.place (q.drop (afterBreak q)) := by
              rw [nextScan, opened.rest]
              exact (reads _ _).trans (by rw [first])
            exact absurd stuck (nextScan_ne_stuck opened.unread ran' _ _)
        | some found =>
            obtain ⟨kind, length⟩ := found
            have opener := opener_of_first? ground stops first
            have scan :
                nextScan c =
                  .token ⟨kind, (q.drop (afterBreak q)).take length, c.place⟩
                ((q.drop (afterBreak q)).drop length) := by
              rw [nextScan, opened.rest]
              exact (reads _ _).trans (by rw [first])
            have scan' : nextScan d' =
                .token ⟨kind, (q.drop (afterBreak q)).take length, d'.place⟩
                  ((q.drop (afterBreak q)).drop length) := by
              rw [nextScan, crossed.rest']
              exact (reads _ _).trans
                (by rw [crossed.first?_eq ran stops opens ground, first])
            have moved (n : Nat) : move (c.place.line + n) = d'.place.line + n := by
              rw [opened.line, crossed.isLine', Nat.add_assoc, moves, Nat.add_assoc]
            refine crossed.go_on_token ran opened ran' scan scan'
              ⟨rfl, fun _ => rfl, fun _ => (moved 0).symm⟩ opener fun n => ?_
            rw [Place.line_advance, Place.line_advance, Nat.add_assoc, moved,
              Nat.add_assoc]

/-- A closing word after statements ends the run. -/
theorem not_go_on
    (crossed : Crossed id [] q line d d')
    {fuel left : Nat}
    {first : List Statement}
    {result : Except PhraseFailure Phrase}
    (ran : language.run fuel d = .accepted (.ok (.statements first)))
    (filled : first ≠ [])
    (closes : Closes (q.drop (afterBreak q))) :
    language.run left d' ≠ .accepted result := by
  intro ran'
  have stops := afterBreak_drop q
  have notLed : Language.top d.stack ≠ 2 :=
    fun isLed => filled (crossed.eq_nil ran isLed)
  obtain ⟨k, closer, length, first⟩ := first?_closes closes
  have scan' :
      nextScan d' =
        .token ⟨.keyword k, (q.drop (afterBreak q)).take length, d'.place⟩
      ((q.drop (afterBreak q)).drop length) := by
    rw [nextScan, crossed.rest', crossed.wants_eq ran notLed]
    refine (scan_of_afterBreak stops ?_ _ _).trans (by rw [first])
    intro isNil
    rw [isNil] at closes
    exact absurd closes (by decide)
  have follower : Terminal.keyword k ∈ followers := by
    simp [followers, closer]
  obtain ⟨steps, after, toEnd, -, base, -⟩ :=
    crossed.follow (e := { d' with
      ahead := some ⟨.keyword k, (q.drop (afterBreak q)).take length, d'.place⟩
      place := d'.place.advance ((q.drop (afterBreak q)).take length)
      rest := (q.drop (afterBreak q)).drop length }) ran rfl rfl follower
  have toStart :=
    Language.Steps.trans (.next (step_token crossed.unread' scan') (.none _)) toEnd
  have unwanted : language.action? (Language.top after) (.keyword k) = none := by
    have notWanted : language.wants (Language.top after) (.keyword k) ≠ true := by
      rw [ne_eq, ground_wants_iff base.top_mem]
      have notOpener : ∀ k ∈ closers, Terminal.keyword k ∉ openers := by
        decide
      simp [notOpener k closer]
    exact Option.isNone_iff_eq_none.mp (by simpa [Language.wants] using notWanted)
  have stops := exists_run_after_steps toStart ran'
  cases left with
  | zero =>
      cases stops
  | succ left =>
      simp only [Language.run, Language.step, Language.use, unwanted] at stops
      cases stops

end Crossed

/-! ## Two programs -/

section Append

variable {first second : List Statement} {move : Nat → Nat}
variable
  (closed : Closed p)
  (nonempty : p ≠ [])
  (parsed : language.parse p = .accepted (.ok (.statements first)))

include closed nonempty parsed

/-- A program that does not begin with a closing word adds its statements to
those of a program before it. -/
theorem parse_append
    (parsed' : language.parse q = .accepted (.ok (.statements second)))
    (opens : first = [] ∨ ¬Closes (q.drop (afterBreak q)))
    (moves : ∀ n, move (1 + n) = 1 + p.count '\n' + n) :
    language.parse (p ++ q) =
      .accepted
        (.ok (.statements (first ++ second.map (Statement.mapLines move)))) := by
  obtain ⟨steps, left, d, d', toEnd, ran, crossed⟩ :=
    crossed_of_run closed nonempty (fun _ _ => rfl) (run_append_nil parsed) q
  obtain ⟨c, left', opened, ran'⟩ := opened_of_run parsed'
  obtain ⟨_, whole⟩ := crossed.go_on ran opened ran' opens moves
  obtain ⟨_, whole⟩ := exists_run_of_steps toEnd whole
  exact parse_of_run whole

/-- A program that begins with a closing word is no program after statements. -/
theorem not_parse_append
    (filled : first ≠ [])
    (closes : Closes (q.drop (afterBreak q)))
    (result : Except PhraseFailure Phrase) :
    language.parse (p ++ q) ≠ .accepted result := by
  intro parsed'
  obtain ⟨steps, left, d, d', toEnd, ran, crossed⟩ :=
    crossed_of_run closed nonempty (fun _ _ => rfl) (run_append_nil parsed) q
  exact crossed.not_go_on ran filled closes (exists_run_after_steps toEnd parsed')

end Append

/-! ## Program texts -/

/-- What is read of a text is a list of statements. -/
theorem statements_of_parse
    {text : List Char}
    {part : Phrase}
    (parsed : language.parse text = .accepted (.ok part)) :
    ∃ body, part = .statements body := by
  have abreast : Abreast id [] (Language.initial text) (Language.initial text) :=
    ⟨.within .start .nil nofun, fun _ => .inl rfl, .none, rfl, fun _ => rfl⟩
  obtain ⟨body, isPart, -⟩ := abreast.run parsed
  exact ⟨body, isPart⟩

theorem parse_eq_ok_iff
    {text : String}
    {program : Program} :
    parse text = .ok program ↔
      language.parse (endLine text.toList) =
        .accepted (.ok (.statements program.statements)) := by
  unfold parse
  constructor
  · intro parsed
    split at parsed
    next phrase accepted =>
      obtain ⟨body, rfl⟩ := statements_of_parse accepted
      cases parsed
      exact accepted
    next =>
      cases parsed
    next =>
      cases parsed
    next =>
      cases parsed
  · intro accepted
    rw [accepted]
    rfl

/-- A text of whole lines is read as it is. -/
theorem endLine_of_ended
    {text : List Char}
    (ended : text.getLast? = some '\n') :
    endLine text = text :=
  if_pos ended

/-- A text begins, after its empty lines, with a word that ends a block
or a branch of one. -/
def BeginsClosing (text : String) : Prop :=
  Closes (text.toList.drop (afterBreak text.toList))

instance (text : String) : Decidable (BeginsClosing text) :=
  inferInstanceAs (Decidable (Closes _))

/-- Program texts concatenate: the statements of the second text are added to
those of the first one, as many lines further down as the first text has. This
fails for one kind of second text. It begins with a word that closes a block,
which is a name there but a keyword after a statement, so the two texts together
are no program if the first one has statements. -/
theorem parse_concatenation
    {p q : String}
    {first second : Program}
    (ended : p.toList.getLast? = some '\n')
    (ended' : q.toList.getLast? = some '\n')
    (parsed : parse p = .ok first)
    (parsed' : parse q = .ok second) :
    (first.statements = [] ∨ ¬BeginsClosing q →
      parse (p ++ q) =
        .ok ⟨first.statements ++ (second.mapLines (lineCount p + ·)).statements⟩) ∧
    (first.statements ≠ [] → BeginsClosing q → ∃ e, parse (p ++ q) = fail e) := by
  have closed : Closed p.toList := by
    intro c isLast
    rw [ended] at isLast
    exact (Option.some.inj isLast).symm
  have nonempty : p.toList ≠ [] := by
    intro isNil
    rw [isNil] at ended
    cases ended
  have whole : endLine (p ++ q).toList = p.toList ++ q.toList := by
    rw [String.toList_append]
    refine endLine_of_ended ?_
    rw [List.getLast?_append, ended']
    rfl
  rw [parse_eq_ok_iff, endLine_of_ended ended] at parsed
  rw [parse_eq_ok_iff, endLine_of_ended ended'] at parsed'
  constructor
  · intro opens
    rw [parse_eq_ok_iff, whole, lineCount, endLine_of_ended ended]
    exact parse_append closed nonempty parsed parsed' opens fun n => by omega
  · intro filled begins
    have none := not_parse_append closed nonempty parsed filled begins
    unfold parse
    rw [whole]
    cases result : language.parse (p.toList ++ q.toList) with
    | accepted phrase =>
        exact absurd result (none phrase)
    | rejected rejection =>
        exact ⟨_, rfl⟩
    | stopped =>
        exact ⟨_, rfl⟩

/-- An assignment after another one, and a comment between them. -/
theorem parse_concatenation_assignments :
    ∃ first second,
      parse "x = 1\n" = .ok first ∧ parse "' then\ny = x\n" = .ok second ∧
      parse ("x = 1\n" ++ "' then\ny = x\n") =
        .ok ⟨first.statements ++ (second.mapLines (1 + ·)).statements⟩ := by
  have read : (parse "x = 1\n").toOption.isSome = true := by
    decide +kernel
  have read' : (parse "' then\ny = x\n").toOption.isSome = true := by
    decide +kernel
  cases parsed : parse "x = 1\n" with
  | error failure =>
      rw [parsed] at read
      cases read
  | ok first =>
      cases parsed' : parse "' then\ny = x\n" with
      | error failure =>
          rw [parsed'] at read'
          cases read'
      | ok second =>
          exact ⟨first, second, rfl, rfl,
            (parse_concatenation rfl rfl parsed parsed').1 (.inr (by decide))⟩

/-- A program that assigns to a name `end` is none after a statement. -/
theorem end_is_no_name_after_statement :
    ("x = 1\n".toList.getLast? = some '\n' ∧
        (parse "x = 1\n").toOption.isSome = true) ∧
      ("end = 2\n".toList.getLast? = some '\n' ∧
          (parse "end = 2\n").toOption.isSome = true) ∧
        (parse ("x = 1\n" ++ "end = 2\n")).toOption.isSome = false := by
  decide +kernel

/-! ## Inserted lines -/

/-- The lines of a text after one line has been put before one of them. -/
def afterInsertion (line l : Nat) : Nat :=
  if l < line then l else l + 1

variable {before line after : List Char} {body : List Statement}

/-- An empty line is a program without statements. -/
theorem EmptyLine.parse_eq
    (empty : EmptyLine line) :
    language.parse line = .accepted (.ok (.statements [])) := by
  have passed : afterBreak line = line.length := by
    have whole := empty.afterBreak_append []
    rwa [List.append_nil] at whole
  have broken : '\n' ∈ line.take (afterBreak line) := by
    rw [passed, List.take_length]
    exact List.count_pos_iff.mp (by rw [empty.count_eq]; exact Nat.zero_lt_one)
  obtain ⟨c, steps, opened⟩ := opened_of_broken broken
  have ended : nextScan c = .finished := by
    rw [nextScan, opened.rest, passed, List.drop_length]
    rfl
  obtain ⟨_, whole⟩ :=
    exists_run_of_steps steps (run_ended opened.base opened.unread ended 0)
  exact parse_of_run whole

namespace Crossed

/-- After the same lines, a parser passes over an empty line with the
line break before it. -/
theorem abreast
    {n : Nat}
    (crossed : Crossed (afterInsertion n) after (line ++ after) n c c')
    (empty : EmptyLine line) :
    Abreast (afterInsertion n) [] c c' := by
  have passed := empty.afterBreak_append after
  refine ⟨crossed.joined, fun isNil => absurd isNil crossed.nonempty, ?_, ?_,
    fun m => ?_⟩
  · rw [crossed.unread, crossed.unread']
    exact .none
  · rw [crossed.rest, crossed.rest', passed, List.drop_length_add_append]
  · have isLine' := crossed.isLine'
    rw [passed, List.take_length_add_append, List.count_append, empty.count_eq]
      at isLine'
    have isLine := crossed.isLine
    rw [afterInsertion, if_neg (by omega)]
    omega

end Crossed

/-- Whole lines before an empty line are a program on the same lines, and those
after it are one on the lines below. -/
theorem parse_insert
    (closed : Closed before)
    (empty : EmptyLine line)
    (parsed :
      language.parse (before ++ after) = .accepted (.ok (.statements body))) :
    language.parse (before ++ (line ++ after)) =
      .accepted (.ok (.statements
        (body.map
          (Statement.mapLines (afterInsertion (1 + before.count '\n')))))) := by
  by_cases isStart : before = []
  · subst isStart
    have nonempty : line ≠ [] := by
      rintro rfl
      exact absurd empty.count_eq (by decide)
    refine parse_append empty.closed nonempty empty.parse_eq parsed (.inl rfl)
      fun n => ?_
    rw [empty.count_eq, afterInsertion, List.count_nil, if_neg (by omega)]
    omega
  · obtain ⟨steps, left, c, c', toEnd, ran, crossed⟩ :=
      crossed_of_run closed isStart (fun l isBefore => if_pos isBefore) parsed
        (line ++ after)
    obtain ⟨statements, isPart, _, whole⟩ := (crossed.abreast empty).run ran
    cases isPart
    obtain ⟨_, whole⟩ := exists_run_of_steps toEnd whole
    exact parse_of_run whole

/-! ## Lines put into a program text -/

/-- A line boundary of a text is at its start or after a line break. -/
def AtBoundary (before : String) : Prop :=
  before = "" ∨ before.toList.getLast? = some '\n'

instance (before : String) : Decidable (AtBoundary before) :=
  inferInstanceAs (Decidable (_ ∨ _))

theorem AtBoundary.closed
    {before : String}
    (atBoundary : AtBoundary before) :
    Closed before.toList := by
  intro c isLast
  rcases atBoundary with rfl | ended
  · cases isLast
  · rw [ended] at isLast
    exact (Option.some.inj isLast).symm

/-- A text is ended where its last part is. -/
theorem endLine_append
    (front : List Char)
    {back : List Char}
    (nonempty : back ≠ []) :
    endLine (front ++ back) = front ++ endLine back := by
  unfold endLine
  rw [List.getLast?_append_of_ne_nil front nonempty]
  split
  next =>
    rfl
  next =>
    exact List.append_assoc ..

/-- An empty line is ended. -/
theorem EmptyLine.endLine_append
    (empty : EmptyLine line)
    (front : List Char) :
    endLine (front ++ line) = front ++ line := by
  have nonempty : line ≠ [] := by
    rintro rfl
    exact absurd empty.count_eq (by decide)
  have ended := empty.closed _ (List.getLast?_eq_some_getLast nonempty)
  refine endLine_of_ended ?_
  rw [List.getLast?_append_of_ne_nil front nonempty,
    List.getLast?_eq_some_getLast nonempty, ended]

/-- A blank line or a line with a comment can be put at every line boundary of a
program text. The program is the same, with every node after the boundary one
line further down. -/
theorem parse_insertLine
    {before line after : String}
    {program : Program}
    (atBoundary : AtBoundary before)
    (empty : EmptyLine line.toList)
    (parsed : parse (before ++ after) = .ok program) :
    parse (before ++ line ++ after) =
      .ok (program.mapLines (afterInsertion (1 + before.toList.count '\n'))) := by
  rw [parse_eq_ok_iff, String.toList_append] at parsed
  rw [parse_eq_ok_iff, String.toList_append, String.toList_append,
    List.append_assoc]
  by_cases isEnd : after.toList = []
  · rw [isEnd, List.append_nil] at parsed ⊢
    rw [empty.endLine_append]
    have closed := atBoundary.closed
    rcases atBoundary with rfl | ended
    · have newline : EmptyLine ([] ++ ['\n']) :=
        .blank (fun _ member => by cases member) (.inl rfl)
      have noStatements : program.statements = [] :=
        Phrase.statements.inj (Except.ok.inj
          (Result.accepted.inj (parsed.symm.trans newline.parse_eq)))
      rw [Program.mapLines, noStatements]
      exact empty.parse_eq
    · rw [endLine_of_ended ended, ← List.append_nil before.toList] at parsed
      have inserted := parse_insert closed empty parsed
      rwa [List.append_nil] at inserted
  · rw [endLine_append _ isEnd] at parsed
    rw [endLine_append _ (List.append_ne_nil_of_right_ne_nil _ isEnd),
      endLine_append _ isEnd]
    exact parse_insert atBoundary.closed empty parsed

/-- A comment before the second line of a program. -/
theorem parse_insertLine_comment :
    ∃ program,
      parse ("x = 1\n" ++ "y = x") = .ok program ∧
      parse ("x = 1\n" ++ " // then\n" ++ "y = x") =
        .ok (program.mapLines (afterInsertion 2)) := by
  have read : (parse ("x = 1\n" ++ "y = x")).toOption.isSome = true := by
    decide +kernel
  cases parsed : parse ("x = 1\n" ++ "y = x") with
  | error failure =>
      rw [parsed] at read
      cases read
  | ok program =>
      have empty :
          EmptyLine ([' '] ++ (['/', '/'] ++ (" then".toList ++ ['\n']))) :=
        .comment (Text.forall_mem_of_all (by decide)) (.inr rfl) (by decide)
      exact ⟨program, rfl, parse_insertLine (by decide) empty parsed⟩

end GridScript.Script
