import GridScript.Proofs.Script.Joining.Opening
import GridScript.Proofs.Script.Joining.Stacks

namespace GridScript.Script

/-!
# Parsers side by side

Two parsers that read the same text from some point on, on other lines and over
different statements, take the same steps to the end. Two parsers that have read
the same whole lines and go on with different texts take the same steps up to
the line break at the end of these lines.
-/

open GridScript.Parsing
open Table

variable {move : Nat → Nat} {front : List Statement}
variable {c c' : Configuration Terminal Phrase PhraseFailure}

/-- A run that is accepted takes a step, or its last one. -/
theorem step_of_run
    {fuel : Nat}
    {result : Except PhraseFailure Phrase}
    (ran : language.run (fuel + 1) c = .accepted result)
    {d : Configuration Terminal Phrase PhraseFailure}
    (step : language.step c = .next d) :
    language.run fuel d = .accepted result := by
  rwa [Language.run, step] at ran

/-! ## Reading tokens -/

/-- What a parser without a token ahead finds in its text. -/
def nextScan (c : Configuration Terminal Phrase PhraseFailure) : Scan Terminal :=
  language.lexicon.scan (language.wants (Language.top c.stack)) c.place c.rest

theorem step_token
    {token : Token Terminal}
    {rest : List Char}
    (unread : c.ahead = none)
    (scan : nextScan c = .token token rest) :
    language.step c = .next { c with
      ahead := some token, place := token.place.advance token.text, rest :=
      rest } := by
  unfold nextScan at scan
  unfold Language.step Language.look
  rw [unread]
  dsimp only
  rw [scan]

theorem step_finished
    (unread : c.ahead = none)
    (scan : nextScan c = .finished) :
    language.step c =
      .next { c with ahead := some (language.finishToken c.last), rest := [] } := by
  unfold nextScan at scan
  unfold Language.step Language.look
  rw [unread]
  dsimp only
  rw [scan]

/-- A run in which a text has no next token is not accepted. -/
theorem nextScan_ne_stuck
    {fuel : Nat}
    {result : Except PhraseFailure Phrase}
    (unread : c.ahead = none)
    (ran : language.run (fuel + 1) c = .accepted result)
    (place : Place)
    (text : List Char) :
    nextScan c ≠ .stuck place text := by
  intro scan
  unfold nextScan at scan
  unfold Language.run Language.step Language.look at ran
  rw [unread] at ran
  dsimp only at ran
  rw [scan] at ran
  dsimp only at ran
  cases isFirst : language.lexicon.first? (fun _ => true) text with
  | some found =>
      rw [isFirst] at ran
      cases ran
  | none =>
      rw [isFirst] at ran
      cases text with
      | nil =>
          cases ran
      | cons found later =>
          cases ran

/-! ## The same text -/

/-- Two parsers before the same text: the second one is on another line, and its
stack and the token ahead correspond. -/
structure Abreast
    (move : Nat → Nat)
    (front : List Statement)
    (c c' : Configuration Terminal Phrase PhraseFailure) : Prop where
  joined : Joined move front c.stack c'.stack
  begun :
    c.stack = [] →
      c'.stack = [] ∨ ∃ token, c.ahead = some token ∧ token.kind ≠ .newline
  ahead : Option.Rel (TokenFollows move) c.ahead c'.ahead
  rest : c'.rest = c.rest
  line : ∀ n, move (c.place.line + n) = c'.place.line + n

/-- What is read of the same text corresponds. -/
theorem Abreast.look
    {fuel : Nat}
    {result : Except PhraseFailure Phrase}
    (abreast : Abreast move front c c')
    (unread : c.ahead = none)
    (unread' : c'.ahead = none)
    (ran : language.run (fuel + 1) c = .accepted result) :
    ∃ d d', language.step c = .next d ∧ language.step c' = .next d' ∧
      Abreast move front d d' := by
  have begun (isNil : c.stack = []) : c'.stack = [] := by
    rcases abreast.begun isNil with isNil' | ⟨token, ahead, -⟩
    · exact isNil'
    · rw [unread] at ahead
      cases ahead
  have sameWants := abreast.joined.wants_eq begun
  cases scan : nextScan c with
  | token token rest =>
      obtain ⟨token', scan', kind, text, line⟩ :=
        Lexicon.scanFrom_token_of_place scan c'.place
      obtain ⟨skipped, -, isPlace⟩ := (Lexicon.stands_of_scanFrom scan).split
      have isLine : token.place.line = c.place.line + skipped.count '\n' := by
        rw [isPlace, Place.line_advance]
      have isLine' : token'.place.line = c'.place.line + skipped.count '\n' := by
        omega
      have sameScan : nextScan c' = .token token' rest := by
        rw [nextScan, sameWants, abreast.rest]
        exact scan'
      refine ⟨_, _, step_token unread scan, step_token unread' sameScan,
        abreast.joined, fun isNil => .inl (begun isNil),
        .some ⟨kind, fun _ => ⟨kind, fun _ => text, fun _ => ?_⟩⟩, rfl, fun n => ?_⟩
      · rw [isLine, isLine', abreast.line]
      · dsimp only
        rw [Place.line_advance, Place.line_advance, isLine, isLine', text,
          Nat.add_assoc, Nat.add_assoc, abreast.line, Nat.add_assoc, Nat.add_assoc]
  | finished =>
      have sameScan : nextScan c' = .finished := by
        rw [nextScan, sameWants, abreast.rest]
        exact Lexicon.scanFrom_finished_of_place scan c'.place
      exact ⟨_, _, step_finished unread scan, step_finished unread' sameScan,
        abreast.joined, fun isNil => .inl (begun isNil),
        .some ⟨rfl, fun notEnd => absurd rfl notEnd⟩, rfl, abreast.line⟩
  | stuck place text =>
      exact absurd scan (nextScan_ne_stuck unread ran place text)

/-- Two parsers in a ground state are at the end of a statement. -/
theorem Joined.grounds
    {stack stack' : List ScriptFrame}
    (joined : Joined move front stack stack')
    (ground : Language.top stack ∈ groundStates) :
    ∃ phrase phrase', Grounds move front stack stack' phrase phrase' := by
  cases joined with
  | within grounds twin _ =>
      cases twin with
      | nil =>
          exact ⟨_, _, grounds⟩
      | cons _ _ inner _ =>
          exact absurd (List.mem_cons_of_mem 1 ground) inner
  | closing grounds follows _ _ =>
      obtain ⟨rule, action⟩ := grounds.base.action_closing follows
      cases ground_reduce ground (action .name)

/-- At the end of the text, the statements before are the program. -/
theorem Grounds.phrase_of_run
    {phrase phrase' : Except PhraseFailure Phrase}
    {token : Token Terminal}
    {part : Phrase}
    {fuel : Nat}
    (grounds : Grounds move front c.stack c'.stack phrase phrase')
    (ahead : c.ahead = some token)
    (atEnd : token.kind = .finish)
    (ran : language.run fuel c = .accepted (.ok part)) :
    ∃ body, part = .statements body ∧ phrase = .ok (.statements body) ∧
      phrase' =
        .ok (.statements (front ++ body.map (Statement.mapLines move))) := by
  have finishes := grounds.base.run_finish rfl ahead atEnd fuel
  rw [Language.run_add ran 2] at finishes
  obtain ⟨earlier, isPhrase, isPart⟩ :=
    Except.bind_eq_ok (Result.accepted.inj finishes).symm
  cases isPart
  obtain ⟨body, rfl, isPhrase'⟩ := grounds.agrees earlier isPhrase
  exact ⟨body, rfl, isPhrase, isPhrase'⟩

/-- Parsers before the same text end alike: the program of the second one is the
statements in front and those of the first one on other lines. -/
theorem Abreast.run
    {fuel : Nat}
    {part : Phrase}
    (abreast : Abreast move front c c')
    (ran : language.run fuel c = .accepted (.ok part)) :
    ∃ body, part = .statements body ∧ ∃ steps,
      language.run steps c' =
        .accepted
          (.ok (.statements (front ++ body.map (Statement.mapLines move)))) := by
  induction fuel generalizing c c' with
  | zero =>
      cases ran
  | succ fuel inductionHypothesis =>
      have goes
          {d d' : Configuration Terminal Phrase PhraseFailure}
          (step : language.step c = .next d)
          (step' : language.step c' = .next d')
          (later : Abreast move front d d') :
          ∃ body, part = .statements body ∧ ∃ steps,
            language.run steps c' =
              .accepted
                (.ok
                  (.statements (front ++ body.map (Statement.mapLines move)))) := by
        obtain ⟨body, isPart, steps, ran'⟩ :=
          inductionHypothesis later (step_of_run ran step)
        refine ⟨body, isPart, steps + 1, ?_⟩
        rw [Language.run, step']
        exact ran'
      have aheads := abreast.ahead
      cases ahead : c.ahead with
      | none =>
          rw [ahead] at aheads
          cases ahead' : c'.ahead with
          | some token' =>
              rw [ahead'] at aheads
              cases aheads
          | none =>
              obtain ⟨d, d', step, step', later⟩ := abreast.look ahead ahead' ran
              exact goes step step' later
      | some token =>
          rw [ahead] at aheads
          cases ahead' : c'.ahead with
          | none =>
              rw [ahead'] at aheads
              cases aheads
          | some token' =>
              rw [ahead'] at aheads
              cases aheads with
              | some follows =>
                  by_cases ends : Language.top c.stack ∈ groundStates ∧
                    token.kind = .finish
                  · obtain ⟨ground, atEnd⟩ := ends
                    obtain ⟨phrase, phrase', grounds⟩ :=
                      abreast.joined.grounds ground
                    obtain ⟨body, isPart, -, isPhrase'⟩ :=
                      grounds.phrase_of_run ahead atEnd ran
                    refine ⟨body, isPart, 2, ?_⟩
                    rw [grounds.base'.run_finish rfl ahead' (follows.1.trans atEnd)
                      0, isPhrase']
                    rfl
                  · have begun (isBreak : token.kind = .newline)
                        (isNil : c.stack = []) :
                        c'.stack = [] := by
                      rcases abreast.begun isNil with
                        isNil' | ⟨other, isOther, notBreak⟩
                      · exact isNil'
                      · rw [ahead] at isOther
                        cases isOther
                        exact absurd isBreak notBreak
                    obtain ⟨next, next', joined, nonempty,
                      ⟨step, step'⟩ | ⟨-, step, step'⟩⟩ :=
                      abreast.joined.use begun follows ahead ahead'
                        (fun ground atEnd => ends ⟨ground, atEnd⟩) ran
                    · exact goes step step' ⟨joined,
                          fun isNil => absurd isNil nonempty,
                        abreast.ahead, abreast.rest, abreast.line⟩
                    · exact goes step step' ⟨joined,
                        fun isNil => absurd isNil nonempty, .none, abreast.rest,
                        abreast.line⟩

/-- At the end of the text a rule is reduced. -/
theorem reduces_of_run
    {token : Token Terminal}
    {result : Except PhraseFailure Phrase}
    {fuel : Nat}
    (joined : Joined move front c.stack c'.stack)
    (ahead : c.ahead = some token)
    (atEnd : token.kind = .finish)
    (ran : language.run (fuel + 1) c = .accepted result) :
    ∃ rule,
      language.action? (Language.top c.stack) .finish = some (.reduce rule) := by
  have uses : language.step c = language.use c token := by
    rw [Language.step, ahead]
  rw [Language.run, uses] at ran
  unfold Language.use at ran
  rw [atEnd] at ran
  dsimp only at ran
  cases acts : language.action? (Language.top c.stack) .finish with
  | none =>
      rw [acts] at ran
      cases ran
  | some action =>
      cases action with
      | accept =>
          exact absurd (Language.accepting_of_accept acts).1 joined.not_accepting
      | shift target =>
          exact absurd rfl (traced_language.shifts acts).2.2.2
      | reduce rule =>
          exact ⟨rule, rfl⟩

/-- Where one parser is at the end of its text, another one goes on with
a token that can follow a statement: it first adds the same statements
to the ones before. -/
theorem Joined.descend
    {token token' : Token Terminal}
    {part : Phrase}
    {fuel : Nat}
    (joined : Joined move front c.stack c'.stack)
    (nonempty : c.stack ≠ [])
    (ahead : c.ahead = some token)
    (atEnd : token.kind = .finish)
    (ahead' : c'.ahead = some token')
    (follower : token'.kind ∈ followers)
    (ran : language.run fuel c = .accepted (.ok part)) :
    ∃ steps stack body,
      Language.Steps language steps c' { c' with stack := stack } ∧ stack ≠ [] ∧
        part = .statements body ∧
          Base stack
              (.ok (.statements (front ++ body.map (Statement.mapLines move)))) ∧
            (Language.top c.stack ≠ 0 → Language.top c.stack ≠ 2 → body ≠ []) := by
  induction fuel generalizing c c' with
  | zero =>
      cases ran
  | succ fuel inductionHypothesis =>
      by_cases ground : Language.top c.stack ∈ groundStates
      · obtain ⟨phrase, phrase', grounds⟩ := joined.grounds ground
        obtain ⟨body, isPart, rfl, rfl⟩ := grounds.phrase_of_run ahead atEnd ran
        refine ⟨0, c'.stack, body, .none _,
          fun isNil => nonempty (grounds.started isNil), isPart, grounds.base',
          fun notStart notLed isNil => ?_⟩
        exact grounds.nonempty notStart notLed (isNil ▸ rfl)
      obtain ⟨rule, acts⟩ := reduces_of_run joined ahead atEnd ran
      obtain ⟨rule', acts', reduces⟩ :=
        joined.reduce (.inr ⟨rfl, follower⟩) ground acts
      have uses : language.step c = language.reduce c rule := by
        simp only [Language.step, ahead, Language.use, atEnd, acts]
      have uses' : language.step c' = language.reduce c' rule' := by
        simp only [Language.step, ahead', Language.use, acts']
      cases reduced : language.reduce c rule with
      | done result =>
          rw [Language.run, uses, reduced] at ran
          obtain rfl : result = .accepted (.ok part) := ran
          exact absurd reduced reduce_ne_accepted
      | next d =>
          obtain ⟨notStart, notLed⟩ := top_of_reduce reduced
          obtain ⟨next, next', rfl, reduced', later⟩ :=
            reduces c c' d rfl rfl reduced
          have filled : next ≠ [] := by
            rintro rfl
            exact notStart rfl
          obtain ⟨steps, stack, body, toEnd, started, isPart, base, some⟩ :=
            @inductionHypothesis { c with stack := next }
              { c' with stack := next' } later filled
              ahead ahead' (step_of_run ran (uses.trans reduced))
          exact ⟨steps + 1, stack, body, .next (uses'.trans reduced') toEnd,
            started, isPart, base, fun _ _ => some notStart notLed⟩

/-! ## The same lines before different texts -/

section Lines

variable {tail tail' : List Char} {line : Nat}

/-- Where two parsers stand that read the same lines before different texts,
with the line on which these texts begin. -/
inductive Stage (tail tail' : List Char) (line : Nat) :
    Configuration Terminal Phrase PhraseFailure →
      Configuration Terminal Phrase PhraseFailure → Prop where
  /-- There are lines left, and both are at the same place before them. -/
  | before
      {c c' : Configuration Terminal Phrase PhraseFailure}
      (lines : List Char)
      (closed : Closed lines)
      (nonempty : lines ≠ [])
      (rest : c.rest = lines ++ tail)
      (rest' : c'.rest = lines ++ tail')
      (place : c'.place = c.place)
      (isLine : c.place.line + lines.count '\n' = line) :
      Stage tail tail' line c c'
  /-- The line break at the end of the lines is ahead. -/
  | across
      {c c' : Configuration Terminal Phrase PhraseFailure}
      {token : Token Terminal}
      (ahead : c.ahead = some token)
      (isBreak : token.kind = .newline)
      (rest : c.rest = tail.drop (afterBreak tail))
      (rest' : c'.rest = tail'.drop (afterBreak tail'))
      (isLine : c.place.line = line + (tail.take (afterBreak tail)).count '\n')
      (isLine' :
        c'.place.line = line + (tail'.take (afterBreak tail')).count '\n') :
      Stage tail tail' line c c'

/-- Two parsers that read the same lines before different texts. -/
structure Beside
    (move : Nat → Nat)
    (tail tail' : List Char)
    (line : Nat)
    (c c' : Configuration Terminal Phrase PhraseFailure) : Prop where
  joined : Joined move [] c.stack c'.stack
  begun : c.stack = [] → c'.stack = []
  ahead : Option.Rel (TokenFollows move) c.ahead c'.ahead
  notEnd : ∀ token ∈ c.ahead, token.kind ≠ .finish
  stage : Stage tail tail' line c c'

/-- Two parsers that have used the line break at the end of the same lines. -/
structure Crossed
    (move : Nat → Nat)
    (tail tail' : List Char)
    (line : Nat)
    (c c' : Configuration Terminal Phrase PhraseFailure) : Prop where
  joined : Joined move [] c.stack c'.stack
  nonempty : c.stack ≠ []
  broken :
    ∃ state, language.action? state .newline = some (.shift (Language.top c.stack))
  unread : c.ahead = none
  unread' : c'.ahead = none
  rest : c.rest = tail.drop (afterBreak tail)
  rest' : c'.rest = tail'.drop (afterBreak tail')
  isLine : c.place.line = line + (tail.take (afterBreak tail)).count '\n'
  isLine' : c'.place.line = line + (tail'.take (afterBreak tail')).count '\n'

theorem count_take_add_count_drop (cs : List Char) (n : Nat) :
    (cs.take n).count '\n' + (cs.drop n).count '\n' = cs.count '\n' := by
  rw [← List.count_append, List.take_append_drop]

/-- What is read of the same lines is the same. -/
theorem Beside.look
    {fuel : Nat}
    {result : Except PhraseFailure Phrase}
    (still : ∀ l < line, move l = l)
    (beside : Beside move tail tail' line c c')
    (unread : c.ahead = none)
    (unread' : c'.ahead = none)
    (ran : language.run (fuel + 1) c = .accepted result) :
    ∃ d d', language.step c = .next d ∧ language.step c' = .next d' ∧
      Beside move tail tail' line d d' := by
  cases beside.stage with
  | across ahead _ _ _ _ _ =>
      rw [unread] at ahead
      cases ahead
  | before lines closed nonempty rest rest' place isLine =>
      have same : SameScan tail tail' (nextScan c) (nextScan c') := by
        unfold nextScan
        rw [beside.joined.wants_eq beside.begun, rest, rest', place]
        exact sameScan_scanFrom _ closed nonempty (Nat.le_refl _) (Nat.le_refl _) _
      generalize isScan : nextScan c = scan, isScan' : nextScan c' = scan' at same
      cases same with
      | stuck =>
          exact absurd isScan (nextScan_ne_stuck unread ran _ _)
      | @within token left closedLeft nonemptyLeft =>
          have stands := Lexicon.stands_of_scanFrom isScan
          have conserved := stands.line_add_count
          rw [rest, List.count_append, List.count_append] at conserved
          have left : 0 < left.count '\n' := by
            obtain ⟨first, later, rfl, -⟩ := closedLeft.exists_line nonemptyLeft
            rw [List.count_append, List.count_cons_self]
            omega
          have inside : token.place.line < line := by
            rw [Place.line_advance] at conserved
            omega
          have notEnd : token.kind ≠ .finish := fun atEnd =>
            absurd stands.order (atEnd ▸ traced_language.finish)
          refine ⟨_, _, step_token unread isScan, step_token unread' isScan',
            beside.joined, beside.begun,
            .some ⟨rfl, fun _ => ⟨rfl, fun _ => rfl, fun _ => ?_⟩⟩, ?_, ?_⟩
          · exact (still _ inside).symm
          · rintro _ ⟨⟩
            exact notEnd
          · refine .before _ closedLeft nonemptyLeft rfl rfl rfl ?_
            dsimp only
            omega
      | @across text text' start =>
          have conserved := (Lexicon.stands_of_scanFrom isScan).line_add_count
          have conserved' := (Lexicon.stands_of_scanFrom isScan').line_add_count
          have split := count_take_add_count_drop tail (afterBreak tail)
          have split' := count_take_add_count_drop tail' (afterBreak tail')
          rw [rest, List.count_append] at conserved
          rw [rest', List.count_append, place] at conserved'
          refine ⟨_, _, step_token unread isScan, step_token unread' isScan',
            beside.joined, beside.begun,
            .some ⟨rfl, fun _ => ⟨rfl, fun other => absurd rfl other,
              fun other => absurd rfl other⟩⟩, ?_, .across rfl rfl rfl rfl ?_ ?_⟩
          · rintro _ ⟨⟩
            exact nofun
          · dsimp only at conserved ⊢
            omega
          · dsimp only at conserved' ⊢
            omega

/-- Parsers of the same lines come to the line break at their end in the
same number of steps. -/
theorem Beside.run
    {fuel : Nat}
    {result : Except PhraseFailure Phrase}
    (still : ∀ l < line, move l = l)
    (beside : Beside move tail tail' line c c')
    (ran : language.run fuel c = .accepted result) :
    ∃ steps left d d',
      Language.Steps language steps c d ∧ Language.Steps language steps c' d' ∧
        language.run left d = .accepted result ∧
          Crossed move tail tail' line d d' := by
  induction fuel generalizing c c' with
  | zero =>
      cases ran
  | succ fuel inductionHypothesis =>
      have goes
          {d d' : Configuration Terminal Phrase PhraseFailure}
          (step : language.step c = .next d)
          (step' : language.step c' = .next d')
          (later : Beside move tail tail' line d d') :
          ∃ steps left e e',
            Language.Steps language steps c e ∧
              Language.Steps language steps c' e' ∧
              language.run left e = .accepted result ∧
                Crossed move tail tail' line e e' := by
        obtain ⟨steps, left, e, e', toEnd, toEnd', ran', crossed⟩ :=
          inductionHypothesis later (step_of_run ran step)
        exact ⟨steps + 1, left, e, e', .next step toEnd, .next step' toEnd', ran',
          crossed⟩
      have aheads := beside.ahead
      cases ahead : c.ahead with
      | none =>
          rw [ahead] at aheads
          cases ahead' : c'.ahead with
          | some token' =>
              rw [ahead'] at aheads
              cases aheads
          | none =>
              obtain ⟨d, d', step, step', later⟩ :=
                beside.look still ahead ahead' ran
              exact goes step step' later
      | some token =>
          rw [ahead] at aheads
          cases ahead' : c'.ahead with
          | none =>
              rw [ahead'] at aheads
              cases aheads
          | some token' =>
              rw [ahead'] at aheads
              cases aheads with
              | some follows =>
                  have notEnd := beside.notEnd token ahead
                  obtain ⟨next, next', joined, nonempty,
                    ⟨step, step'⟩ | ⟨shifts, step, step'⟩⟩ :=
                    beside.joined.use (fun _ => beside.begun) follows ahead ahead'
                      (fun _ => notEnd) ran
                  · refine goes step step' ⟨joined,
                      fun isNil => absurd isNil nonempty, beside.ahead,
                      beside.notEnd, ?_⟩
                    cases beside.stage with
                    | before lines closed filled rest rest' place isLine =>
                        exact .before lines closed filled rest rest' place isLine
                    | across isAhead isBreak rest rest' isLine isLine' =>
                        exact .across isAhead isBreak rest rest' isLine isLine'
                  · cases beside.stage with
                    | before lines closed filled rest rest' place isLine =>
                        exact goes step step' ⟨joined,
                          fun isNil => absurd isNil nonempty, .none, nofun,
                          .before lines closed filled rest rest' place isLine⟩
                    | across isAhead isBreak rest rest' isLine isLine' =>
                        refine ⟨1, fuel, _, _, .next step (.none _),
                          .next step' (.none _), step_of_run ran step, joined,
                          nonempty, ?_, rfl, rfl, rest, rest', isLine, isLine'⟩
                        obtain rfl := Option.some.inj (ahead.symm.trans isAhead)
                        exact ⟨_, isBreak ▸ shifts⟩

end Lines

end GridScript.Script
