import GridScript.Proofs.Parsing.Derivation

namespace GridScript.Parsing.Language

/-!
# Complete tables

A table is complete for a grammar if, wherever a row goes on after a phrase of a
category, the rows also lead over the symbols of every rule of that category,
and then reduce by the rule before each token that the row after the phrase can
use. Over a complete table a parser builds the phrase of every derivation: it
takes two steps for a token and one for a rule.
-/

variable {Kind Rule Category Phrase Fault : Type}
variable {language : Language Kind Rule Category Phrase Fault}
variable {grammar : Grammar Kind Rule Category}
variable [BEq Kind] [BEq Category]

/-- The state to which the rows lead over some symbols. -/
def walk?
    (language : Language Kind Rule Category Phrase Fault)
    (state : Nat) : List (GrammarSymbol Kind Category) → Option Nat
  | [] => some state
  | .token kind :: symbols =>
      match language.action? state kind with
      | some (.shift target) => language.walk? target symbols
      | _ => none
  | .phrase category :: symbols =>
      match language.goto? state category with
      | some target => language.walk? target symbols
      | none => none

/-- The rows lead over a token by pushing it. -/
theorem walk?_token
    {state last : Nat}
    {kind : Kind}
    {symbols : List (GrammarSymbol Kind Category)}
    (walks : language.walk? state (.token kind :: symbols) = some last) :
    ∃ target,
      language.action? state kind = some (.shift target) ∧
      language.walk? target symbols = some last := by
  unfold walk? at walks
  split at walks
  next target shifts =>
    exact ⟨target, shifts, walks⟩
  next =>
    cases walks

/-- The rows lead over a phrase by the state that follows it. -/
theorem walk?_phrase
    {state last : Nat}
    {category : Category}
    {symbols : List (GrammarSymbol Kind Category)}
    (walks : language.walk? state (.phrase category :: symbols) = some last) :
    ∃ target,
      language.goto? state category = some target ∧
      language.walk? target symbols = some last := by
  unfold walk? at walks
  split at walks
  next target follows =>
    exact ⟨target, follows, walks⟩
  next =>
    cases walks

/-- The table is complete for a grammar. -/
structure Complete
    (language : Language Kind Rule Category Phrase Fault)
    (grammar : Grammar Kind Rule Category) : Prop where
  arity :
    ∀ rule ∈ grammar.rules, language.arity rule = (grammar.symbols rule).length
  reduces :
    ∀ rule ∈ grammar.rules, ∀ state target,
      language.goto? state (language.category rule) = some target →
        ∃ last,
          language.walk? state (grammar.symbols rule) = some last ∧
          ∀ kind, language.wants target kind = true →
            language.action? last kind = some (.reduce rule)

/-- The kind of the next token. -/
def nextKind
    (language : Language Kind Rule Category Phrase Fault) : List (Token Kind) → Kind
  | [] => language.finish
  | token :: _ => token.kind

omit [BEq Category] in
/-- A row with an action on a kind wants it. -/
theorem wants_of_action
    {state : Nat}
    {kind : Kind}
    {action : Action Rule}
    (acts : language.action? state kind = some action) :
    language.wants state kind = true := by
  rw [wants, acts]
  rfl

/-- The row before a derivation wants its first token, or the one after
it if it has none. -/
theorem Derives.wants_first
    {symbols : List (GrammarSymbol Kind Category)}
    {tokens : List (Token Kind)}
    {phrases : List Phrase}
    {count : Nat}
    (complete : language.Complete grammar)
    (derives : Derives language grammar symbols tokens phrases count)
    {state last : Nat}
    {more : List (Token Kind)}
    (walks : language.walk? state symbols = some last)
    (wanted : language.wants last (language.nextKind more) = true) :
    language.wants state (language.nextKind (tokens ++ more)) = true := by
  induction derives generalizing state last more with
  | nil =>
      cases walks
      exact wanted
  | token token _ _ =>
      obtain ⟨target, shifts, _⟩ := walk?_token walks
      exact wants_of_action shifts
  | phrase rule member _ _ _ innerHypothesis restHypothesis =>
      obtain ⟨target, follows, restWalks⟩ := walk?_phrase walks
      obtain ⟨inside, innerWalks, reduces⟩ :=
        complete.reduces rule member _ _ follows
      have afterwards := restHypothesis restWalks wanted
      rw [List.append_assoc]
      exact innerHypothesis innerWalks (wants_of_action (reduces _ afterwards))

/-- The parser takes so many steps from one configuration to another. -/
inductive Steps (language : Language Kind Rule Category Phrase Fault) :
    Nat → Configuration Kind Phrase Fault → Configuration Kind Phrase Fault →
      Prop where
  | none (c : Configuration Kind Phrase Fault) : Steps language 0 c c
  | next
      {n : Nat}
      {c between after : Configuration Kind Phrase Fault}
      (step : language.step c = .next between)
      (steps : Steps language n between after) :
      Steps language (n + 1) c after

namespace Steps

theorem trans
    {m n : Nat}
    {c between after : Configuration Kind Phrase Fault}
    (first : Steps language m c between)
    (second : Steps language n between after) :
    Steps language (m + n) c after := by
  induction first with
  | none =>
      rwa [Nat.zero_add]
  | next step _ inductionHypothesis =>
      rw [Nat.succ_add]
      exact .next step (inductionHypothesis second)

/-- A run goes on from where its first steps end. -/
theorem run_eq
    {n : Nat}
    {c after : Configuration Kind Phrase Fault}
    (steps : Steps language n c after)
    (fuel : Nat) :
    language.run (n + fuel) c = language.run fuel after := by
  induction steps with
  | none =>
      rw [Nat.zero_add]
  | next step _ inductionHypothesis =>
      rw [Nat.succ_add, run, step]
      exact inductionHypothesis

end Steps

/-- The tokens that a configuration has still to use, the one ahead included. -/
inductive Awaits (language : Language Kind Rule Category Phrase Fault) :
    Configuration Kind Phrase Fault → List (Token Kind) → Prop where
  | unread
      {stack : List (Frame Phrase Fault)}
      {last : Option (Token Kind)}
      {place : Place}
      {text : List Char}
      {tokens : List (Token Kind)}
      (spells : language.lexicon.Spells place text tokens) :
      Awaits language ⟨stack, none, last, place, text⟩ tokens
  | read
      {stack : List (Frame Phrase Fault)}
      {last : Option (Token Kind)}
      {place : Place}
      {text : List Char}
      {tokens : List (Token Kind)}
      (token : Token Kind)
      (spells : language.lexicon.Spells place text tokens) :
      Awaits language ⟨stack, some token, last, place, text⟩ (token :: tokens)
  | finished
      {stack : List (Frame Phrase Fault)}
      {last : Option (Token Kind)}
      {place : Place}
      {text : List Char}
      {token : Token Kind}
      (atEnd : token.kind = language.finish) :
      Awaits language ⟨stack, some token, last, place, text⟩ []

/-- One if a token has been read and not yet used. -/
def Configuration.pending (c : Configuration Kind Phrase Fault) : Nat :=
  if c.ahead.isSome then 1 else 0

/-- A wanted token is read, if that has not been done. -/
theorem Awaits.look
    {c : Configuration Kind Phrase Fault}
    {tokens : List (Token Kind)}
    (awaits : Awaits language c tokens)
    (wanted : language.wants (top c.stack) (language.nextKind tokens) = true) :
    ∃ n after token,
      Steps language n c after ∧
      Awaits language after tokens ∧
      after.stack = c.stack ∧
      after.ahead = some token ∧
      token.kind = language.nextKind tokens ∧
      n + Configuration.pending c = 1 := by
  cases awaits with
  | read token spells =>
      exact ⟨0, _, token, .none _, .read token spells, rfl, rfl, rfl, rfl⟩
  | finished atEnd =>
      exact ⟨0, _, _, .none _, .finished atEnd, rfl, rfl, atEnd, rfl⟩
  | @unread stack last place text tokens spells =>
      cases spells with
      | nil =>
          have step : language.step ⟨stack, none, last, place, []⟩ =
              .next ⟨stack, some (language.finishToken last), last, place, []⟩ := by
            simp [Language.step, Language.look, Lexicon.scan, Lexicon.scanFrom]
          exact ⟨1, _, _, .next step (.none _), .finished rfl, rfl, rfl, rfl, rfl⟩
      | @cons _ token _ rest _ leads _ spells =>
          have step : language.step ⟨stack, none, last, place, text⟩ =
              .next ⟨stack, some token, last, token.place.advance token.text,
                rest⟩ := by
            simp only [Language.step, Language.look, Lexicon.scan]
            rw [leads _ text.length wanted (Nat.le_refl _)]
          exact ⟨1, _, token, .next step (.none _), .read token spells, rfl, rfl,
            rfl, rfl⟩


/-- The parser comes from one configuration over some phrases to a state, so
that certain tokens are left. The cost counts the steps, apart from a token that
was read before or is read ahead. -/
def Passes
    (language : Language Kind Rule Category Phrase Fault)
    (c : Configuration Kind Phrase Fault)
    (phrases : List Phrase)
    (last cost : Nat)
    (more : List (Token Kind)) : Prop :=
  ∃ (n : Nat) (after : Configuration Kind Phrase Fault)
      (frames : List (Frame Phrase Fault)),
    Steps language n c after ∧
    Awaits language after more ∧
    after.stack = frames ++ c.stack ∧
    frames.map Frame.phrase = (phrases.map Except.ok).reverse ∧
    top after.stack = last ∧
    n + Configuration.pending c = cost + Configuration.pending after

/-- A token that is pushed. -/
theorem Awaits.shift
    {c : Configuration Kind Phrase Fault}
    {token : Token Kind}
    {more : List (Token Kind)}
    {target : Nat}
    (awaits : Awaits language c (token :: more))
    (shifts : language.action? (top c.stack) token.kind = some (.shift target)) :
    Passes language c [language.leaf token] target 2 more := by
  obtain ⟨n, read, ahead, steps, readAwaits, sameStack, isAhead, -, cost⟩ :=
    awaits.look (wants_of_action shifts)
  cases readAwaits with
  | unread spells =>
      cases isAhead
  | @read stack last place text tokens token spells =>
      have step : language.step ⟨stack, some token, last, place, text⟩ =
          .next ⟨⟨target, .ok (language.leaf token)⟩ :: stack, none, some token,
            place, text⟩ := by
        simp only [Language.step, Language.use]
        rw [← sameStack] at shifts
        rw [shifts]
      refine ⟨n + 1, _, [⟨target, .ok (language.leaf token)⟩],
        steps.trans (.next step (.none _)), .unread spells, ?_, rfl, rfl, ?_⟩
      · rw [← sameStack]
        rfl
      · show n + 1 + Configuration.pending c = 2 + 0
        omega

/-- The results of phrases without errors are the phrases. -/
theorem mapM_id_ok (phrases : List Phrase) :
    (phrases.map Except.ok).mapM (id : Except Fault Phrase → Except Fault Phrase) =
      .ok phrases := by
  induction phrases with
  | nil =>
      rfl
  | cons phrase rest inductionHypothesis =>
      rw [List.map_cons, List.mapM_cons, inductionHypothesis]
      rfl

omit [BEq Kind] in
/-- A reduction replaces the parts of a rule by its phrase. -/
theorem reduce_eq
    {c : Configuration Kind Phrase Fault}
    {rule : Rule}
    {parts : List Phrase}
    {phrase : Phrase}
    {frames below : List (Frame Phrase Fault)}
    {target : Nat}
    (stack : c.stack = frames ++ below)
    (phrases : frames.map Frame.phrase = (parts.map Except.ok).reverse)
    (arity : language.arity rule = parts.length)
    (built : language.build rule parts = .ok phrase)
    (follows : language.goto? (top below) (language.category rule) = some target) :
    language.reduce c rule =
      .next { c with stack := ⟨target, .ok phrase⟩ :: below } := by
  have sameLength : frames.length = language.arity rule := by
    rw [arity]
    simpa using congrArg List.length phrases
  have combined :
      language.combine rule (frames.map Frame.phrase).reverse = .ok phrase := by
    unfold combine
    rw [phrases, List.reverse_reverse, mapM_id_ok]
    exact built
  unfold Language.reduce
  simp only [stack, ← sameLength, List.take_left, List.drop_left, Nat.lt_irrefl,
    if_false, follows, combined]
  cases language.eager <;> rfl

/-- The parts of a rule are reduced before a token that calls for it. -/
theorem Awaits.reduce
    {c : Configuration Kind Phrase Fault}
    {more : List (Token Kind)}
    {rule : Rule}
    {parts : List Phrase}
    {phrase : Phrase}
    {frames below : List (Frame Phrase Fault)}
    {target : Nat}
    (awaits : Awaits language c more)
    (reduces :
      language.action? (top c.stack) (language.nextKind more) = some (.reduce rule))
    (stack : c.stack = frames ++ below)
    (phrases : frames.map Frame.phrase = (parts.map Except.ok).reverse)
    (arity : language.arity rule = parts.length)
    (built : language.build rule parts = .ok phrase)
    (follows : language.goto? (top below) (language.category rule) = some target) :
    ∃ n after,
      Steps language n c after ∧
      Awaits language after more ∧
      after.stack = ⟨target, .ok phrase⟩ :: below ∧
      n + Configuration.pending c = 1 + Configuration.pending after := by
  obtain ⟨n, read, token, steps, readAwaits, sameStack, isAhead, kind, cost⟩ :=
    awaits.look (wants_of_action reduces)
  have reduced := reduce_eq (sameStack.trans stack) phrases arity built follows
  have step :
      language.step read =
        .next { read with stack := ⟨target, .ok phrase⟩ :: below } := by
    rw [← kind, ← sameStack] at reduces
    simp only [Language.step, isAhead, Language.use, reduces, reduced]
  refine ⟨n + 1, _, steps.trans (.next step (.none _)), ?_, rfl, ?_⟩
  · cases readAwaits with
    | unread spells =>
        exact .unread spells
    | read token spells =>
        exact .read token spells
    | finished atEnd =>
        exact .finished atEnd
  · simp only [Configuration.pending, isAhead, Option.isSome_some, if_true]
      at cost ⊢
    omega

/-- Over a complete table the parser passes over every derivation. -/
theorem Derives.passes
    {symbols : List (GrammarSymbol Kind Category)}
    {tokens : List (Token Kind)}
    {phrases : List Phrase}
    {count : Nat}
    (complete : language.Complete grammar)
    (derives : Derives language grammar symbols tokens phrases count)
    {c : Configuration Kind Phrase Fault}
    {last : Nat}
    {more : List (Token Kind)}
    (awaits : Awaits language c (tokens ++ more))
    (walks : language.walk? (top c.stack) symbols = some last)
    (wanted : language.wants last (language.nextKind more) = true) :
    Passes language c phrases last (count + 2 * tokens.length) more := by
  induction derives generalizing c last more with
  | nil =>
      cases walks
      exact ⟨0, c, [], .none c, awaits, rfl, rfl, rfl, by simp⟩
  | token token _ inductionHypothesis =>
      obtain ⟨target, shifts, restWalks⟩ := walk?_token walks
      obtain ⟨n, between, frames, steps, betweenAwaits, stack, built, isTop,
        cost⟩ :=
        awaits.shift shifts
      rw [← isTop] at restWalks
      obtain ⟨m, after, later, laterSteps, afterAwaits, laterStack, laterBuilt,
        laterTop,
          laterCost⟩ :=
        inductionHypothesis betweenAwaits restWalks wanted
      refine ⟨n + m, after, later ++ frames, steps.trans laterSteps, afterAwaits,
        ?_, ?_, laterTop, ?_⟩
      · rw [laterStack, stack, List.append_assoc]
      · rw [List.map_append, laterBuilt, built]
        simp
      · rw [List.length_cons]
        omega
  | @phrase symbols tokens later parts phrases phrase count laterCount rule member
    inner built rest
      innerHypothesis restHypothesis =>
      obtain ⟨target, follows, restWalks⟩ := walk?_phrase walks
      obtain ⟨inside, innerWalks, reduces⟩ :=
        complete.reduces rule member _ _ follows
      have laterWanted := rest.wants_first complete restWalks wanted
      have calls := reduces _ laterWanted
      rw [List.append_assoc] at awaits
      obtain ⟨n, filled, frames, steps, filledAwaits, stack, framesBuilt, isTop,
        cost⟩ :=
        innerHypothesis awaits innerWalks (wants_of_action calls)
      rw [← isTop] at calls
      have arity : language.arity rule = parts.length := by
        rw [complete.arity rule member, inner.length_eq]
      obtain ⟨one, reduced, reduceSteps, reducedAwaits, reducedStack, reduceCost⟩ :=
        filledAwaits.reduce calls stack framesBuilt arity built follows
      have reducedWalks :
          language.walk? (top reduced.stack) symbols = some last := by
        rw [reducedStack]
        exact restWalks
      obtain ⟨m, after, laterFrames, laterSteps, afterAwaits, laterStack,
        laterBuilt, laterTop,
          laterCost⟩ :=
        restHypothesis reducedAwaits reducedWalks wanted
      refine ⟨n + one + m, after, laterFrames ++ [⟨target, .ok phrase⟩],
        (steps.trans reduceSteps).trans laterSteps, afterAwaits, ?_, ?_, laterTop,
        ?_⟩
      · rw [laterStack, reducedStack]
        simp
      · rw [List.map_append, laterBuilt]
        simp
      · rw [List.length_append]
        omega

/--
A complete table accepts every derivation with the phrase that it builds.

Two steps are taken for each token and one for each rule, and two at
the end of the text.
-/
theorem parse_of_derives
    {start : Category}
    {text : List Char}
    {tokens : List (Token Kind)}
    {phrase : Phrase}
    {count : Nat}
    (complete : language.Complete grammar)
    (spells : language.lexicon.Spells .start text tokens)
    (derives : Derives language grammar [.phrase start] tokens [phrase] count)
    (begins : language.goto? 0 start = some language.accepting)
    (accepts : language.action? language.accepting language.finish = some .accept)
    (enough : count + 2 * tokens.length + 2 ≤ stepLimit text) :
    language.parse text = .accepted (.ok phrase) := by
  have awaits : Awaits language (initial text) (tokens ++ []) := by
    rw [List.append_nil]
    exact .unread spells
  have walks :
      language.walk? (top (initial text : Configuration Kind Phrase Fault).stack)
      [.phrase start] = some language.accepting := by
    simp [walk?, initial, top, begins]
  obtain ⟨n, whole, frames, steps, wholeAwaits, stack, built, isTop, cost⟩ :=
    derives.passes complete awaits walks (wants_of_action accepts)
  have calls :
      language.action? (top whole.stack) (language.nextKind []) = some .accept := by
    rw [isTop]
    exact accepts
  obtain ⟨one, ended, token, lookSteps, -, sameStack, isAhead, kind, lookCost⟩ :=
    wholeAwaits.look (wants_of_action calls)
  have isFrame : ∃ frame, whole.stack = [frame] ∧ frame.phrase = .ok phrase := by
    obtain ⟨frame, rfl, isPhrase⟩ := List.map_eq_singleton_iff.mp built
    exact ⟨frame, by simpa [initial] using stack, isPhrase⟩
  obtain ⟨frame, single, isPhrase⟩ := isFrame
  have step : language.step ended = .done (.accepted (.ok phrase)) := by
    rw [← kind, single] at calls
    rw [single] at sameStack
    simp only [Language.step, isAhead, Language.use, sameStack, calls, isPhrase]
  have unread :
      Configuration.pending (initial text : Configuration Kind Phrase Fault) = 0 :=
      rfl
  have taken : n + one + 1 ≤ stepLimit text := by
    omega
  obtain ⟨fuel, limit⟩ := Nat.exists_eq_add_of_le taken
  unfold parse
  rw [limit, Nat.add_assoc, (steps.trans lookSteps).run_eq, Nat.add_comm, run, step]

end GridScript.Parsing.Language
