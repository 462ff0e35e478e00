import GridScript.Proofs.Script.Joining.Building
import GridScript.Proofs.Script.Joining.Ground

namespace GridScript.Script

/-!
# Stacks over different statements

Two parsers that read the same tokens push and reduce the same frames over
different statements before, until the next statement is added to the ones
before. The relation between the stacks is kept by every token that is used.
-/

open GridScript.Parsing
open Table

/-! ## Frames over the statements before -/

variable {move : Nat → Nat} {symbols : List (GrammarSymbol Terminal Category)}

/-- A result is the same on other lines, as a phrase of a symbol,
if it is no error. -/
def Corresponds
    (move : Nat → Nat)
    (symbol : GrammarSymbol Terminal Category)
    (result result' : Except PhraseFailure Phrase) : Prop :=
  ∀ part, result = .ok part →
    ∃ part', result' = .ok part' ∧ Moves move symbol part part'

theorem Carries.corresponds
    {category : Category}
    {result result' : Except PhraseFailure Phrase}
    (carries : Carries move category.shape result result') :
    Corresponds move (.phrase category) result result' := by
  intro part isPart
  obtain ⟨isPart', fits⟩ := carries part isPart
  exact ⟨part.mapLines move, isPart', .phrase fits⟩

/-- Frames that two parsers have pushed over the statements before, with their
symbols: the states are the same, and the phrases are the same on other lines. -/
inductive Twin (move : Nat → Nat) :
    List ScriptFrame → List ScriptFrame → List (GrammarSymbol Terminal Category) →
      Prop where
  | nil : Twin move [] [] []
  | cons
      {state : Nat}
      {phrase phrase' : Except PhraseFailure Phrase}
      {frames frames' : List ScriptFrame}
      {symbol : GrammarSymbol Terminal Category}
      {symbols : List (GrammarSymbol Terminal Category)}
      (below : Twin move frames frames' symbols)
      (isPast : past state <+: symbol :: symbols)
      (inner : IsInner state)
      (corresponds : Corresponds move symbol phrase phrase') :
      Twin move (⟨state, phrase⟩ :: frames) (⟨state, phrase'⟩ :: frames')
        (symbol :: symbols)

theorem AllMove.snoc
    {symbol : GrammarSymbol Terminal Category}
    {parts parts' : List Phrase}
    {part part' : Phrase}
    (front : AllMove move symbols parts parts')
    (last : Moves move symbol part part') :
    AllMove move (symbols ++ [symbol]) (parts ++ [part]) (parts' ++ [part']) := by
  induction front with
  | nil =>
      exact .cons last .nil
  | cons first _ inductionHypothesis =>
      exact .cons first inductionHypothesis

namespace Twin

variable {frames frames' : List ScriptFrame}

/-- The frames over some last symbols, and those below. -/
theorem split
    {last before : List (GrammarSymbol Terminal Category)}
    (twin : Twin move frames frames' symbols)
    (shape : symbols = last ++ before) :
    ∃ above above' below below',
      frames = above ++ below ∧ frames' = above' ++ below' ∧
      above.length = last.length ∧
      above'.length = last.length ∧ Twin move below below' before ∧
      ∀ parts, (above.map Frame.phrase).reverse.mapM id = .ok parts →
        ∃ parts', (above'.map Frame.phrase).reverse.mapM id = .ok parts' ∧
          AllMove move last.reverse parts parts' := by
  induction last generalizing frames frames' symbols with
  | nil =>
      subst shape
      refine ⟨[], [], frames, frames', rfl, rfl, rfl, rfl, twin,
        fun parts same => ?_⟩
      cases same
      exact ⟨[], rfl, .nil⟩
  | cons symbol last inductionHypothesis =>
      cases twin with
      | nil =>
          cases shape
      | @cons state phrase phrase' _ _ _ _ earlier isPast inner corresponds =>
          cases shape
          obtain ⟨above, above', below, below', rfl, rfl, isLength, isLength', twin,
            parts⟩ :=
            inductionHypothesis earlier rfl
          refine ⟨⟨state, phrase⟩ :: above, ⟨state, phrase'⟩ :: above', below,
            below', rfl, rfl, congrArg Nat.succ isLength,
            congrArg Nat.succ isLength', twin, fun all same => ?_⟩
          rw [List.map_cons, List.reverse_cons, List.mapM_append] at same
          obtain ⟨front, isFront, same⟩ := Except.bind_eq_ok same
          obtain ⟨back, isBack, same⟩ := Except.bind_eq_ok same
          cases same
          obtain ⟨part, isPart, isBack⟩ := Except.bind_eq_ok isBack
          cases isBack
          obtain ⟨front', isFront', moves⟩ := parts front isFront
          obtain ⟨part', isPart', lastMoves⟩ := corresponds part isPart
          refine ⟨front' ++ [part'], ?_, ?_⟩
          · rw [List.map_cons, List.reverse_cons, List.mapM_append, isFront',
              isPart']
            rfl
          · rw [List.reverse_cons]
            exact moves.snoc lastMoves

/-- The rule of the last symbols has the same phrase. -/
theorem combine
    {rule : Rule}
    {before : List (GrammarSymbol Terminal Category)}
    (member : rule ∈ Rule.all)
    (twin : Twin move frames frames' symbols)
    (shape : symbols = (grammar.symbols rule).reverse ++ before) :
    ∃ above above' below below',
      frames = above ++ below ∧ frames' = above' ++ below' ∧
      above.length = rule.arity ∧
      above'.length = rule.arity ∧ Twin move below below' before ∧
      Corresponds move (.phrase rule.category)
        (language.combine rule (above.map Frame.phrase).reverse)
        (language.combine rule (above'.map Frame.phrase).reverse) := by
  obtain ⟨above, above', below, below', isFrames, isFrames', isLength, isLength',
    twin, parts⟩ :=
    twin.split shape
  have arity : (grammar.symbols rule).reverse.length = rule.arity := by
    rw [List.length_reverse]
    exact List.length_map _
  refine ⟨above, above', below, below', isFrames, isFrames', isLength.trans arity,
    isLength'.trans arity, twin, Carries.corresponds fun part isPart => ?_⟩
  obtain ⟨all, isAll, isBuilt⟩ := Except.bind_eq_ok isPart
  obtain ⟨all', isAll', moves⟩ := parts all isAll
  rw [List.reverse_reverse] at moves
  obtain ⟨isBuilt', fits⟩ := follows_of_mem member all all' moves part isBuilt
  refine ⟨?_, fits⟩
  rw [Language.combine, isAll']
  exact isBuilt'

end Twin

/-! ## Parsers over different statements -/

/-- Two parsers at the end of a statement: the statements of the second one are
some statements in front and those of the first one on other lines. -/
structure Grounds
    (move : Nat → Nat)
    (front : List Statement)
    (stack stack' : List ScriptFrame)
    (phrase phrase' : Except PhraseFailure Phrase) : Prop where
  base : Base stack phrase
  base' : Base stack' phrase'
  started : stack' = [] → stack = []
  agrees :
    ∀ part, phrase = .ok part →
      ∃ body, part = .statements body ∧
        phrase' = .ok (.statements (front ++ body.map (Statement.mapLines move)))
  nonempty :
    Language.top stack ≠ 0 → Language.top stack ≠ 2 → phrase ≠ .ok (.statements [])

variable {front : List Statement}

theorem Corresponds.statement
    {body body' : Except PhraseFailure Phrase}
    (corresponds : Corresponds move (.phrase .statement) body body')
    {part : Phrase}
    (isPart : body = .ok part) :
    ∃ s : Statement, part = .statements [s] ∧
      body' = .ok (.statements [s.mapLines move]) := by
  obtain ⟨part', isPart', moves⟩ := corresponds part isPart
  cases moves with
  | phrase fits =>
      obtain ⟨s, rfl⟩ := fits
      exact ⟨s, rfl, isPart'⟩

/-- A statement is added on both sides. -/
theorem Grounds.close
    {stack stack' after after' : List ScriptFrame}
    {phrase phrase' body body' : Except PhraseFailure Phrase}
    (grounds : Grounds move front stack stack' phrase phrase')
    (corresponds : Corresponds move (.phrase .statement) body body')
    (base : Base after (withStatement phrase body))
    (base' : Base after' (withStatement phrase' body'))
    (started : after' ≠ []) :
    Grounds move front after after' (withStatement phrase body)
      (withStatement phrase' body') where
  base := base
  base' := base'
  started isNil := absurd isNil started
  agrees part isPart := by
    obtain ⟨earlier, last, isEarlier, isLast, rfl⟩ := withStatement_eq_ok isPart
    obtain ⟨statements, rfl, isFront⟩ := grounds.agrees earlier isEarlier
    obtain ⟨s, rfl, isBody⟩ := corresponds.statement isLast
    refine ⟨statements ++ [s], rfl, ?_⟩
    rw [isFront, isBody, List.map_append, ← List.append_assoc]
    rfl
  nonempty _ _ isEmpty := by
    obtain ⟨earlier, last, -, isLast, isList⟩ := withStatement_eq_ok isEmpty
    obtain ⟨s, rfl, -⟩ := corresponds.statement isLast
    exact List.append_ne_nil_of_right_ne_nil earlier.statementList
      (List.cons_ne_nil s []) (Phrase.statements.inj isList).symm

/-- Two parsers that read the same tokens: within a statement, or after one that
has not been added to the statements before. -/
inductive Joined (move : Nat → Nat) (front : List Statement) :
    List ScriptFrame → List ScriptFrame → Prop where
  | within
      {stack stack' frames frames' : List ScriptFrame}
      {phrase phrase' : Except PhraseFailure Phrase}
      {symbols : List (GrammarSymbol Terminal Category)}
      (grounds : Grounds move front stack stack' phrase phrase')
      (twin : Twin move frames frames' symbols)
      (begins : ∀ symbol ∈ symbols.getLast?, Begins symbol) :
      Joined move front (frames ++ stack) (frames' ++ stack')
  | closing
      {stack stack' : List ScriptFrame}
      {phrase phrase' body body' : Except PhraseFailure Phrase}
      {state state' : Nat}
      (grounds : Grounds move front stack stack' phrase phrase')
      (follows : language.goto? (Language.top stack) .statement = some state)
      (follows' : language.goto? (Language.top stack') .statement = some state')
      (corresponds : Corresponds move (.phrase .statement) body body') :
      Joined move front (⟨state, body⟩ :: stack) (⟨state', body'⟩ :: stack')

/-- After a statement, it is reduced before all that can follow a statement. -/
theorem Base.action_closing
    {stack : List ScriptFrame}
    {phrase : Except PhraseFailure Phrase}
    {state : Nat}
    (base : Base stack phrase)
    (follows : language.goto? (Language.top stack) .statement = some state) :
    ∃ rule, ∀ kind, language.action? state kind =
      if followers.contains kind then some (.reduce rule) else none := by
  have first : language.action? 4 .finish = some (.reduce .firstStatement) := by
    rw [← Language.actionAt?_eq row_eq]
    decide +kernel
  have next : language.action? 28 .finish = some (.reduce .nextStatement) := by
    rw [← Language.actionAt?_eq row_eq]
    decide +kernel
  obtain ⟨start, -, led, -, filled, ledFilled⟩ := goto_ground
  cases base with
  | start =>
      obtain rfl := Option.some.inj (start.symm.trans follows)
      exact ⟨_, IsInner.action_of_finish (by decide) first⟩
  | led =>
      obtain rfl := Option.some.inj (led.symm.trans follows)
      exact ⟨_, IsInner.action_of_finish (by decide) first⟩
  | filled =>
      obtain rfl := Option.some.inj (filled.symm.trans follows)
      exact ⟨_, IsInner.action_of_finish (by decide) next⟩
  | ledFilled =>
      obtain rfl := Option.some.inj (ledFilled.symm.trans follows)
      exact ⟨_, IsInner.action_of_finish (by decide) next⟩

/-- The statements of a program begin with a statement. -/
theorem head_of_statements :
    ∀ rule ∈ Rule.all, rule.category = .statements →
      ∃ first ∈ (grammar.symbols rule).head?, ¬Begins first := by
  decide +kernel

namespace Joined

variable {stack stack' : List ScriptFrame}

/-- A token is pushed on both sides. -/
theorem shift
    (joined : Joined move front stack stack')
    {token token' : Token Terminal}
    {target : Nat}
    (moves : TokenMoves move token token')
    (shifts :
      language.action? (Language.top stack) token.kind = some (.shift target))
    (begun : token.kind = .newline → stack = [] → stack' = []) :
    language.action? (Language.top stack') token.kind = some (.shift target) ∧
      Joined move front (⟨target, .ok (.token token)⟩ :: stack)
        (⟨target, .ok (.token token')⟩ :: stack') := by
  have corresponds : Corresponds move (.token token.kind) (.ok (.token token))
      (.ok (.token token')) := by
    rintro _ ⟨⟩
    exact ⟨_, rfl, .token moves⟩
  cases joined with
  | @within stack stack' frames frames' _ _ symbols grounds twin begins =>
      cases twin with
      | nil =>
          rcases ground_shift grounds.base.top_mem shifts with
            ⟨isBreak, isStart, rfl⟩ | ⟨notBreak, inner, -, isPast, same⟩
          · obtain rfl := grounds.base.eq_nil isStart
            obtain rfl := begun isBreak rfl
            refine ⟨shifts, ?_⟩
            show Joined move front ([] ++ [⟨2, .ok (.token token)⟩])
              ([] ++ [⟨2, .ok (.token token')⟩])
            refine .within ⟨.led token, .led token', nofun, ?_,
              fun _ notLed => absurd rfl notLed⟩
              .nil nofun
            cases grounds.base
            cases grounds.base'
            exact grounds.agrees
          · refine ⟨same _ grounds.base'.top_mem, ?_⟩
            show Joined move front ([⟨target, .ok (.token token)⟩] ++ stack)
              ([⟨target, .ok (.token token')⟩] ++ stack')
            refine .within grounds (.cons .nil isPast inner corresponds)
              fun symbol isLast => ?_
            cases isLast
            simpa [Begins] using notBreak
      | @cons state phrase phrase' frames frames' symbol symbols below isPast inner
        earlier =>
          refine ⟨shifts, ?_⟩
          have pushed :
              Twin move (⟨target, .ok (.token token)⟩ :: ⟨state, phrase⟩ :: frames)
              (⟨target, .ok (.token token')⟩ :: ⟨state, phrase'⟩ :: frames')
              (.token token.kind :: symbol :: symbols) :=
            .cons (.cons below isPast inner earlier)
              ((traced_language.shifts shifts).1.trans
                (List.cons_prefix_cons.mpr ⟨rfl, isPast⟩))
              (inner.shift shifts) corresponds
          exact .within grounds pushed (by simpa using begins)
  | closing grounds follows follows' _ =>
      obtain ⟨rule, action⟩ := grounds.base.action_closing follows
      have noShift := (action token.kind).symm.trans shifts
      split at noShift <;> cases noShift

/-- The phrase of a rule is put on the frames below on both sides. -/
theorem goto
    {base base' frames frames' : List ScriptFrame}
    {phrase phrase' body body' : Except PhraseFailure Phrase}
    {category : Category}
    {target : Nat}
    (grounds : Grounds move front base base' phrase phrase')
    (twin : Twin move frames frames' symbols)
    (begins : ∀ symbol ∈ symbols.getLast?, Begins symbol)
    (corresponds : Corresponds move (.phrase category) body body')
    (allowed : symbols = [] → category ≠ .program ∧ category ≠ .statements)
    (follows :
      language.goto? (Language.top (frames ++ base)) category = some target) :
    ∃ target',
      language.goto? (Language.top (frames' ++ base')) category = some target' ∧
      Joined move front (⟨target, body⟩ :: (frames ++ base))
        (⟨target', body'⟩ :: (frames' ++ base')) := by
  cases twin with
  | nil =>
      obtain ⟨notProgram, notStatements⟩ := allowed rfl
      by_cases isStatement : category = .statement
      · subst isStatement
        obtain ⟨target', follows'⟩ := grounds.base'.goto_statement
        exact ⟨target', follows', .closing grounds follows follows' corresponds⟩
      · have begin : Begins (.phrase category) := by
          simp [Begins, notProgram, notStatements, isStatement]
        obtain ⟨inner, isPast, same⟩ :=
          ground_goto grounds.base.top_mem begin follows
        refine ⟨target, same _ grounds.base'.top_mem, ?_⟩
        show Joined move front ([⟨target, body⟩] ++ base)
          ([⟨target, body'⟩] ++ base')
        refine .within grounds (.cons .nil isPast inner corresponds)
          fun symbol isLast => ?_
        cases isLast
        exact begin
  | @cons state phrase phrase' frames frames' symbol symbols below isPast inner
    earlier =>
      have pushed : Twin move (⟨target, body⟩ :: ⟨state, phrase⟩ :: frames)
          (⟨target, body'⟩ :: ⟨state, phrase'⟩ :: frames')
          (.phrase category :: symbol :: symbols) :=
        .cons (.cons below isPast inner earlier)
          ((traced_language.gotos follows).1.trans
            (List.cons_prefix_cons.mpr ⟨rfl, isPast⟩))
          (inner.goto follows) corresponds
      exact ⟨target, follows, .within grounds pushed (by simpa using begins)⟩

/-- A rule is reduced on both sides: the same one, or the ones that add a
statement to the statements before. -/
theorem reduce
    (joined : Joined move front stack stack')
    {kind kind' : Terminal}
    {rule : Rule}
    (alike : kind' = kind ∨ kind = .finish ∧ kind' ∈ followers)
    (inside : Language.top stack ∉ groundStates)
    (reduces : language.action? (Language.top stack) kind = some (.reduce rule)) :
    ∃ rule', language.action? (Language.top stack') kind' = some (.reduce rule') ∧
      ∀ c c' d : Configuration Terminal Phrase PhraseFailure,
        c.stack = stack → c'.stack = stack' → language.reduce c rule = .next d →
          ∃ next next', d = { c with stack := next } ∧
            language.reduce c' rule' = .next { c' with stack := next' } ∧
              Joined move front next next' := by
  cases joined with
  | @within base base' frames frames' _ _ symbols grounds twin begins =>
      cases twin with
      | nil =>
          exact absurd grounds.base.top_mem inside
      | @cons state phrase phrase' frames frames' symbol symbols below isPast inner
        earlier =>
          have reduces' : language.action? state kind' = some (.reduce rule) := by
            rcases alike with rfl | ⟨rfl, follows⟩
            · exact reduces
            · rw [inner.action_of_finish reduces,
                if_pos (List.contains_iff_mem.mpr follows)]
          obtain ⟨member, symbolsPast⟩ := traced_language.reduces reduces
          obtain ⟨before, shape⟩ := symbolsPast.trans isPast
          obtain ⟨above, above', under, under', isFrames, isFrames', arity, arity',
            twin, combined⟩ :=
            (Twin.cons below isPast inner earlier).combine member shape.symm
          refine ⟨rule, reduces', fun c c' d isStack isStack' reduced => ?_⟩
          rw [isFrames, List.append_assoc] at isStack
          rw [isFrames', List.append_assoc] at isStack'
          obtain ⟨target, follows, rfl⟩ :=
            next_of_reduce above isStack arity reduced
          rw [← shape, List.getLast?_append] at begins
          have begins' (last : GrammarSymbol Terminal Category)
              (isLast : last ∈ before.getLast?) :
              Begins last :=
            begins last (by rw [Option.mem_def.mp isLast]; rfl)
          have allowed (isNil : before = []) :
              rule.category ≠ .program ∧ rule.category ≠ .statements := by
            refine ⟨inner.category_ne reduces, fun isStatements => ?_⟩
            obtain ⟨first, isFirst, notBegins⟩ :=
              head_of_statements rule member isStatements
            subst isNil
            rw [List.getLast?_nil, Option.none_or, List.getLast?_reverse] at begins
            exact notBegins (begins first isFirst)
          obtain ⟨target', follows', joined⟩ :=
            goto grounds twin begins' combined allowed follows
          exact ⟨_, _, rfl, reduce_append above' isStack' arity' follows', joined⟩
  | closing grounds follows follows' corresponds =>
      obtain ⟨rule', action'⟩ := grounds.base'.action_closing follows'
      obtain ⟨_, action⟩ := grounds.base.action_closing follows
      have isFollower : kind' ∈ followers := by
        rcases alike with rfl | ⟨-, isFollower⟩
        · have acts := (action kind').symm.trans reduces
          split at acts
          next follows =>
            exact List.contains_iff_mem.mp follows
          next =>
            cases acts
        · exact isFollower
      have reduces' :=
        (action' kind').trans (if_pos (List.contains_iff_mem.mpr isFollower))
      refine ⟨rule', reduces', fun c c' d isStack isStack' reduced => ?_⟩
      obtain ⟨after, -, base, next⟩ := grounds.base.close follows reduces
      obtain ⟨after', started, base', next'⟩ :=
        grounds.base'.close follows' reduces'
      rw [next c isStack] at reduced
      cases reduced
      refine ⟨after, after', rfl, next' c' isStack', ?_⟩
      exact .within (grounds.close corresponds base base' started) .nil nofun

/-- The end of the text is not accepted before the statements are a program. -/
theorem not_accepting (joined : Joined move front stack stack') :
    Language.top stack ≠ language.accepting := by
  cases joined with
  | within grounds twin _ =>
      cases twin with
      | nil =>
          intro isAccepting
          exact absurd (isAccepting ▸ grounds.base.top_mem) (by decide)
      | cons _ _ inner _ =>
          exact inner.not_accepting
  | closing grounds follows _ _ =>
      rintro rfl
      obtain ⟨rule, action⟩ := grounds.base.action_closing follows
      cases action .finish

/-- The same tokens are wanted on both sides. -/
theorem wants_eq
    (joined : Joined move front stack stack')
    (begun : stack = [] → stack' = []) :
    language.wants (Language.top stack') = language.wants (Language.top stack) := by
  cases joined with
  | @within base base' _ _ _ _ _ grounds twin _ =>
      cases twin with
      | nil =>
          by_cases isNil : base = []
          · subst isNil
            obtain rfl := begun rfl
            rfl
          · have notStart := fun isStart => isNil (grounds.base.eq_nil isStart)
            have notStart' :=
              fun isStart => isNil (grounds.started (grounds.base'.eq_nil isStart))
            exact (ground_wants grounds.base'.top_mem notStart').trans
              (ground_wants grounds.base.top_mem notStart).symm
      | cons _ _ _ _ =>
          rfl
  | closing grounds follows follows' _ =>
      obtain ⟨rule, action⟩ := grounds.base.action_closing follows
      obtain ⟨rule', action'⟩ := grounds.base'.action_closing follows'
      funext kind
      have acts := action kind
      have acts' := action' kind
      simp only [Language.wants, Language.top, acts, acts']
      split <;> rfl

end Joined

/-! ## Using tokens -/

/-- A token that stands for another one: the same one on another line, or
the end of the text. -/
def TokenFollows (move : Nat → Nat) (token token' : Token Terminal) : Prop :=
  token'.kind = token.kind ∧ (token.kind ≠ .finish → TokenMoves move token token')

/-- After a reduction the parser is neither at the start nor after
the first line break. -/
theorem top_of_reduce
    {c d : Configuration Terminal Phrase PhraseFailure}
    {rule : Rule}
    (reduced : language.reduce c rule = .next d) :
    Language.top d.stack ≠ 0 ∧ Language.top d.stack ≠ 2 := by
  have isLazy : language.eager = false := rfl
  unfold Language.reduce at reduced
  simp only [isLazy] at reduced
  split at reduced
  next =>
    cases reduced
  next =>
    split at reduced
    next =>
      cases reduced
    next target follows =>
      cases reduced
      obtain ⟨isPast, notStart, -⟩ := traced_language.gotos follows
      refine ⟨notStart, ?_⟩
      rintro rfl
      exact absurd (List.cons_prefix_cons.mp isPast).1 nofun

/-- A reduction is no end that is accepted. -/
theorem reduce_ne_accepted
    {c : Configuration Terminal Phrase PhraseFailure}
    {rule : Rule}
    {phrase : Except PhraseFailure Phrase} :
    language.reduce c rule ≠ .done (.accepted phrase) := by
  have isLazy : language.eager = false := rfl
  unfold Language.reduce
  simp only [isLazy]
  intro isDone
  split at isDone
  next =>
    cases isDone
  next =>
    split at isDone
    next =>
      cases isDone
    next =>
      cases isDone

/-- Two parsers use the same token in the same way, unless it ends the program. -/
theorem Joined.use
    {c c' : Configuration Terminal Phrase PhraseFailure}
    {token token' : Token Terminal}
    {phrase : Except PhraseFailure Phrase}
    {fuel : Nat}
    (joined : Joined move front c.stack c'.stack)
    (begun : token.kind = .newline → c.stack = [] → c'.stack = [])
    (follows : TokenFollows move token token')
    (ahead : c.ahead = some token)
    (ahead' : c'.ahead = some token')
    (notEnd : Language.top c.stack ∈ groundStates → token.kind ≠ .finish)
    (ran : language.run (fuel + 1) c = .accepted phrase) :
    ∃ next next', Joined move front next next' ∧ next ≠ [] ∧
      ((language.step c = .next { c with stack := next } ∧
          language.step c' = .next { c' with stack := next' }) ∨
        (language.action? (Language.top c.stack) token.kind =
            some (.shift (Language.top next)) ∧
          language.step c =
              .next { c with stack := next, ahead := none, last := some token } ∧
            language.step c' =
              .next { c' with
                stack := next', ahead := none, last := some token' })) := by
  have uses : language.step c = language.use c token := by
    rw [Language.step, ahead]
  have uses' : language.step c' = language.use c' token' := by
    rw [Language.step, ahead']
  rw [Language.run, uses] at ran
  rw [uses, uses']
  unfold Language.use at ran ⊢
  dsimp only at ran ⊢
  rw [follows.1]
  cases acts : language.action? (Language.top c.stack) token.kind with
  | none =>
      rw [acts] at ran
      cases ran
  | some action =>
      cases action with
      | accept =>
          exact absurd (Language.accepting_of_accept acts).1 joined.not_accepting
      | shift target =>
          have moves := follows.2 (traced_language.shifts acts).2.2.2
          obtain ⟨acts', pushed⟩ := joined.shift moves acts begun
          rw [acts']
          exact ⟨_, _, pushed, List.cons_ne_nil _ _, .inr ⟨rfl, rfl, rfl⟩⟩
      | reduce rule =>
          have inside : Language.top c.stack ∉ groundStates := fun ground =>
            notEnd ground (ground_reduce ground acts)
          obtain ⟨rule', acts', reduces⟩ := joined.reduce (.inl rfl) inside acts
          rw [acts] at ran
          rw [acts']
          dsimp only at ran ⊢
          cases reduced : language.reduce c rule with
          | done result =>
              rw [reduced] at ran
              obtain rfl : result = .accepted phrase := ran
              exact absurd reduced reduce_ne_accepted
          | next d =>
              obtain ⟨next, next', rfl, reduced', joined'⟩ :=
                reduces c c' d rfl rfl reduced
              refine ⟨next, next', joined', ?_, .inl ⟨rfl, reduced'⟩⟩
              rintro rfl
              exact (top_of_reduce reduced).1 rfl

end GridScript.Script
