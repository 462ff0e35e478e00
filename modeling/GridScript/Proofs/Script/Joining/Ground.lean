import GridScript.Proofs.Script.Syntax.Table

namespace GridScript.Script

/-!
# The statements before

At the end of a statement of a program, the stack holds the statements before
and a line break at the start of the text, if there is one. In all these states
the parser goes on in the same way: the table says so, row by row.
-/

open GridScript.Parsing

/-! ## Rows -/

namespace Table

/-- The states of a program that has been read up to the end of a statement: at
the start, after the first line break, after statements, and after both. -/
def groundStates : List Nat :=
  [0, 2, 3, 27]

/-- The states within a statement. -/
def IsInner (state : Nat) : Prop :=
  state ∉ 1 :: groundStates

instance (state : Nat) : Decidable (IsInner state) :=
  inferInstanceAs (Decidable (state ∉ 1 :: groundStates))

/-- The first tokens of statements. -/
def openers : List Terminal :=
  [.name, .keyword .dimKw, .keyword .ifKw, .keyword .forKw, .keyword .whileKw,
    .keyword .functionKw, .keyword .subKw, .keyword .returnKw, .keyword .exitKw,
    .keyword .callKw]

/-- The keywords after a block. -/
def closers : List Keyword :=
  [.elseifKw, .elseKw, .endKw, .nextKw, .wendKw]

/-- The tokens that can follow a statement. -/
def followers : List Terminal :=
  openers ++ closers.map .keyword ++ [.finish]

/-- A symbol by which a parser comes into a statement. -/
def Begins (symbol : GrammarSymbol Terminal Category) : Prop :=
  symbol ∉
    [.token .newline, .phrase .statement, .phrase .statements, .phrase .program]

instance (symbol : GrammarSymbol Terminal Category) : Decidable (Begins symbol) :=
  inferInstanceAs (Decidable (symbol ∉ _))

/-- A row of a state within a statement leads to such states only, and if it
reduces before the end of the text, it does nothing else and does so before all
that can follow a statement. -/
def staysInside (state : Nat) : Bool :=
  let row := rowIn state parts
  row.shifts.all (fun shift => decide (IsInner shift.2)) &&
    row.gotos.all (fun entry => decide (IsInner entry.2)) &&
    row.reductions.all fun (rule, kinds) =>
      rule.category != .program &&
        (!kinds.contains .finish ||
          (row.shifts.isEmpty && row.reductions == [(rule, followers)]))

theorem staysInside_rows :
    ((List.range 253).all fun state =>
      !decide (IsInner state) || staysInside state) = true := by
  decide +kernel

/-- In a ground state a line break leads from the start to the state
after it, and other tokens lead into a statement, to the same states from
all ground states. -/
theorem ground_shifts :
    ∀ state ∈ groundStates, ∀ shift ∈ (rowIn state parts).shifts,
      (shift.1 = .newline ∧ state = 0 ∧ shift.2 = 2) ∨
        (shift.1 ≠ .newline ∧ IsInner shift.2 ∧ shift.1 ∈ openers ∧
          past shift.2 <+: [.token shift.1] ∧
          ∀ other ∈ groundStates,
            language.actionAt? (rowIn · parts) other shift.1 =
              some (.shift shift.2)) := by
  decide +kernel

/-- In a ground state only the end of the text ends anything. -/
theorem ground_reductions :
    ∀ state ∈ groundStates, ∀ entry ∈ (rowIn state parts).reductions,
      entry.2 = [.finish] := by
  decide +kernel

/-- After the start, the ground states push the same tokens. -/
theorem ground_rows :
    ∀ state ∈ groundStates, state ≠ 0 →
      (rowIn state parts).shifts = (rowIn 2 parts).shifts ∧
        (rowIn state parts).reductions.map Prod.snd = [[.finish]] := by
  decide +kernel

theorem ground_gotos :
    ∀ state ∈ groundStates, ∀ entry ∈ (rowIn state parts).gotos,
      Begins (.phrase entry.1) →
      IsInner entry.2 ∧ past entry.2 <+: [.phrase entry.1] ∧
        ∀ other ∈ groundStates,
          Language.gotoAt? (rowIn · parts) other entry.1 = some entry.2 := by
  decide +kernel

theorem staysInside_of_inner
    {state : Nat}
    (inner : IsInner state) :
    staysInside state = true := by
  by_cases inside : state < 253
  · simpa [inner]
      using List.all_eq_true.mp staysInside_rows state (List.mem_range.mpr inside)
  · simp [staysInside, rowIn_of_le (Nat.le_of_not_lt inside), emptyRow]

section IsInner

variable {state : Nat} (inner : IsInner state)

include inner

theorem IsInner.shift
    {target : Nat}
    {kind : Terminal}
    (shifts : language.action? state kind = some (.shift target)) :
    IsInner target := by
  have kept := staysInside_of_inner inner
  simp only [staysInside, Bool.and_eq_true] at kept
  have member := row_eq state ▸ Language.mem_shifts_of_action shifts
  simpa using List.all_eq_true.mp kept.1.1 _ member

theorem IsInner.goto
    {target : Nat}
    {category : Category}
    (follows : language.goto? state category = some target) :
    IsInner target := by
  have kept := staysInside_of_inner inner
  simp only [staysInside, Bool.and_eq_true] at kept
  have member := row_eq state ▸ Language.mem_gotos_of_goto follows
  simpa using List.all_eq_true.mp kept.1.2 _ member

theorem IsInner.category_ne
    {kind : Terminal}
    {rule : Rule}
    (reduces : language.action? state kind = some (.reduce rule)) :
    rule.category ≠ .program := by
  have kept := staysInside_of_inner inner
  simp only [staysInside, Bool.and_eq_true] at kept
  obtain ⟨kinds, member, -⟩ := Language.mem_reductions_of_action reduces
  have each := List.all_eq_true.mp kept.2 _ (row_eq state ▸ member)
  simp only [Bool.and_eq_true, bne_iff_ne] at each
  exact each.1

theorem IsInner.not_accepting : state ≠ language.accepting :=
  List.ne_of_not_mem_cons inner

/-- What is reduced before the end of the text is reduced before all that can
follow a statement, and before nothing else. -/
theorem IsInner.action_of_finish
    {rule : Rule}
    (reduces : language.action? state .finish = some (.reduce rule))
    (kind : Terminal) :
    language.action? state kind =
      if followers.contains kind then some (.reduce rule) else none := by
  have kept := staysInside_of_inner inner
  simp only [staysInside, Bool.and_eq_true] at kept
  obtain ⟨kinds, member, atEnd⟩ := Language.mem_reductions_of_action reduces
  have each := List.all_eq_true.mp kept.2 _ (row_eq state ▸ member)
  have isLast : kinds.contains Terminal.finish = true :=
    List.contains_iff_mem.mpr atEnd
  simp only [isLast, Bool.and_eq_true, Bool.not_true, Bool.false_or] at each
  have shifts := List.isEmpty_iff.mp each.2.1
  have reductions := eq_of_beq each.2.2
  have notAccepting : (state == language.accepting) = false :=
    beq_false_of_ne inner.not_accepting
  rw [Language.action?, notAccepting, Bool.false_and, if_neg Bool.false_ne_true]
  dsimp only
  rw [row_eq, shifts, reductions]
  simp only [List.find?_nil, List.find?_cons]
  cases followers.contains kind <;> rfl

end IsInner

section Ground

variable {state : Nat} (ground : state ∈ groundStates)

include ground

theorem ground_reduce
    {kind : Terminal}
    {rule : Rule}
    (reduces : language.action? state kind = some (.reduce rule)) :
    kind = .finish := by
  obtain ⟨kinds, member, isKind⟩ := Language.mem_reductions_of_action reduces
  obtain rfl := ground_reductions state ground _ (row_eq state ▸ member)
  exact List.mem_singleton.mp isKind

/-- After the start, the same tokens are wanted in all ground states. -/
theorem ground_wants (begun : state ≠ 0) :
    language.wants state = language.wants 2 := by
  obtain ⟨shifts, reductions⟩ := ground_rows state ground begun
  obtain ⟨-, reductionsLed⟩ := ground_rows 2 (by decide) (by decide)
  have notAccepting : state ≠ language.accepting := by
    rintro rfl
    exact absurd ground (by decide)
  funext kind
  rw [Language.wants_eq_any notAccepting, Language.wants_eq_any (by decide), row_eq,
    row_eq, shifts]
  have reduced (rows : List (Rule × List Terminal)) :
      rows.any (fun reduction => reduction.2.contains kind) =
        (rows.map Prod.snd).any fun kinds => kinds.contains kind :=
    (List.any_map ..).symm
  rw [reduced, reduced, reductions, reductionsLed]

/-- What a ground state does with a token: the first line break is pushed,
the first token of a statement leads into the statement, and the end of the
text ends the program. -/
theorem ground_shift
    {target : Nat}
    {kind : Terminal}
    (shifts : language.action? state kind = some (.shift target)) :
    (kind = .newline ∧ state = 0 ∧ target = 2) ∨
      (kind ≠ .newline ∧ IsInner target ∧ kind ∈ openers ∧
        past target <+: [.token kind] ∧
        ∀ other ∈ groundStates,
          language.action? other kind = some (.shift target)) := by
  have entry :=
    ground_shifts state ground _
      (row_eq state ▸ Language.mem_shifts_of_action shifts)
  simpa only [Language.actionAt?_eq row_eq] using entry

theorem ground_goto
    {target : Nat}
    {category : Category}
    (begins : Begins (.phrase category))
    (follows : language.goto? state category = some target) :
    IsInner target ∧ past target <+: [.phrase category] ∧
      ∀ other ∈ groundStates, language.goto? other category = some target := by
  have entry :=
    ground_gotos state ground _ (row_eq state ▸ Language.mem_gotos_of_goto follows)
    begins
  simpa only [Language.gotoAt?_eq row_eq] using entry

end Ground

end Table

open Table

/-! ## Statements before -/

/-- A frame of the parser of scripts. -/
abbrev ScriptFrame :=
  Frame Phrase PhraseFailure

/-- The stack of a program that has been read up to the end of a statement, with
the phrase of the statements. -/
inductive Base : List ScriptFrame → Except PhraseFailure Phrase → Prop where
  | start : Base [] (.ok (.statements []))
  | led
      (token : Token Terminal) :
      Base [⟨2, .ok (.token token)⟩] (.ok (.statements []))
  | filled (phrase : Except PhraseFailure Phrase) : Base [⟨3, phrase⟩] phrase
  | ledFilled (token : Token Terminal) (phrase : Except PhraseFailure Phrase) :
      Base [⟨27, phrase⟩, ⟨2, .ok (.token token)⟩] phrase

/-- The phrase of the statements of a phrase and those of another one. -/
def withStatement
    (front body : Except PhraseFailure Phrase) : Except PhraseFailure Phrase := do
  return .statements ((← front).statementList ++ (← body).statementList)

/-- A rule is reduced whether or not its phrase has an error. -/
theorem reduce_append
    {c : Configuration Terminal Phrase PhraseFailure}
    {rule : Rule}
    {below : List ScriptFrame}
    {target : Nat}
    (frames : List ScriptFrame)
    (stack : c.stack = frames ++ below)
    (arity : frames.length = rule.arity)
    (follows : language.goto? (Language.top below) rule.category = some target) :
    language.reduce c rule = .next { c with
      stack :=
      ⟨target, language.combine rule (frames.map Frame.phrase).reverse⟩ ::
        below } := by
  have isArity : language.arity rule = frames.length := arity.symm
  have isCategory : language.category rule = rule.category := rfl
  unfold Language.reduce
  simp only [isArity, isCategory, stack, List.take_left, List.drop_left,
    Nat.lt_irrefl, if_false, follows]
  rfl

/-- A reduction replaces as many frames as the rule has parts. -/
theorem next_of_reduce
    {c d : Configuration Terminal Phrase PhraseFailure}
    {rule : Rule}
    {below : List ScriptFrame}
    (frames : List ScriptFrame)
    (stack : c.stack = frames ++ below)
    (arity : frames.length = rule.arity)
    (reduced : language.reduce c rule = .next d) :
    ∃ target, language.goto? (Language.top below) rule.category = some target ∧
      d = { c with
        stack :=
        ⟨target, language.combine rule (frames.map Frame.phrase).reverse⟩ ::
          below } := by
  cases follows : language.goto? (Language.top below) rule.category with
  | some target =>
      rw [reduce_append frames stack arity follows] at reduced
      exact ⟨target, rfl, (Progress.next.inj reduced).symm⟩
  | none =>
      have isArity : language.arity rule = frames.length := arity.symm
      have isCategory : language.category rule = rule.category := rfl
      unfold Language.reduce at reduced
      simp only [isArity, isCategory, stack, List.take_left, List.drop_left,
        Nat.lt_irrefl, if_false, follows] at reduced
      cases reduced

theorem withStatement_eq_ok
    {front body : Except PhraseFailure Phrase}
    {part : Phrase}
    (isBuilt : withStatement front body = .ok part) :
    ∃ earlier last, front = .ok earlier ∧ body = .ok last ∧
      part = .statements (earlier.statementList ++ last.statementList) := by
  obtain ⟨earlier, isFront, isBuilt⟩ := Except.bind_eq_ok isBuilt
  obtain ⟨last, isBody, isBuilt⟩ := Except.bind_eq_ok isBuilt
  cases isBuilt
  exact ⟨earlier, last, isFront, isBody, rfl⟩

theorem reduce_firstStatement
    {c : Configuration Terminal Phrase PhraseFailure}
    {state last : Nat}
    {body : Except PhraseFailure Phrase}
    {below : List ScriptFrame}
    (stack : c.stack = ⟨state, body⟩ :: below)
    (follows : language.goto? (Language.top below) .statements = some last) :
    language.reduce c .firstStatement = .next { c with
      stack := ⟨last, withStatement (.ok (.statements [])) body⟩ :: below } := by
  have combined : language.combine .firstStatement [body] =
      withStatement (.ok (.statements [])) body := by
    cases body <;> rfl
  rw [← combined]
  exact reduce_append [⟨state, body⟩] stack rfl follows

theorem reduce_nextStatement
    {c : Configuration Terminal Phrase PhraseFailure}
    {state before last : Nat}
    {front body : Except PhraseFailure Phrase}
    {below : List ScriptFrame}
    (stack : c.stack = ⟨state, body⟩ :: ⟨before, front⟩ :: below)
    (follows : language.goto? (Language.top below) .statements = some last) :
    language.reduce c .nextStatement = .next { c with
      stack := ⟨last, withStatement front body⟩ :: below } := by
  have combined :
      language.combine .nextStatement [front, body] = withStatement front body := by
    cases front <;> cases body <;> rfl
  rw [← combined]
  exact reduce_append [⟨state, body⟩, ⟨before, front⟩] stack rfl follows

/-- The states after statements on the ground states. -/
theorem goto_ground :
    language.goto? 0 .statement = some 4 ∧ language.goto? 0 .statements = some 3 ∧
      language.goto? 2 .statement = some 4 ∧
        language.goto? 2 .statements = some 27 ∧
        language.goto? 3 .statement = some 28 ∧
          language.goto? 27 .statement = some 28 := by
  simp only [← Language.gotoAt?_eq row_eq]
  decide +kernel

/-- After a statement, it is reduced with the statements before. -/
theorem rule_of_closed :
    (∀ entry ∈ (rowIn 4 parts).reductions, entry.1 = .firstStatement) ∧
      ∀ entry ∈ (rowIn 28 parts).reductions, entry.1 = .nextStatement := by
  decide +kernel

/-- At the end of the text, the ground states end the program. -/
theorem action_ground :
    language.action? 0 .finish = some (.reduce (.program false false)) ∧
      language.action? 2 .finish = some (.reduce (.program true false)) ∧
        language.action? 3 .finish = some (.reduce (.program false true)) ∧
          language.action? 27 .finish = some (.reduce (.program true true)) := by
  simp only [← Language.actionAt?_eq row_eq]
  decide +kernel

namespace Base

variable {stack : List ScriptFrame} {phrase : Except PhraseFailure Phrase}

theorem eq_nil
    (base : Base stack phrase)
    (isStart : Language.top stack = 0) :
    stack = [] := by
  cases base with
  | start =>
      rfl
  | _ =>
      cases isStart

theorem goto_statement (base : Base stack phrase) :
    ∃ state, language.goto? (Language.top stack) .statement = some state := by
  obtain ⟨start, -, led, -, filled, ledFilled⟩ := goto_ground
  cases base with
  | start =>
      exact ⟨4, start⟩
  | led =>
      exact ⟨4, led⟩
  | filled =>
      exact ⟨28, filled⟩
  | ledFilled =>
      exact ⟨28, ledFilled⟩

theorem top_mem (base : Base stack phrase) : Language.top stack ∈ groundStates := by
  cases base <;> simp [Language.top, groundStates]

/-- A statement after the statements before is reduced with them. -/
theorem close
    (base : Base stack phrase)
    {body : Except PhraseFailure Phrase}
    {target : Nat}
    {kind : Terminal}
    {rule : Rule}
    (follows : language.goto? (Language.top stack) .statement = some target)
    (reduces : language.action? target kind = some (.reduce rule)) :
    ∃ after, after ≠ [] ∧ Base after (withStatement phrase body) ∧
      ∀ c : Configuration Terminal Phrase PhraseFailure,
        c.stack = ⟨target, body⟩ :: stack →
        language.reduce c rule = .next { c with stack := after } := by
  obtain ⟨kinds, member, -⟩ := Language.mem_reductions_of_action reduces
  rw [row_eq] at member
  obtain ⟨startOne, startMany, ledOne, ledMany, filledOne, ledFilledOne⟩ :=
    goto_ground
  cases base with
  | start =>
      obtain rfl := Option.some.inj (startOne.symm.trans follows)
      obtain rfl := rule_of_closed.1 _ member
      exact ⟨_, List.cons_ne_nil _ _, .filled _,
        fun c stack => reduce_firstStatement stack startMany⟩
  | led token =>
      obtain rfl := Option.some.inj (ledOne.symm.trans follows)
      obtain rfl := rule_of_closed.1 _ member
      exact ⟨_, List.cons_ne_nil _ _, .ledFilled token _,
        fun c stack => reduce_firstStatement stack ledMany⟩
  | filled =>
      obtain rfl := Option.some.inj (filledOne.symm.trans follows)
      obtain rfl := rule_of_closed.2 _ member
      exact ⟨_, List.cons_ne_nil _ _, .filled _,
        fun c stack => reduce_nextStatement stack startMany⟩
  | ledFilled token =>
      obtain rfl := Option.some.inj (ledFilledOne.symm.trans follows)
      obtain rfl := rule_of_closed.2 _ member
      exact ⟨_, List.cons_ne_nil _ _, .ledFilled token _,
        fun c stack => reduce_nextStatement stack ledMany⟩

/-- At the end of the text, the statements before are the program. -/
theorem run_finish
    (base : Base stack phrase)
    {c : Configuration Terminal Phrase PhraseFailure}
    {token : Token Terminal}
    (isStack : c.stack = stack)
    (ahead : c.ahead = some token)
    (atEnd : token.kind = .finish)
    (fuel : Nat) :
    language.run (fuel + 2) c =
      .accepted (do return .statements (← phrase).statementList) := by
  have whole (rule : Rule) (arity : stack.length = rule.arity)
    (isProgram : rule.category = .program)
      (reduces :
        language.action? (Language.top stack) .finish = some (.reduce rule)) :
      language.run (fuel + 2) c =
        .accepted (language.combine rule (stack.map Frame.phrase).reverse) := by
    have toEnd : language.goto? 0 rule.category = some 1 := by
      rw [isProgram, ← Language.gotoAt?_eq row_eq]
      rfl
    have first : language.step c = .next { c with
        stack :=
        [⟨1, language.combine rule (stack.map Frame.phrase).reverse⟩] } := by
      have uses : language.step c = language.reduce c rule := by
        simp only [Language.step, ahead, Language.use, atEnd, isStack, reduces]
      exact uses.trans
        (reduce_append stack (isStack.trans (List.append_nil stack).symm)
          arity toEnd)
    have accepts : language.action? 1 .finish = some .accept := rfl
    rw [Language.run, first]
    simp only [Language.run, Language.step, ahead, Language.use, Language.top,
      atEnd, accepts]
  obtain ⟨fromStart, fromLed, fromFilled, fromLedFilled⟩ := action_ground
  cases base with
  | start =>
      exact whole _ rfl rfl fromStart
  | led token =>
      exact whole _ rfl rfl fromLed
  | filled =>
      rw [whole _ rfl rfl fromFilled]
      cases phrase with
      | error failure =>
          rfl
      | ok part =>
          exact
            congrArg (fun body => Result.accepted (.ok (Phrase.statements body)))
            (List.append_nil part.statementList)
  | ledFilled token =>
      rw [whole _ rfl rfl fromLedFilled]
      cases phrase with
      | error failure =>
          rfl
      | ok part =>
          exact
            congrArg (fun body => Result.accepted (.ok (Phrase.statements body)))
            (List.append_nil part.statementList)

end Base

end GridScript.Script
