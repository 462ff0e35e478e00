import GridScript.Proofs.Change
import GridScript.Proofs.Parsing.Completeness
import GridScript.Proofs.Parsing.Scanning
import Mathlib.Algebra.Ring.Int.Defs

namespace GridScript.Parsing

/-!
# Sound tables

Every path to a state of a table goes over the same last symbols, those that an
item of the state has before its dot. If these are known for every state, and a
rule is reduced only where its symbols are the last ones, then what a parser
accepts is derived by the rules from tokens that stand one after the other in
the text. The parser has taken two steps for each token and one for each rule.
-/

namespace Language

variable {Kind Rule Category Phrase Fault : Type}
variable {language : Language Kind Rule Category Phrase Fault}
variable {grammar : Grammar Kind Rule Category}
variable [BEq Kind] [BEq Category]

/-- The last symbols before each state are known: `past` lists them
from the state back. -/
structure Traced
    (language : Language Kind Rule Category Phrase Fault)
    (grammar : Grammar Kind Rule Category)
    (start : Category)
    (past : Nat → List (GrammarSymbol Kind Category)) : Prop where
  shifts :
    ∀ {state target : Nat} {kind : Kind},
      language.action? state kind = some (.shift target) →
        past target <+: .token kind :: past state ∧ target ≠ 0 ∧
          target ≠ language.accepting ∧ kind ≠ language.finish
  gotos :
    ∀ {state target : Nat} {category : Category},
      language.goto? state category = some target →
        past target <+: .phrase category :: past state ∧ target ≠ 0 ∧
          (target = language.accepting → state = 0 ∧ category = start)
  reduces :
    ∀ {state : Nat} {kind : Kind} {rule : Rule},
      language.action? state kind = some (.reduce rule) →
        rule ∈ grammar.rules ∧ (grammar.symbols rule).reverse <+: past state
  initial : past 0 = []
  arity :
    ∀ rule ∈ grammar.rules, language.arity rule = (grammar.symbols rule).length
  finish : language.finish ∉ language.lexicon.order

/-- A stack over some symbols, the last first, that stand for tokens: every
phrase on it without an error is derived. The count is the number of rules that
have been applied. -/
inductive Stacked
    (language : Language Kind Rule Category Phrase Fault)
    (grammar : Grammar Kind Rule Category)
    (start : Category)
    (past : Nat → List (GrammarSymbol Kind Category)) :
    List (Frame Phrase Fault) → List (GrammarSymbol Kind Category) →
      List (Token Kind) → Nat → Prop where
  | nil : Stacked language grammar start past [] [] [] 0
  | cons
      {frame : Frame Phrase Fault}
      {stack : List (Frame Phrase Fault)}
      {symbol : GrammarSymbol Kind Category}
      {symbols : List (GrammarSymbol Kind Category)}
      {tokens segment : List (Token Kind)}
      {count more : Nat}
      (below : Stacked language grammar start past stack symbols tokens count)
      (isPast : past frame.state <+: symbol :: symbols)
      (notZero : frame.state ≠ 0)
      (single :
        frame.state = language.accepting → stack = [] ∧ symbol = .phrase start)
      (derived :
        ∀ phrase, frame.phrase = .ok phrase →
          Derives language grammar [symbol] segment [phrase] more) :
      Stacked language grammar start past (frame :: stack) (symbol :: symbols)
        (tokens ++ segment) (count + more)

namespace Stacked

variable {start : Category} {past : Nat → List (GrammarSymbol Kind Category)}
variable {stack : List (Frame Phrase Fault)}
variable {symbols : List (GrammarSymbol Kind Category)}
variable {tokens : List (Token Kind)}
variable {count : Nat}

omit [BEq Kind] [BEq Category] in
/-- The last symbols of the stack are those before the state on top. -/
theorem past_top
    (stacked : Stacked language grammar start past stack symbols tokens count)
    (initial : past 0 = []) :
    past (top stack) <+: symbols := by
  cases stacked with
  | nil =>
      exact initial ▸ List.prefix_refl (past 0)
  | cons _ isPast _ _ _ =>
      exact isPast

omit [BEq Kind] [BEq Category] in
/-- Only the empty stack has the initial state on top. -/
theorem eq_nil
    (stacked : Stacked language grammar start past stack symbols tokens count)
    (isTop : top stack = 0) :
    stack = [] := by
  cases stacked with
  | nil =>
      rfl
  | cons _ _ notZero _ _ =>
      exact absurd isTop notZero

omit [BEq Kind] [BEq Category] in
/-- The frames over some last symbols stand for the last tokens, and if they
have no errors, their phrases are derived in order. -/
theorem split
    {last before : List (GrammarSymbol Kind Category)}
    (stacked : Stacked language grammar start past stack symbols tokens count)
    (shape : symbols = last ++ before) :
    last.length ≤ stack.length ∧
      ∃ earlier later earlierCount laterCount,
        tokens = earlier ++ later ∧ count = earlierCount + laterCount ∧
        Stacked language grammar start past (stack.drop last.length) before earlier
          earlierCount ∧
        ∀ parts,
          ((stack.take last.length).map Frame.phrase).reverse.mapM id = .ok parts →
            Derives language grammar last.reverse later parts laterCount := by
  induction last generalizing stack symbols tokens count with
  | nil =>
      subst shape
      refine ⟨Nat.zero_le _, tokens, [], count, 0, by simp, rfl, stacked,
        fun parts same => ?_⟩
      cases same
      exact .nil
  | cons symbol last inductionHypothesis =>
      cases stacked with
      | nil =>
          cases shape
      | @cons frame stack _ _ tokens segment count more below isPast notZero single
        derived =>
          cases shape
          obtain ⟨enough, earlier, later, earlierCount, laterCount, rfl, rfl, rest,
            derives⟩ :=
            inductionHypothesis below rfl
          refine ⟨Nat.succ_le_succ enough, earlier, later ++ segment, earlierCount,
            laterCount + more, by simp, Nat.add_assoc .., rest,
            fun parts same => ?_⟩
          rw [List.length_cons, List.take_succ_cons, List.map_cons,
            List.reverse_cons, List.mapM_append] at same
          obtain ⟨front, isFront, same⟩ := Except.bind_eq_ok same
          obtain ⟨back, isBack, same⟩ := Except.bind_eq_ok same
          cases same
          obtain ⟨phrase, isPhrase, isBack⟩ := Except.bind_eq_ok isBack
          cases isBack
          rw [List.reverse_cons]
          exact (derives front isFront).append (derived phrase isPhrase)

end Stacked

/-- What a parser has read: the tokens on its stack and the one ahead, or
the end of the text. -/
inductive Read
    (language : Language Kind Rule Category Phrase Fault)
    (text : List Char) :
    Configuration Kind Phrase Fault → List (Token Kind) → Prop where
  | unread
      {stack : List (Frame Phrase Fault)}
      {last : Option (Token Kind)}
      {place : Place}
      {rest : List Char}
      {tokens : List (Token Kind)}
      (scanned : language.lexicon.Scanned .start text tokens place rest) :
      Read language text ⟨stack, none, last, place, rest⟩ tokens
  | ahead
      {stack : List (Frame Phrase Fault)}
      {last : Option (Token Kind)}
      {place : Place}
      {rest : List Char}
      {tokens : List (Token Kind)}
      {token : Token Kind}
      (scanned :
        language.lexicon.Scanned .start text (tokens ++ [token]) place rest)
      (notEnd : token.kind ≠ language.finish) :
      Read language text ⟨stack, some token, last, place, rest⟩ tokens
  | finished
      {stack : List (Frame Phrase Fault)}
      {last : Option (Token Kind)}
      {place before : Place}
      {rest left : List Char}
      {tokens : List (Token Kind)}
      {token : Token Kind}
      {wanted : Kind → Bool}
      (scanned : language.lexicon.Scanned .start text tokens before left)
      (ended : language.lexicon.scan wanted before left = .finished)
      (atEnd : token.kind = language.finish) :
      Read language text ⟨stack, some token, last, place, rest⟩ tokens

/-- The phrase of a text is derived from the tokens of the text, at so many
steps. -/
def Accepts
    (language : Language Kind Rule Category Phrase Fault)
    (grammar : Grammar Kind Rule Category)
    (start : Category)
    (text : List Char)
    (phrase : Phrase)
    (steps : Nat) : Prop :=
  ∃ tokens place left wanted count,
    language.lexicon.Scanned .start text tokens place left ∧
    language.lexicon.scan wanted place left = .finished ∧
    Derives language grammar [.phrase start] tokens [phrase] count ∧
    count + 2 * tokens.length + 2 = steps

omit [BEq Category] in
/-- Only the end of the text is accepted, and only in the state for it. -/
theorem accepting_of_accept
    [LawfulBEq Kind]
    {state : Nat}
    {kind : Kind}
    (accepts : language.action? state kind = some .accept) :
    state = language.accepting ∧ kind = language.finish := by
  unfold action? at accepts
  split at accepts
  next atEnd =>
    obtain ⟨isState, isKind⟩ := Bool.and_eq_true_iff.mp atEnd
    exact ⟨eq_of_beq isState, eq_of_beq isKind⟩
  next =>
    dsimp only at accepts
    split at accepts
    next =>
      cases accepts
    next =>
      obtain ⟨reduction, -, same⟩ := Option.map_eq_some_iff.mp accepts
      cases same

section Steps

variable {start : Category} {past : Nat → List (GrammarSymbol Kind Category)}
variable {text : List Char}

/-- The steps that a parser has taken for the rules and tokens that it has used,
and for a token that it has read. -/
def spent
    (c : Configuration Kind Phrase Fault)
    (tokens : List (Token Kind))
    (count : Nat) : Nat :=
  count + 2 * tokens.length + Configuration.pending c

/-- What so many steps leave: a parser that has read tokens of the text, or a
phrase derived from them. -/
def Follows
    (language : Language Kind Rule Category Phrase Fault)
    (grammar : Grammar Kind Rule Category)
    (start : Category)
    (past : Nat → List (GrammarSymbol Kind Category))
    (text : List Char)
    (steps : Nat) : Progress Kind Phrase Fault → Prop
  | .next c =>
      ∃ symbols tokens count,
        Stacked language grammar start past c.stack symbols tokens count ∧
        Read language text c tokens ∧ spent c tokens count = steps
  | .done (.accepted (.ok phrase)) =>
      Accepts language grammar start text phrase steps
  | .done _ => True

variable
  (traced : language.Traced grammar start past)
  {c : Configuration Kind Phrase Fault}
  {symbols : List (GrammarSymbol Kind Category)}
  {tokens : List (Token Kind)}
  {count : Nat}
  (stacked : Stacked language grammar start past c.stack symbols tokens count)

include traced stacked

theorem follows_look
    (unread : c.ahead = none)
    (scanned : language.lexicon.Scanned .start text tokens c.place c.rest) :
    Follows language grammar start past text (spent c tokens count + 1)
      (language.look c) := by
  have spent (token : Token Kind) (place : Place) (rest : List Char) :
      spent { c with ahead := some token, place := place, rest := rest } tokens
        count = spent c tokens count + 1 := by
    simp [spent, Configuration.pending, unread]
  unfold look
  dsimp only
  split
  next token rest scan =>
    refine ⟨symbols, tokens, count, stacked,
        .ahead (scanned.snoc scan) fun atEnd => ?_,
      spent token _ rest⟩
    exact traced.finish (atEnd ▸ (Lexicon.stands_of_scanFrom scan).order)
  next ended =>
    exact ⟨symbols, tokens, count, stacked, .finished scanned ended rfl,
      spent _ _ _⟩
  next =>
    split
    · trivial
    · split <;> trivial

theorem follows_reduce
    {kind : Kind}
    {rule : Rule}
    (reads : Read language text c tokens)
    (reduces : language.action? (top c.stack) kind = some (.reduce rule)) :
    Follows language grammar start past text (spent c tokens count + 1)
      (language.reduce c rule) := by
  obtain ⟨member, isPast⟩ := traced.reduces reduces
  obtain ⟨before, shape⟩ := isPast.trans (stacked.past_top traced.initial)
  obtain ⟨enough, earlier, later, earlierCount, laterCount, rfl, rfl, below,
    derives⟩ :=
    stacked.split shape.symm
  rw [List.length_reverse, ← traced.arity rule member] at enough below derives
  unfold reduce
  dsimp only
  split
  · trivial
  · split
    next =>
      trivial
    next target follows =>
      split
      next =>
        trivial
      next =>
        obtain ⟨gone, notZero, single⟩ := traced.gotos follows
        have framed : Stacked language grammar start past
            (⟨target, language.combine rule
                ((c.stack.take (language.arity rule)).map Frame.phrase).reverse⟩ ::
              c.stack.drop (language.arity rule))
            (.phrase (language.category rule) :: before) (earlier ++ later)
            (earlierCount + (laterCount + 1)) := by
          refine .cons below (gone.trans ?_) notZero (fun accepting => ?_)
            fun phrase built => ?_
          · exact List.cons_prefix_cons.mpr ⟨rfl, below.past_top traced.initial⟩
          · obtain ⟨isTop, isStart⟩ := single accepting
            exact ⟨below.eq_nil isTop, by rw [isStart]⟩
          · obtain ⟨parts, isParts, isBuilt⟩ := Except.bind_eq_ok built
            have inner := derives parts isParts
            rw [List.reverse_reverse] at inner
            exact .of_rule rule member inner isBuilt
        refine ⟨_, _, _, framed, ?_, ?_⟩
        rotate_left
        · simp only [spent, Configuration.pending]
          omega
        cases reads with
        | unread scanned =>
            exact .unread scanned
        | ahead scanned notEnd =>
            exact .ahead scanned notEnd
        | finished scanned ended atEnd =>
            exact .finished scanned ended atEnd

theorem follows_use
    [LawfulBEq Kind]
    {token : Token Kind}
    (reads : Read language text c tokens)
    (ahead : c.ahead = some token) :
    Follows language grammar start past text (spent c tokens count + 1)
      (language.use c token) := by
  unfold use
  dsimp only
  split
  next target shifts =>
    obtain ⟨gone, notZero, notAccepting, notEnd⟩ := traced.shifts shifts
    have framed : Stacked language grammar start past
        (⟨target, .ok (language.leaf token)⟩ :: c.stack)
        (.token token.kind :: symbols)
        (tokens ++ [token]) (count + 0) := by
      refine .cons stacked (gone.trans ?_) notZero (fun accepting => ?_)
        fun phrase built => ?_
      · exact List.cons_prefix_cons.mpr ⟨rfl, stacked.past_top traced.initial⟩
      · exact absurd accepting notAccepting
      · cases built
        exact .token token .nil
    refine ⟨_, _, _, framed, ?_, ?_⟩
    rotate_left
    · simp [spent, Configuration.pending, ahead]
      omega
    cases reads with
    | unread scanned =>
        cases ahead
    | ahead scanned notEnd =>
        cases ahead
        exact .unread scanned
    | finished scanned ended atEnd =>
        cases ahead
        exact absurd atEnd notEnd
  next rule reduces =>
    exact follows_reduce traced stacked reads reduces
  next accepts =>
    obtain ⟨isTop, atEnd⟩ := accepting_of_accept accepts
    split
    next frame below onStack =>
      rw [onStack] at stacked isTop
      cases stacked with
      | cons beneath _ _ single derived =>
          obtain ⟨rfl, rfl⟩ := single isTop
          cases beneath
          rw [List.nil_append] at reads
          cases built : frame.phrase with
          | error fault =>
              trivial
          | ok phrase =>
              have derives := derived phrase built
              cases reads with
              | unread scanned =>
                  cases ahead
              | ahead scanned notEnd =>
                  cases ahead
                  exact absurd atEnd notEnd
              | finished scanned ended _ =>
                  refine ⟨_, _, _, _, _, scanned, ended, derives, ?_⟩
                  simp [spent, Configuration.pending]
    next =>
      trivial
  next =>
    trivial

end Steps

/-- What a run accepts is derived, and the steps of the run are counted. -/
theorem accepts_of_run
    [LawfulBEq Kind]
    {start : Category}
    {past : Nat → List (GrammarSymbol Kind Category)}
    {text : List Char}
    (traced : language.Traced grammar start past)
    (fuel : Nat)
    {c : Configuration Kind Phrase Fault}
    {symbols : List (GrammarSymbol Kind Category)}
    {tokens : List (Token Kind)}
    {count : Nat}
    {phrase : Phrase}
    (stacked : Stacked language grammar start past c.stack symbols tokens count)
    (reads : Read language text c tokens)
    (ran : language.run fuel c = .accepted (.ok phrase)) :
    ∃ steps, language.run steps c = .accepted (.ok phrase) ∧
      Accepts language grammar start text phrase
        (spent c tokens count + steps) := by
  induction fuel generalizing c symbols tokens count with
  | zero =>
      cases ran
  | succ fuel inductionHypothesis =>
      have stepped :
          Follows language grammar start past text (spent c tokens count + 1)
          (language.step c) := by
        unfold step
        split
        next unread =>
          cases reads with
          | unread scanned =>
              exact follows_look traced stacked unread scanned
          | _ =>
              cases unread
        next token ahead =>
          exact follows_use traced stacked reads ahead
      unfold run at ran
      split at ran
      next after isNext =>
        rw [isNext] at stepped
        obtain ⟨_, _, _, laterStacked, laterReads, spent⟩ := stepped
        obtain ⟨steps, laterRan, accepts⟩ :=
          inductionHypothesis laterStacked laterReads ran
        refine ⟨steps + 1, ?_, ?_⟩
        · rw [run, isNext]
          exact laterRan
        · rwa [spent, Nat.add_assoc, Nat.add_comm 1] at accepts
      next result isDone =>
        rw [isDone, ran] at stepped
        refine ⟨1, ?_, stepped⟩
        rw [run, isDone, ran]

/-- A traced table accepts only what the grammar derives from the tokens of
the text, and takes two steps for each token, one for each rule and two at
the end of the text. -/
theorem accepts_of_parse
    [LawfulBEq Kind]
    {start : Category}
    {past : Nat → List (GrammarSymbol Kind Category)}
    {text : List Char}
    {phrase : Phrase}
    (traced : language.Traced grammar start past)
    (parsed : language.parse text = .accepted (.ok phrase)) :
    ∃ steps, language.run steps (initial text) = .accepted (.ok phrase) ∧
      Accepts language grammar start text phrase steps := by
  obtain ⟨steps, ran, accepts⟩ :=
    accepts_of_run (c := initial text) traced _ .nil
      (.unread (.nil .start text)) parsed
  have unspent : spent (initial text : Configuration Kind Phrase Fault) [] 0 = 0 :=
    rfl
  rw [unspent, Nat.zero_add] at accepts
  exact ⟨steps, ran, accepts⟩

end Language

end GridScript.Parsing

namespace GridScript.Parsing

/-!
## The length of runs

If the symbols of a grammar have weights such that every rule takes some away,
and no token has more than so much, then a derivation applies at most so many
rules for each of its tokens. This bounds the steps in which a text is accepted.
-/

namespace Lexicon

variable {Kind : Type} {lexicon : Lexicon Kind} [BEq Kind]

/-- A text holds no more tokens than characters, if no lexeme is empty. -/
theorem Scanned.length_le
    (positive :
      ∀ {kind text length}, lexicon.length? kind text = some length → 0 < length)
    {place last : Place}
    {text left : List Char}
    {tokens : List (Token Kind)}
    (scanned : lexicon.Scanned place text tokens last left) :
    tokens.length ≤ text.length := by
  induction scanned with
  | nil =>
      exact Nat.zero_le _
  | @cons _ _ _ _ rest _ token tokens scan _ inductionHypothesis =>
      obtain ⟨⟨skipped, rfl, -⟩, nonempty, -, length, found, isText⟩ :=
        stands_of_scanFrom scan
      have shorter : 0 < token.text.length := by
        rw [isText, List.length_take]
        exact Nat.lt_min.mpr ⟨positive found, List.length_pos_iff.mpr nonempty⟩
      rw [List.length_cons, List.length_append, List.length_append]
      omega

end Lexicon

namespace Language

variable {Kind Rule Category Phrase Fault : Type}
variable {language : Language Kind Rule Category Phrase Fault}
variable {grammar : Grammar Kind Rule Category}

/-- Weights of symbols of which no token has more than so much and every
rule takes some away. -/
structure Weighs
    (language : Language Kind Rule Category Phrase Fault)
    (grammar : Grammar Kind Rule Category)
    (weight : GrammarSymbol Kind Category → Int)
    (most : Nat) : Prop where
  token : ∀ kind, weight (.token kind) ≤ most
  rule :
    ∀ rule ∈ grammar.rules,
      weight (.phrase (language.category rule)) <
        ((grammar.symbols rule).map weight).sum

/-- A derivation applies a bounded number of rules for each token. -/
theorem Derives.count_le
    {weight : GrammarSymbol Kind Category → Int}
    {most : Nat}
    (weighs : language.Weighs grammar weight most)
    {symbols : List (GrammarSymbol Kind Category)}
    {tokens : List (Token Kind)}
    {phrases : List Phrase}
    {count : Nat}
    (derives : Derives language grammar symbols tokens phrases count) :
    count + (symbols.map weight).sum ≤ most * tokens.length := by
  induction derives with
  | nil =>
      exact Int.le_refl 0
  | token token _ inductionHypothesis =>
      have light := weighs.token token.kind
      rw [List.map_cons, List.sum_cons, List.length_cons]
      rw [Int.natCast_add, Int.cast_ofNat_Int, Int.mul_add, Int.mul_one]
      omega
  | @phrase _ tokens _ _ _ _ _ _ rule member _ _ _ innerHypothesis restHypothesis =>
      have lighter := weighs.rule rule member
      rw [List.map_cons, List.sum_cons, List.length_append,
        Int.natCast_add tokens.length, Int.mul_add]
      omega

variable [BEq Kind] [BEq Category]

omit [BEq Category] in
/-- The steps in which a text is accepted. -/
theorem Accepts.steps_le
    {weight : GrammarSymbol Kind Category → Int}
    {most steps : Nat}
    {start : Category}
    {text : List Char}
    {phrase : Phrase}
    (weighs : language.Weighs grammar weight most)
    (positive :
      ∀ {kind text length}, language.lexicon.length? kind text = some length →
        0 < length)
    (accepts : Accepts language grammar start text phrase steps) :
    steps + weight (.phrase start) ≤ ((most + 2) * text.length + 2 : Nat) := by
  obtain ⟨tokens, place, left, wanted, count, scanned, -, derives, rfl⟩ := accepts
  have rules := derives.count_le weighs
  have short : most * tokens.length ≤ most * text.length :=
    Nat.mul_le_mul_left most (scanned.length_le positive)
  have fewer := scanned.length_le positive
  rw [List.map_singleton, List.sum_singleton, ← Int.natCast_mul] at rules
  rw [Nat.add_mul]
  omega

/-- More fuel does not change how a run ends. -/
theorem run_add
    {fuel : Nat}
    {c : Configuration Kind Phrase Fault}
    {phrase : Except Fault Phrase}
    (ran : language.run fuel c = .accepted phrase)
    (more : Nat) :
    language.run (fuel + more) c = .accepted phrase := by
  induction fuel generalizing c with
  | zero =>
      cases ran
  | succ fuel inductionHypothesis =>
      rw [Nat.add_right_comm, run]
      rw [run] at ran
      split at ran
      next after _ =>
        exact inductionHypothesis ran
      next result _ =>
        exact ran

/-- A text that is accepted in any number of steps is accepted in the steps
that the parser has. -/
theorem parse_of_run
    [LawfulBEq Kind]
    {start : Category}
    {past : Nat → List (GrammarSymbol Kind Category)}
    {weight : GrammarSymbol Kind Category → Int}
    {most fuel : Nat}
    {text : List Char}
    {phrase : Phrase}
    (traced : language.Traced grammar start past)
    (weighs : language.Weighs grammar weight most)
    (few : most ≤ 62)
    (positive :
      ∀ {kind text length}, language.lexicon.length? kind text = some length →
        0 < length)
    (light : -126 ≤ weight (.phrase start))
    (ran : language.run fuel (initial text) = .accepted (.ok phrase)) :
    language.parse text = .accepted (.ok phrase) := by
  obtain ⟨steps, early, accepts⟩ :=
    accepts_of_run (c := initial text) traced fuel .nil
      (.unread (.nil .start text)) ran
  have unspent : spent (initial text : Configuration Kind Phrase Fault) [] 0 = 0 :=
    rfl
  rw [unspent, Nat.zero_add] at accepts
  have bound := accepts.steps_le weighs positive
  have few : (most + 2) * text.length ≤ 64 * text.length :=
    Nat.mul_le_mul_right _ (by omega)
  have enough : steps ≤ stepLimit text := by
    rw [stepLimit]
    omega
  obtain ⟨more, isLimit⟩ := Nat.exists_eq_add_of_le enough
  rw [parse, isLimit]
  exact run_add early more

end Language

end GridScript.Parsing
