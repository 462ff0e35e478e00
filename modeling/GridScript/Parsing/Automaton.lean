import GridScript.Parsing.Lexicon

namespace GridScript.Parsing

/-!
# Table-driven parsing

A parser is a stack machine over the rows of an LALR(1) table. Before each token
the lexicon is asked for the kinds that have an action in the row on top of the
stack, so the same text can be a keyword in one place and a name in another. A
reduction computes the phrase of a rule at once; an error in a phrase ends the
run of an eager language, and counts in other languages only when the whole text
has been accepted.
-/

/-- A row of the table. -/
structure Row (Kind Rule Category : Type) where
  /-- Tokens that are pushed, with the state that follows. -/
  shifts : List (Kind × Nat)
  /-- Rules that are reduced, with the tokens before which they are. -/
  reductions : List (Rule × List Kind)
  /-- States that follow a reduced phrase. -/
  gotos : List (Category × Nat)

/-- What a row does with a token. -/
inductive Action (Rule : Type) where
  | shift (state : Nat)
  | reduce (rule : Rule)
  | accept
  deriving Repr, DecidableEq

/-- A language: its tokens, its rules, its table, and the phrases
that its rules build. -/
structure Language (Kind Rule Category Phrase Fault : Type) where
  lexicon : Lexicon Kind
  /-- The kind of the token at the end of the text. -/
  finish : Kind
  rows : Array (Row Kind Rule Category)
  /-- The state in which the end of the text is accepted. -/
  accepting : Nat
  category : Rule → Category
  arity : Rule → Nat
  leaf : Token Kind → Phrase
  build : Rule → List Phrase → Except Fault Phrase
  /-- An error in a phrase ends the run. -/
  eager : Bool

/-- A state with the phrase that led to it. -/
structure Frame (Phrase Fault : Type) where
  state : Nat
  phrase : Except Fault Phrase

/-- A parser between two steps. -/
structure Configuration (Kind Phrase Fault : Type) where
  /-- The frame on top comes first; below the last is the initial state 0. -/
  stack : List (Frame Phrase Fault)
  /-- The token read and not yet used. -/
  ahead : Option (Token Kind)
  /-- The token used last. -/
  last : Option (Token Kind)
  place : Place
  rest : List Char

/-- Why a text is not in the language. -/
inductive Rejection (Kind : Type) where
  | token (token : Token Kind) (expected : List Kind)
  | character (c : Char) (place : Place) (expected : List Kind)
  deriving Repr

/-- The end of a run. -/
inductive Result (Kind Phrase Fault : Type) where
  /-- The text is in the language, or the run ended with an error in a phrase. -/
  | accepted (phrase : Except Fault Phrase)
  | rejected (rejection : Rejection Kind)
  /-- The table or the fuel gave out. -/
  | stopped

/-- One step of a parser. -/
inductive Progress (Kind Phrase Fault : Type) where
  | next (configuration : Configuration Kind Phrase Fault)
  | done (result : Result Kind Phrase Fault)

namespace Language

variable {Kind Rule Category Phrase Fault : Type} [BEq Kind] [BEq Category]

/-- The row of a state; an empty one beyond the table. -/
def row (language : Language Kind Rule Category Phrase Fault) (state : Nat) :
    Row Kind Rule Category :=
  language.rows.getD state ⟨[], [], []⟩

/-- The action on a token in a state. -/
def action?
    (language : Language Kind Rule Category Phrase Fault)
    (state : Nat)
    (kind : Kind) : Option (Action Rule) :=
  if state == language.accepting && kind == language.finish then some .accept
  else
    let row := language.row state
    match row.shifts.find? fun shift => shift.1 == kind with
    | some (_, target) => some (.shift target)
    | none =>
        (row.reductions.find? fun reduction => reduction.2.contains kind).map
          fun (rule, _) => .reduce rule

/-- The state after a reduction to a category. -/
def goto?
    (language : Language Kind Rule Category Phrase Fault)
    (state : Nat)
    (category : Category) : Option Nat :=
  ((language.row state).gotos.find? fun entry => entry.1 == category).map Prod.snd

/-- A token kind has an action in a state. -/
def wants
    (language : Language Kind Rule Category Phrase Fault)
    (state : Nat)
    (kind : Kind) : Bool :=
  (language.action? state kind).isSome

/-- The kinds with an action in a state, the end of the text apart. -/
def expected
    (language : Language Kind Rule Category Phrase Fault)
    (state : Nat) : List Kind :=
  language.lexicon.order.filter (language.wants state)

/-- The kinds with an action in a state, with the end of the text. -/
def expectedAll
    (language : Language Kind Rule Category Phrase Fault)
    (state : Nat) : List Kind :=
  if language.wants state language.finish then
    language.finish :: language.expected state
  else language.expected state

/-- The state on top of a stack. -/
def top (stack : List (Frame Phrase Fault)) : Nat :=
  match stack with
  | [] => 0
  | frame :: _ => frame.state

/-- The token at the end of the text; it stands where the last token stands. -/
def finishToken
    (language : Language Kind Rule Category Phrase Fault)
    (last : Option (Token Kind)) : Token Kind :=
  ⟨language.finish, [], (last.map Token.place).getD .start⟩

/-- The phrase of a rule; the error of the first part that has one. -/
def combine
    (language : Language Kind Rule Category Phrase Fault)
    (rule : Rule)
    (parts : List (Except Fault Phrase)) : Except Fault Phrase := do
  language.build rule (← parts.mapM id)

/-- Read the next token, or find that there is none. -/
def look
    (language : Language Kind Rule Category Phrase Fault)
    (c : Configuration Kind Phrase Fault) : Progress Kind Phrase Fault :=
  let state := top c.stack
  match language.lexicon.scan (language.wants state) c.place c.rest with
  | .token token rest =>
      .next { c with
        ahead := some token, place := token.place.advance token.text, rest := rest }
  | .finished => .next { c with
    ahead := some (language.finishToken c.last), rest := [] }
  | .stuck place text =>
      match language.lexicon.first? (fun _ => true) text with
      | some (kind, length) =>
          .done
            (.rejected
              (.token ⟨kind, text.take length, place⟩ (language.expected state)))
      | none =>
          match text with
          | found :: _ =>
              .done (.rejected (.character found place (language.expected state)))
          | [] => .done .stopped

/-- Replace the parts of a rule on the stack by its phrase. -/
def reduce
    (language : Language Kind Rule Category Phrase Fault)
    (c : Configuration Kind Phrase Fault)
    (rule : Rule) : Progress Kind Phrase Fault :=
  let arity := language.arity rule
  let frames := c.stack.take arity
  let below := c.stack.drop arity
  if frames.length < arity then .done .stopped
  else
    match language.goto? (top below) (language.category rule) with
    | none => .done .stopped
    | some state =>
        match language.eager,
          language.combine rule (frames.map Frame.phrase).reverse with
        | true, .error fault => .done (.accepted (.error fault))
        | _, phrase => .next { c with stack := ⟨state, phrase⟩ :: below }

/-- Use the token read. -/
def use
    (language : Language Kind Rule Category Phrase Fault)
    (c : Configuration Kind Phrase Fault)
    (token : Token Kind) : Progress Kind Phrase Fault :=
  let state := top c.stack
  match language.action? state token.kind with
  | some (.shift target) =>
      .next { c with
        stack := ⟨target, .ok (language.leaf token)⟩ :: c.stack
        ahead := none
        last := some token }
  | some (.reduce rule) => language.reduce c rule
  | some .accept =>
      match c.stack with
      | frame :: _ => .done (.accepted frame.phrase)
      | [] => .done .stopped
  | none => .done (.rejected (.token token (language.expectedAll state)))

/-- One step. -/
def step
    (language : Language Kind Rule Category Phrase Fault)
    (c : Configuration Kind Phrase Fault) : Progress Kind Phrase Fault :=
  match c.ahead with
  | none => language.look c
  | some token => language.use c token

/-- So many steps, or fewer if the parser ends before. -/
def run
    (language : Language Kind Rule Category Phrase Fault) :
    Nat → Configuration Kind Phrase Fault → Result Kind Phrase Fault
  | 0, _ => .stopped
  | fuel + 1, c =>
      match language.step c with
      | .next c => language.run fuel c
      | .done result => result

/-- The parser at the start of a text. -/
def initial (text : List Char) : Configuration Kind Phrase Fault :=
  ⟨[], none, none, .start, text⟩

/-- Steps that suffice for a text: no token is followed by as many
reductions as this allows. -/
def stepLimit (text : List Char) : Nat :=
  64 * (text.length + 2)

/-- The phrase of a text, or why it has none. -/
def parse
    (language : Language Kind Rule Category Phrase Fault)
    (text : List Char) : Result Kind Phrase Fault :=
  language.run (stepLimit text) (initial text)

end Language

end GridScript.Parsing
