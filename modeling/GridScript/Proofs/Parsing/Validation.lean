import GridScript.Proofs.Parsing.Completeness
import GridScript.Proofs.Parsing.Soundness

namespace GridScript.Parsing

/-!
# Validation of tables

Whether a table is complete, and whether it keeps to the symbols that are
listed for its states, is decided by looking at its rows. The rows are
given by a function here, so that a table can be read in the way that is
quickest to evaluate.
-/

/-- The symbols before the dot of an item, the last first. An item is a
rule with the number of its symbols before the dot; only what stands
before it matters here. -/
def Grammar.before
    {Kind Rule Category : Type}
    (grammar : Grammar Kind Rule Category)
    (item : Rule × Nat) : List (GrammarSymbol Kind Category) :=
  ((grammar.symbols item.1).take item.2).reverse

namespace Language

/-! ## Complete tables -/

section Complete

variable {Kind Rule Category Phrase Fault : Type}
variable [BEq Kind] [BEq Rule] [BEq Category]
variable (language : Language Kind Rule Category Phrase Fault)
variable (grammar : Grammar Kind Rule Category)
variable (rowAt : Nat → Row Kind Rule Category)

/-- The action on a token in a state of the given rows. -/
def actionAt? (state : Nat) (kind : Kind) : Option (Action Rule) :=
  if state == language.accepting && kind == language.finish then some .accept
  else
    match (rowAt state).shifts.find? fun shift => shift.1 == kind with
    | some (_, target) => some (.shift target)
    | none =>
        ((rowAt state).reductions.find? fun reduction =>
          reduction.2.contains kind).map
          fun (rule, _) => .reduce rule

/-- The state after a phrase in the given rows. -/
def gotoAt? (state : Nat) (category : Category) : Option Nat :=
  ((rowAt state).gotos.find? fun entry => entry.1 == category).map Prod.snd

/-- The state to which the given rows lead over some symbols. -/
def walkAt? (state : Nat) : List (GrammarSymbol Kind Category) → Option Nat
  | [] => some state
  | .token kind :: symbols =>
      match language.actionAt? rowAt state kind with
      | some (.shift target) => walkAt? target symbols
      | _ => none
  | .phrase category :: symbols =>
      match gotoAt? rowAt state category with
      | some target => walkAt? target symbols
      | none => none

/-- The kinds of tokens that a state of the given rows can use. -/
def usableAt (state : Nat) : List Kind :=
  (if state == language.accepting then [language.finish] else []) ++
    (rowAt state).shifts.map Prod.fst ++ (rowAt state).reductions.flatMap Prod.snd

/-- The given rows lead over a rule from a state and reduce by it before all
that a target uses. -/
def reducesAt (state target : Nat) (rule : Rule) : Bool :=
  match language.walkAt? rowAt state (grammar.symbols rule) with
  | none => false
  | some last =>
      (language.usableAt rowAt target).all fun kind =>
        match language.actionAt? rowAt last kind with
        | some (.reduce found) => found == rule
        | _ => false

/-- Where a state of the given rows goes on after a phrase, they reduce
by the rules for it. -/
def validates (state : Nat) : Bool :=
  (rowAt state).gotos.all fun (category, target) =>
    (grammar.rules.filter fun rule => language.category rule == category).all
      fun rule =>
        language.reducesAt grammar rowAt state target rule

variable {language grammar rowAt}

omit [BEq Rule] [BEq Category] in
theorem actionAt?_eq
    (same : ∀ state, language.row state = rowAt state)
    (state : Nat)
    (kind : Kind) :
    language.actionAt? rowAt state kind = language.action? state kind := by
  obtain rfl : rowAt = language.row := (funext same).symm
  rfl

omit [BEq Kind] [BEq Rule] in
theorem gotoAt?_eq
    (same : ∀ state, language.row state = rowAt state)
    (state : Nat)
    (category : Category) :
    gotoAt? rowAt state category = language.goto? state category := by
  obtain rfl : rowAt = language.row := (funext same).symm
  rfl

omit [BEq Rule] in
theorem walkAt?_eq
    (same : ∀ state, language.row state = rowAt state)
    (state : Nat)
    (symbols : List (GrammarSymbol Kind Category)) :
    language.walkAt? rowAt state symbols = language.walk? state symbols := by
  induction symbols generalizing state with
  | nil =>
      rfl
  | cons symbol symbols inductionHypothesis =>
      cases symbol with
      | token kind =>
          unfold walkAt? walk?
          rw [actionAt?_eq same]
          cases language.action? state kind with
          | none =>
              rfl
          | some action =>
              cases action with
              | shift target =>
                  exact inductionHypothesis target
              | _ =>
                  rfl
      | phrase category =>
          unfold walkAt? walk?
          rw [gotoAt?_eq same]
          cases language.goto? state category with
          | none =>
              rfl
          | some target =>
              exact inductionHypothesis target

omit [BEq Rule] [BEq Category] in
/-- A state uses the tokens that it wants. -/
theorem mem_usableAt
    [LawfulBEq Kind]
    (same : ∀ state, language.row state = rowAt state)
    {state : Nat}
    {kind : Kind}
    (wanted : language.wants state kind = true) :
    kind ∈ language.usableAt rowAt state := by
  unfold wants action? at wanted
  unfold usableAt
  rw [← same]
  split at wanted
  next atEnd =>
    obtain ⟨accepting, finish⟩ := Bool.and_eq_true_iff.mp atEnd
    rw [if_pos accepting, eq_of_beq finish]
    simp
  next =>
    dsimp only at wanted
    split at wanted
    next _ target found =>
      have member := List.mem_of_find?_eq_some found
      have isKind := List.find?_some found
      simp only [List.mem_append, List.mem_map]
      exact .inl (.inr ⟨_, member, eq_of_beq isKind⟩)
    next =>
      rw [Option.isSome_map, List.find?_isSome] at wanted
      obtain ⟨reduction, member, contains⟩ := wanted
      simp only [List.mem_append, List.mem_flatMap]
      exact .inr ⟨reduction, member, List.contains_iff_mem.mp contains⟩

/-- Rows that reduce by a rule do so before every token that the target wants. -/
theorem reduces_of_reducesAt
    [LawfulBEq Kind]
    [LawfulBEq Rule]
    (same : ∀ state, language.row state = rowAt state)
    {state target : Nat}
    {rule : Rule}
    (reduces : language.reducesAt grammar rowAt state target rule = true) :
    ∃ last,
      language.walk? state (grammar.symbols rule) = some last ∧
      ∀ kind, language.wants target kind = true →
        language.action? last kind = some (.reduce rule) := by
  unfold reducesAt at reduces
  rw [walkAt?_eq same] at reduces
  split at reduces
  next =>
    cases reduces
  next last walks =>
    refine ⟨last, walks, fun kind wanted => ?_⟩
    have calls := List.all_eq_true.mp reduces kind (mem_usableAt same wanted)
    rw [actionAt?_eq same] at calls
    split at calls
    next found isFound =>
      rw [isFound, eq_of_beq calls]
    next =>
      cases calls

/-- A table all of whose states are valid is complete. -/
theorem complete_of_validates
    [LawfulBEq Kind]
    [LawfulBEq Rule]
    [LawfulBEq Category]
    (same : ∀ state, language.row state = rowAt state)
    (arity :
      ∀ rule ∈ grammar.rules, language.arity rule = (grammar.symbols rule).length)
    (validated : ∀ state, language.validates grammar rowAt state = true) :
    language.Complete grammar where
  arity := arity
  reduces rule member state target follows := by
    rw [← gotoAt?_eq same] at follows
    obtain ⟨entry, found, rfl⟩ := Option.map_eq_some_iff.mp follows
    have isCategory : (entry.1 == language.category rule) = true :=
      List.find?_some (p := fun e : Category × Nat => e.1 == language.category rule)
        found
    have valid :=
      List.all_eq_true.mp (validated state) entry (List.mem_of_find?_eq_some found)
    have inFilter :
        rule ∈ grammar.rules.filter fun rule => language.category rule == entry.1 :=
      List.mem_filter.mpr ⟨member, by simp [eq_of_beq isCategory]⟩
    exact reduces_of_reducesAt same (List.all_eq_true.mp valid rule inFilter)

end Complete

/-! ## Traces of tables -/

section Traces

variable {Kind Rule Category Phrase Fault : Type}
variable [DecidableEq Kind] [DecidableEq Rule] [DecidableEq Category]
variable (language : Language Kind Rule Category Phrase Fault)
variable (grammar : Grammar Kind Rule Category)
variable (start : Category)
variable (rowAt : Nat → Row Kind Rule Category)
variable (past : Nat → List (GrammarSymbol Kind Category))

/-- The tokens shifted in a state lead where they are the last symbol. -/
def tracesShifts (state : Nat) : Bool :=
  (rowAt state).shifts.all fun (kind, target) =>
    (past target).isPrefixOf (.token kind :: past state) && target != 0 &&
      target != language.accepting && kind != language.finish

/-- The phrases after a state lead where they are the last symbol, and only the
phrase of a whole text to the end. -/
def tracesGotos (state : Nat) : Bool :=
  (rowAt state).gotos.all fun (category, target) =>
    (past target).isPrefixOf (.phrase category :: past state) && target != 0 &&
      (target != language.accepting || (state == 0 && category == start))

/-- The rules reduced in a state are rules of the grammar whose symbols
are the last ones. -/
def tracesReductions (state : Nat) : Bool :=
  (rowAt state).reductions.all fun (rule, _) =>
    grammar.rules.contains rule &&
      (grammar.symbols rule).reverse.isPrefixOf (past state)

/-- A row keeps to the symbols that are listed for the states. -/
def traces (state : Nat) : Bool :=
  language.tracesShifts rowAt past state &&
    language.tracesGotos start rowAt past state &&
    tracesReductions grammar rowAt past state

variable {language grammar start rowAt past}

/-! ## Entries of rows -/

omit [DecidableEq Rule] [DecidableEq Category] in
theorem mem_shifts_of_action
    {state target : Nat}
    {kind : Kind}
    (shifts : language.action? state kind = some (.shift target)) :
    (kind, target) ∈ (language.row state).shifts := by
  unfold action? at shifts
  split at shifts
  next =>
    cases shifts
  next =>
    dsimp only at shifts
    split at shifts
    next found target isFound =>
      cases shifts
      have isKind := List.find?_some isFound
      obtain rfl : found = kind := eq_of_beq isKind
      exact List.mem_of_find?_eq_some isFound
    next =>
      obtain ⟨reduction, -, isReduce⟩ := Option.map_eq_some_iff.mp shifts
      cases isReduce

omit [DecidableEq Kind] [DecidableEq Rule] in
theorem mem_gotos_of_goto
    {state target : Nat}
    {category : Category}
    (follows : language.goto? state category = some target) :
    (category, target) ∈ (language.row state).gotos := by
  obtain ⟨⟨found, _⟩, isFound, rfl⟩ := Option.map_eq_some_iff.mp follows
  have isCategory := List.find?_some isFound
  obtain rfl : found = category := eq_of_beq isCategory
  exact List.mem_of_find?_eq_some isFound

omit [DecidableEq Rule] [DecidableEq Category] in
theorem mem_reductions_of_action
    {state : Nat}
    {kind : Kind}
    {rule : Rule}
    (reduces : language.action? state kind = some (.reduce rule)) :
    ∃ kinds, (rule, kinds) ∈ (language.row state).reductions ∧ kind ∈ kinds := by
  unfold action? at reduces
  split at reduces
  next =>
    cases reduces
  next =>
    dsimp only at reduces
    split at reduces
    next =>
      cases reduces
    next =>
      obtain ⟨⟨found, kinds⟩, isFound, isReduce⟩ :=
        Option.map_eq_some_iff.mp reduces
      cases isReduce
      have isKind := List.find?_some isFound
      exact ⟨kinds, List.mem_of_find?_eq_some isFound,
        List.contains_iff_mem.mp isKind⟩

omit [DecidableEq Rule] [DecidableEq Category] in
/-- A token is wanted if the row pushes it or reduces before it. -/
theorem wants_eq_any
    {state : Nat}
    (other : state ≠ language.accepting)
    (kind : Kind) :
    language.wants state kind =
      ((language.row state).shifts.any (fun shift => shift.1 == kind) ||
        (language.row state).reductions.any fun reduction =>
          reduction.2.contains kind) := by
  rw [← List.isSome_find?, ← List.isSome_find?, wants, action?,
    beq_false_of_ne other, Bool.false_and, if_neg Bool.false_ne_true]
  dsimp only
  cases (language.row state).shifts.find? fun shift => shift.1 == kind with
  | some shift =>
      rfl
  | none =>
      rw [Option.isSome_map]
      rfl

/-! ## Traced rows -/

omit [DecidableEq Rule] in
theorem shifts_of_tracesShifts
    (same : ∀ state, language.row state = rowAt state)
    {state target : Nat}
    {kind : Kind}
    (traced : language.tracesShifts rowAt past state = true)
    (shifts : language.action? state kind = some (.shift target)) :
    past target <+: .token kind :: past state ∧ target ≠ 0 ∧
      target ≠ language.accepting ∧ kind ≠ language.finish := by
  have kept :=
    List.all_eq_true.mp traced _ (same state ▸ mem_shifts_of_action shifts)
  simpa [and_assoc] using kept

omit [DecidableEq Rule] in
theorem gotos_of_tracesGotos
    (same : ∀ state, language.row state = rowAt state)
    {state target : Nat}
    {category : Category}
    (traced : language.tracesGotos start rowAt past state = true)
    (follows : language.goto? state category = some target) :
    past target <+: .phrase category :: past state ∧ target ≠ 0 ∧
      (target = language.accepting → state = 0 ∧ category = start) := by
  have kept := List.all_eq_true.mp traced _ (same state ▸ mem_gotos_of_goto follows)
  simpa [and_assoc, Classical.or_iff_not_imp_left] using kept

theorem reduces_of_tracesReductions
    (same : ∀ state, language.row state = rowAt state)
    {state : Nat}
    {kind : Kind}
    {rule : Rule}
    (traced : tracesReductions grammar rowAt past state = true)
    (reduces : language.action? state kind = some (.reduce rule)) :
    rule ∈ grammar.rules ∧ (grammar.symbols rule).reverse <+: past state := by
  obtain ⟨kinds, member, -⟩ := mem_reductions_of_action reduces
  have kept := List.all_eq_true.mp traced _ (same state ▸ member)
  simpa using kept

/-- A table all of whose rows keep to the listed symbols is traced. -/
theorem traced_of_traces
    (same : ∀ state, language.row state = rowAt state)
    (arity :
      ∀ rule ∈ grammar.rules, language.arity rule = (grammar.symbols rule).length)
    (finish : language.finish ∉ language.lexicon.order)
    (initial : past 0 = [])
    (kept : ∀ state, language.traces grammar start rowAt past state = true) :
    language.Traced grammar start past where
  shifts {state _ _} shifts := by
    have row := Bool.and_eq_true_iff.mp (Bool.and_eq_true_iff.mp (kept state)).1
    exact shifts_of_tracesShifts same row.1 shifts
  gotos {state _ _} follows := by
    have row := Bool.and_eq_true_iff.mp (Bool.and_eq_true_iff.mp (kept state)).1
    exact gotos_of_tracesGotos same row.2 follows
  reduces {state _ _} reduces :=
    reduces_of_tracesReductions same
      (Bool.and_eq_true_iff.mp (kept state)).2 reduces
  initial := initial
  arity := arity
  finish := finish

end Traces

end Language

end GridScript.Parsing
