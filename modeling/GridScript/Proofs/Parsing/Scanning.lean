import GridScript.Proofs.Parsing.Spelling
import Mathlib.Data.List.Basic

namespace GridScript.Parsing

/-!
# Scanned tokens

Tokens that a text holds one after the other, whatever kinds are wanted when
each of them is read. Each stands after the text that has been passed over
before it, so its line is given by the line breaks there, and no token starts on
a line that an earlier one has not reached.
-/

namespace Place

/-- Every line break that is passed leads to the next line. -/
theorem line_advance (place : Place) (text : List Char) :
    (place.advance text).line = place.line + text.count '\n' := by
  induction text generalizing place with
  | nil =>
      rfl
  | cons c cs inductionHypothesis =>
      show ((place.next c).advance cs).line = _
      rw [inductionHypothesis, next]
      by_cases isBreak : c = '\n'
      · subst isBreak
        rw [if_pos rfl, List.count_cons_self]
        show place.line + 1 + _ = _
        omega
      · rw [if_neg isBreak, List.count_cons_of_ne isBreak]

theorem advance_append (place : Place) (text later : List Char) :
    place.advance (text ++ later) = (place.advance text).advance later :=
  List.foldl_append

end Place

/-- The line that a token ends on. -/
def Token.lastLine (token : Token Kind) : Nat :=
  token.place.line + token.text.count '\n'

theorem Token.lastLine_eq (token : Token Kind) :
    (token.place.advance token.text).line = token.lastLine :=
  Place.line_advance _ _

namespace Lexicon

variable {Kind : Type} {lexicon : Lexicon Kind}

/-- The first kind among the wanted ones is a kind of the lexicon and matches. -/
theorem matches_of_first?
    {wanted : Kind → Bool}
    {text : List Char}
    {kind : Kind}
    {length : Nat}
    (first : lexicon.first? wanted text = some (kind, length)) :
    kind ∈ lexicon.order ∧ lexicon.length? kind text = some length := by
  obtain ⟨candidate, member, tried⟩ := List.exists_of_findSome?_eq_some first
  split at tried
  next =>
    obtain ⟨_, isLength, same⟩ := Option.map_eq_some_iff.mp tried
    cases same
    exact ⟨member, isLength⟩
  next =>
    cases tried

/-- The first kind among the wanted ones is wanted. -/
theorem wanted_of_first?
    {wanted : Kind → Bool}
    {text : List Char}
    {kind : Kind}
    {length : Nat}
    (first : lexicon.first? wanted text = some (kind, length)) :
    wanted kind = true := by
  obtain ⟨candidate, -, tried⟩ := List.exists_of_findSome?_eq_some first
  split at tried
  next isWanted =>
    obtain ⟨_, -, same⟩ := Option.map_eq_some_iff.mp tried
    cases same
    exact isWanted
  next =>
    cases tried

variable [BEq Kind]

/-- A token stands where its lexeme does, after some text that is passed over. -/
structure Stands
    (lexicon : Lexicon Kind)
    (place : Place)
    (text : List Char)
    (token : Token Kind)
    (rest : List Char) : Prop where
  split : ∃ skipped, text = skipped ++ (token.text ++ rest) ∧
    token.place = place.advance skipped
  nonempty : token.text ++ rest ≠ []
  order : token.kind ∈ lexicon.order
  lexeme :
    ∃ length, lexicon.length? token.kind (token.text ++ rest) = some length ∧
      token.text = (token.text ++ rest).take length

omit [BEq Kind] in
/-- The line breaks of a text are those up to the end of a token
and those after it. -/
theorem Stands.line_add_count
    {place : Place}
    {text rest : List Char}
    {token : Token Kind}
    (stands : lexicon.Stands place text token rest) :
    (token.place.advance token.text).line + rest.count '\n' =
      place.line + text.count '\n' := by
  obtain ⟨skipped, rfl, isPlace⟩ := stands.split
  rw [isPlace, Place.line_advance, Place.line_advance, List.count_append,
    List.count_append]
  omega

/-- A token that is scanned stands in the text. -/
theorem stands_of_scanFrom
    {wanted : Kind → Bool}
    {fuel : Nat}
    {place : Place}
    {text rest : List Char}
    {token : Token Kind}
    (scan : lexicon.scanFrom wanted fuel place text = .token token rest) :
    lexicon.Stands place text token rest := by
  induction fuel generalizing place text with
  | zero =>
      cases text <;> cases scan
  | succ fuel inductionHypothesis =>
      cases text with
      | nil =>
          cases scan
      | cons c cs =>
          unfold scanFrom at scan
          split at scan
          next =>
            cases scan
          next kind length first =>
            have whole := List.take_append_drop length (c :: cs)
            dsimp only at scan
            split at scan
            next =>
              obtain ⟨⟨skipped, isRest, isPlace⟩, nonempty, order, lexeme⟩ :=
                inductionHypothesis scan
              refine ⟨⟨(c :: cs).take length ++ skipped, ?_, ?_⟩, nonempty, order,
                lexeme⟩
              · rw [List.append_assoc, ← isRest, whole]
              · rw [isPlace, Place.advance_append]
            next =>
              cases scan
              obtain ⟨order, isLength⟩ := matches_of_first? first
              refine ⟨⟨[], whole.symm, rfl⟩, ?_, order, length, ?_, ?_⟩
              · rw [whole]
                exact List.cons_ne_nil c cs
              · rw [whole]
                exact isLength
              · rw [whole]

/-- The same text holds the same token at every place, as many lines further. -/
theorem scanFrom_token_of_place
    {wanted : Kind → Bool}
    {fuel : Nat}
    {place : Place}
    {text rest : List Char}
    {token : Token Kind}
    (scan : lexicon.scanFrom wanted fuel place text = .token token rest)
    (place' : Place) :
    ∃ token' : Token Kind,
      lexicon.scanFrom wanted fuel place' text = .token token' rest ∧
        token'.kind = token.kind ∧ token'.text = token.text ∧
          token'.place.line + place.line = token.place.line + place'.line := by
  induction fuel generalizing place place' text with
  | zero =>
      cases text <;> cases scan
  | succ fuel inductionHypothesis =>
      cases text with
      | nil =>
          cases scan
      | cons c cs =>
          unfold scanFrom at scan ⊢
          split at scan
          next =>
            cases scan
          next kind length first =>
            dsimp only at scan ⊢
            split at scan
            next ignored =>
              rw [if_pos ignored]
              obtain ⟨token', scan', sameKind, sameText, line⟩ :=
                inductionHypothesis scan (place'.advance ((c :: cs).take length))
              rw [Place.line_advance, Place.line_advance] at line
              exact ⟨token', scan', sameKind, sameText, by omega⟩
            next kept =>
              rw [if_neg kept]
              cases scan
              exact ⟨_, rfl, rfl, rfl, Nat.add_comm _ _⟩

/-- The same text ends at every place. -/
theorem scanFrom_finished_of_place
    {wanted : Kind → Bool}
    {fuel : Nat}
    {place : Place}
    {text : List Char}
    (scan : lexicon.scanFrom wanted fuel place text = .finished)
    (place' : Place) :
    lexicon.scanFrom wanted fuel place' text = .finished := by
  induction fuel generalizing place place' text with
  | zero =>
      cases text with
      | nil =>
          rfl
      | cons c cs =>
          cases scan
  | succ fuel inductionHypothesis =>
      cases text with
      | nil =>
          rfl
      | cons c cs =>
          unfold scanFrom at scan ⊢
          split at scan
          next =>
            cases scan
          next kind length first =>
            dsimp only at scan ⊢
            split at scan
            next ignored =>
              rw [if_pos ignored]
              exact inductionHypothesis scan _
            next kept =>
              cases scan

/-- More fuel than the text is long makes no difference, if no lexeme is empty. -/
theorem scanFrom_eq_of_length_le
    (positive :
      ∀ {kind text length}, lexicon.length? kind text = some length → 0 < length)
    {wanted : Kind → Bool}
    {fuel fuel' : Nat}
    {place : Place}
    {text : List Char}
    (enough : text.length ≤ fuel)
    (enough' : text.length ≤ fuel') :
    lexicon.scanFrom wanted fuel place text =
      lexicon.scanFrom wanted fuel' place text := by
  induction fuel generalizing fuel' place text with
  | zero =>
      obtain rfl := List.length_eq_zero_iff.mp (Nat.le_zero.mp enough)
      cases fuel' <;> rfl
  | succ fuel inductionHypothesis =>
      cases text with
      | nil =>
          cases fuel' <;> rfl
      | cons c cs =>
          obtain ⟨fuel', rfl⟩ :=
            Nat.exists_eq_add_of_le' (Nat.le_trans (Nat.le_add_left 1 _) enough')
          rw [List.length_cons] at enough enough'
          unfold scanFrom
          split
          next =>
            rfl
          next kind length first =>
            have shorter : ((c :: cs).drop length).length ≤ cs.length := by
              have := positive (matches_of_first? first).2
              rw [List.length_drop, List.length_cons]
              omega
            have inside : ((c :: cs).drop length).length ≤ fuel := by
              omega
            have inside' : ((c :: cs).drop length).length ≤ fuel' := by
              omega
            dsimp only
            rw [inductionHypothesis inside inside']

/-- Tokens that a text holds one after the other up to a place, each of a
kind that was wanted. -/
inductive Scanned (lexicon : Lexicon Kind) :
    Place → List Char → List (Token Kind) → Place → List Char → Prop where
  | nil
      (place : Place)
      (text : List Char) :
      Scanned lexicon place text [] place text
  | cons
      {wanted : Kind → Bool}
      {place last : Place}
      {text rest left : List Char}
      {token : Token Kind}
      {tokens : List (Token Kind)}
      (scan : lexicon.scan wanted place text = .token token rest)
      (later :
        Scanned lexicon (token.place.advance token.text) rest tokens last left) :
      Scanned lexicon place text (token :: tokens) last left

namespace Scanned

variable {place last : Place} {text left : List Char} {tokens : List (Token Kind)}

/-- One more token is read after others. -/
theorem snoc
    {wanted : Kind → Bool}
    {rest : List Char}
    {token : Token Kind}
    (scanned : lexicon.Scanned place text tokens last left)
    (scan : lexicon.scan wanted last left = .token token rest) :
    lexicon.Scanned place text (tokens ++ [token]) (token.place.advance token.text)
      rest := by
  induction scanned with
  | nil place text =>
      exact .cons scan (.nil _ _)
  | cons first _ inductionHypothesis =>
      exact .cons first (inductionHypothesis scan)

/-- What holds of every token that stands in a text holds of all scanned ones. -/
theorem forall_mem
    {P : Token Kind → Prop}
    (each :
      ∀ {place text token rest}, lexicon.Stands place text token rest → P token)
    (scanned : lexicon.Scanned place text tokens last left) :
    ∀ token ∈ tokens, P token := by
  induction scanned with
  | nil =>
      exact nofun
  | cons scan _ inductionHypothesis =>
      exact List.forall_mem_cons.mpr ⟨each (stands_of_scanFrom scan),
        inductionHypothesis⟩

/-- The characters of a token are characters of the text. -/
theorem text_subset
    (scanned : lexicon.Scanned place text tokens last left) :
    ∀ token ∈ tokens, token.text ⊆ text := by
  induction scanned with
  | nil =>
      exact nofun
  | cons scan _ inductionHypothesis =>
      obtain ⟨⟨skipped, rfl, -⟩, -, -, -⟩ := stands_of_scanFrom scan
      refine List.forall_mem_cons.mpr ⟨fun c member => ?_,
        fun later member c inLater => ?_⟩
      · exact List.mem_append_right _ (List.mem_append_left _ member)
      · exact List.mem_append_right _
          (List.mem_append_right _ (inductionHypothesis later member inLater))

/-- No token starts on a line before the place where scanning starts. -/
theorem le_line
    (scanned : lexicon.Scanned place text tokens last left) :
    ∀ token ∈ tokens, place.line ≤ token.place.line := by
  induction scanned with
  | nil =>
      exact nofun
  | @cons _ place _ _ _ _ token _ scan _ inductionHypothesis =>
      obtain ⟨⟨skipped, -, isPlace⟩, -, -, -⟩ := stands_of_scanFrom scan
      have first : place.line ≤ token.place.line := by
        rw [isPlace, Place.line_advance]
        exact Nat.le_add_right _ _
      refine List.forall_mem_cons.mpr ⟨first, fun later member => ?_⟩
      have after := inductionHypothesis later member
      rw [Token.lastLine_eq] at after
      exact Nat.le_trans first (Nat.le_trans (Nat.le_add_right _ _) after)

/-- A token starts on a line that all earlier ones have reached. -/
theorem pairwise
    (scanned : lexicon.Scanned place text tokens last left) :
    tokens.Pairwise fun earlier later => earlier.lastLine ≤ later.place.line := by
  induction scanned with
  | nil =>
      exact .nil
  | cons _ later inductionHypothesis =>
      refine .cons (fun token member => ?_) inductionHypothesis
      rw [← Token.lastLine_eq]
      exact later.le_line token member

/-- If a text ends with a line break, no token starts on a line after it. -/
theorem line_lt
    (scanned : lexicon.Scanned place text tokens last left)
    (ended : text.getLast? = some '\n') :
    ∀ token ∈ tokens, token.place.line < place.line + text.count '\n' := by
  induction scanned with
  | nil =>
      exact nofun
  | @cons _ place _ _ rest _ token _ scan scannedLater inductionHypothesis =>
      obtain ⟨⟨skipped, rfl, isPlace⟩, nonempty, -, -⟩ := stands_of_scanFrom scan
      have isLine : token.place.line = place.line + skipped.count '\n' := by
        rw [isPlace, Place.line_advance]
      rw [List.getLast?_append_of_ne_nil _ nonempty] at ended
      have broken : 0 < (token.text ++ rest).count '\n' :=
        List.count_pos_iff.mpr (List.mem_of_getLast? ended)
      rw [List.count_append] at broken
      rw [List.count_append, List.count_append]
      refine List.forall_mem_cons.mpr ⟨by omega, fun later member => ?_⟩
      cases rest with
      | nil =>
          cases scannedLater with
          | nil =>
              cases member
          | cons scan _ =>
              cases scan
      | cons c cs =>
          rw [List.getLast?_append_of_ne_nil _ (List.cons_ne_nil c cs)] at ended
          have before := inductionHypothesis ended later member
          rw [Place.line_advance] at before
          omega

end Scanned

end Lexicon

end GridScript.Parsing
