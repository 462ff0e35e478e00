import GridScript.Parsing.Lexicon
import Mathlib.Data.List.TakeWhile

namespace GridScript.Parsing

/-!
# Spelling

What a text begins with, and which tokens it spells.

## Lengths at the head of a text

Fixed texts, runs and names that a text begins with are as long as they stand
there, if what follows does not go on with them.
-/

/-- No character of a class comes first. -/
def Stops (inClass : Char → Bool) (tail : List Char) : Prop :=
  ∀ c ∈ tail.head?, inClass c = false

theorem Stops.nil {inClass : Char → Bool} : Stops inClass [] :=
  nofun

theorem Stops.cons
    {inClass : Char → Bool}
    {c : Char}
    (outside : inClass c = false)
    (cs : List Char) :
    Stops inClass (c :: cs) := by
  intro d isFirst
  obtain rfl : c = d := Option.some.inj isFirst
  exact outside

/-! ## Fixed texts -/

theorem fixedLength?_append (pattern tail : List Char) :
    fixedLength? pattern (pattern ++ tail) = some pattern.length := by
  induction pattern with
  | nil =>
      rfl
  | cons c pattern inductionHypothesis =>
      rw [List.cons_append, fixedLength?, if_pos rfl, inductionHypothesis]
      rfl

/-- A fixed text is not found where its first character does not stand. -/
theorem fixedLength?_eq_none
    {c : Char}
    {pattern tail : List Char}
    (absent : ∀ d ∈ tail.head?, d ≠ c) :
    fixedLength? (c :: pattern) tail = none := by
  cases tail with
  | nil =>
      rfl
  | cons d tail =>
      rw [fixedLength?, if_neg (absent d rfl).symm]

/-! ## Runs -/

theorem takeWhile_append_of_stops
    {inClass : Char → Bool}
    {run tail : List Char}
    (inside : ∀ c ∈ run, inClass c = true)
    (stops : Stops inClass tail) :
    (run ++ tail).takeWhile inClass = run := by
  rw [List.takeWhile_append_of_pos inside]
  cases tail with
  | nil =>
      simp
  | cons c tail =>
      rw [List.takeWhile_cons_of_neg (by simp [stops c rfl]), List.append_nil]

/-- A run that is followed by another character is as long as it stands there. -/
theorem runLength?_append
    {inClass : Char → Bool}
    {run tail : List Char}
    (nonempty : run ≠ [])
    (inside : ∀ c ∈ run, inClass c = true)
    (stops : Stops inClass tail) :
    runLength? inClass (run ++ tail) = some run.length := by
  obtain ⟨c, run, rfl⟩ := List.exists_cons_of_ne_nil nonempty
  rw [runLength?, takeWhile_append_of_stops inside stops]
  rfl

/-- There is no run where no character of the class stands first. -/
theorem runLength?_eq_none
    {inClass : Char → Bool}
    {tail : List Char}
    (stops : Stops inClass tail) :
    runLength? inClass tail = none := by
  have none : ([] ++ tail).takeWhile inClass = [] :=
    takeWhile_append_of_stops nofun stops
  rw [List.nil_append] at none
  rw [runLength?, none]
  rfl

/-- A run of characters is as long as it can be, and not empty. -/
theorem runLength?_eq_some
    {inClass : Char → Bool}
    {cs : List Char}
    {n : Nat}
    (found : runLength? inClass cs = some n) :
    cs.take n = cs.takeWhile inClass ∧ 0 < n := by
  have isPrefix :=
    List.prefix_iff_eq_take.mp (List.takeWhile_prefix inClass (l := cs))
  unfold runLength? at found
  split at found
  next =>
    cases found
  next length isLength =>
    obtain rfl := Option.some.inj found
    rw [isLength] at isPrefix
    exact ⟨isPrefix.symm, by omega⟩

/-! ## Names -/

/-- A name that is followed by another character is as long as it stands there. -/
theorem nameLength?_append
    {name tail : List Char}
    (starts : ∃ c rest, name = c :: rest ∧ isNameStart c = true)
    (inside : ∀ c ∈ name, isNameChar c = true)
    (stops : Stops isNameChar tail) :
    nameLength? (name ++ tail) = some name.length := by
  obtain ⟨c, rest, rfl, isStart⟩ := starts
  rw [List.cons_append, nameLength?, if_pos isStart,
    takeWhile_append_of_stops
      (fun d member => inside d (List.mem_cons_of_mem c member)) stops]
  rfl

end GridScript.Parsing

namespace GridScript.Parsing.Lexicon

/-!
## Leading tokens

The tokens of a text depend on the kinds that a parser wants when it reads them.
Where one kind is the first of all that match, it is the first of all wanted
ones that match, whatever else is wanted. A text spells tokens if it leads with
each of them in this sense.
-/

variable {Kind : Type} {lexicon : Lexicon Kind}

/-- The first of all kinds that match is the first of the wanted
ones, if it is wanted. -/
theorem first?_of_wanted
    {wanted : Kind → Bool}
    {text : List Char}
    {kind : Kind}
    {length : Nat}
    (first : lexicon.first? (fun _ => true) text = some (kind, length))
    (isWanted : wanted kind = true) :
    lexicon.first? wanted text = some (kind, length) := by
  unfold first? at first ⊢
  revert first
  induction lexicon.order with
  | nil =>
      exact nofun
  | cons candidate rest inductionHypothesis =>
      intro first
      rw [List.findSome?_cons] at first ⊢
      cases found : lexicon.length? candidate text with
      | none =>
          simp only [found, Option.map_none, if_true, ite_self] at first ⊢
          exact inductionHypothesis first
      | some n =>
          simp only [found, Option.map_some, if_true, Option.some.injEq,
            Prod.mk.injEq] at first ⊢
          obtain ⟨rfl, rfl⟩ := first
          rw [if_pos isWanted]

/-- The first kind of the order that matches, when no kind before it does. -/
theorem first?_eq_some
    {text : List Char}
    {earlier later : List Kind}
    {kind : Kind}
    {length : Nat}
    (order : lexicon.order = earlier ++ kind :: later)
    (others : ∀ other ∈ earlier, lexicon.length? other text = none)
    (matching : lexicon.length? kind text = some length) :
    lexicon.first? (fun _ => true) text = some (kind, length) := by
  have none : (earlier.findSome? fun other =>
      if true then (lexicon.length? other text).map (other, ·)
      else none) = none := by
    rw [List.findSome?_eq_none_iff]
    intro other member
    rw [others other member]
    rfl
  rw [first?, order, List.findSome?_append, none, Option.none_or,
    List.findSome?_cons, if_pos rfl, matching]
  rfl

variable [BEq Kind]

/-- A text leads with a token, whichever other kinds are wanted besides
that of the token. -/
def Leads
    (lexicon : Lexicon Kind)
    (place : Place)
    (text : List Char)
    (token : Token Kind)
    (rest : List Char) : Prop :=
  ∀ (wanted : Kind → Bool) (fuel : Nat),
    wanted token.kind = true → text.length ≤ fuel →
      lexicon.scanFrom wanted fuel place text = .token token rest

/-- A text leads with its first lexeme. -/
theorem leads_of_first
    {text : List Char}
    {kind : Kind}
    {length : Nat}
    (place : Place)
    (nonempty : text ≠ [])
    (first : lexicon.first? (fun _ => true) text = some (kind, length))
    (kept : lexicon.ignored.contains kind = false) :
    lexicon.Leads place text ⟨kind, text.take length, place⟩
      (text.drop length) := by
  intro wanted fuel isWanted enough
  cases text with
  | nil =>
      exact absurd rfl nonempty
  | cons c cs =>
      obtain ⟨fuel, rfl⟩ :=
        Nat.exists_eq_add_of_le' (Nat.le_trans (Nat.le_add_left 1 _) enough)
      have found :
          lexicon.first? (fun kind => lexicon.ignored.contains kind || wanted kind)
          (c :: cs) = some (kind, length) :=
        first?_of_wanted first (by simp only [isWanted, Bool.or_true])
      simp only [scanFrom, found, kept, Bool.false_eq_true, if_false]

/-- A text leads with what follows its first lexeme, if that is
of an ignored kind. -/
theorem leads_of_ignored
    {place : Place}
    {text rest : List Char}
    {kind : Kind}
    {length : Nat}
    {token : Token Kind}
    (first : lexicon.first? (fun _ => true) text = some (kind, length + 1))
    (ignored : lexicon.ignored.contains kind = true)
    (leads :
      lexicon.Leads (place.advance (text.take (length + 1)))
        (text.drop (length + 1)) token rest) :
    lexicon.Leads place text token rest := by
  intro wanted fuel isWanted enough
  cases text with
  | nil =>
      exact leads wanted fuel isWanted enough
  | cons c cs =>
      obtain ⟨fuel, rfl⟩ :=
        Nat.exists_eq_add_of_le' (Nat.le_trans (Nat.le_add_left 1 _) enough)
      have found :
          lexicon.first? (fun kind => lexicon.ignored.contains kind || wanted kind)
          (c :: cs) = some (kind, length + 1) :=
        first?_of_wanted first (by simp only [ignored, Bool.true_or])
      simp only [scanFrom, found, ignored, if_true]
      refine leads wanted fuel isWanted ?_
      rw [List.drop_succ_cons, List.length_drop]
      rw [List.length_cons] at enough
      omega

/-- The tokens of a text from a place to its end. -/
inductive Spells
    (lexicon : Lexicon Kind) : Place → List Char → List (Token Kind) → Prop where
  | nil (place : Place) : Spells lexicon place [] []
  | cons
      {place : Place}
      {token : Token Kind}
      {text rest : List Char}
      {tokens : List (Token Kind)}
      (leads : lexicon.Leads place text token rest)
      (shorter : rest.length < text.length)
      (spells : Spells lexicon (token.place.advance token.text) rest tokens) :
      Spells lexicon place text (token :: tokens)

/-- There are no more tokens than characters. -/
theorem Spells.length_le
    {place : Place}
    {text : List Char}
    {tokens : List (Token Kind)}
    (spells : lexicon.Spells place text tokens) :
    tokens.length ≤ text.length := by
  induction spells with
  | nil =>
      exact Nat.le_refl 0
  | cons leads shorter spells inductionHypothesis =>
      rw [List.length_cons]
      omega

/-!
## Segments of texts

A segment of a text spells tokens whatever follows it. Segments are built from
lexemes, ignored lexemes before them and other segments.
-/

/-- Text between two places that spells tokens, whatever the text after it
spells. -/
def Segment
    (lexicon : Lexicon Kind)
    (place : Place)
    (text : List Char)
    (tokens : List (Token Kind))
    (after : Place)
    (tail : List Char) : Prop :=
  ∀ more, lexicon.Spells after tail more →
    lexicon.Spells place (text ++ tail) (tokens ++ more)

namespace Segment

theorem append
    {place between after : Place}
    {text later tail : List Char}
    {tokens laterTokens : List (Token Kind)}
    (first : lexicon.Segment place text tokens between (later ++ tail))
    (second : lexicon.Segment between later laterTokens after tail) :
    lexicon.Segment place (text ++ later) (tokens ++ laterTokens) after tail := by
  intro more spells
  rw [List.append_assoc, List.append_assoc]
  exact first _ (second more spells)

/-- The first lexeme of a text is a segment. -/
theorem token
    {lexeme : List Char}
    {kind : Kind}
    (place : Place)
    (tail : List Char)
    (first :
      lexicon.first? (fun _ => true) (lexeme ++ tail) = some (kind, lexeme.length))
    (nonempty : lexeme ≠ [])
    (kept : lexicon.ignored.contains kind = false) :
    lexicon.Segment place lexeme [⟨kind, lexeme, place⟩] (place.advance lexeme)
      tail := by
  intro more spells
  have leads := leads_of_first place (by simp [nonempty]) first kept
  rw [List.take_left, List.drop_left] at leads
  refine .cons leads ?_ spells
  rw [List.length_append]
  have := List.length_pos_iff.mpr nonempty
  omega

/-- An ignored lexeme before a segment is passed over. -/
theorem ignore
    {kind : Kind}
    {place after : Place}
    {lexeme text tail : List Char}
    {tokens : List (Token Kind)}
    (segment : lexicon.Segment (place.advance lexeme) text tokens after tail)
    (first :
      lexicon.first? (fun _ => true) (lexeme ++ (text ++ tail)) =
        some (kind, lexeme.length))
    (lexemeNonempty : lexeme ≠ [])
    (ignored : lexicon.ignored.contains kind = true)
    (nonempty : tokens ≠ []) :
    lexicon.Segment place (lexeme ++ text) tokens after tail := by
  intro more spells
  obtain ⟨length, isLength⟩ : ∃ length, lexeme.length = length + 1 :=
    Nat.exists_eq_add_one.mpr (List.length_pos_iff.mpr lexemeNonempty)
  obtain ⟨token, rest, rfl⟩ := List.exists_cons_of_ne_nil nonempty
  have spelled := segment more spells
  rw [List.append_assoc]
  generalize text ++ tail = whole at spelled first ⊢
  cases spelled with
  | cons leads shorter spells =>
      rw [isLength] at first
      refine .cons (leads_of_ignored first ignored ?_) ?_ spells
      · rw [← isLength, List.take_left, List.drop_left]
        exact leads
      · rw [List.length_append]
        omega

end Segment

end GridScript.Parsing.Lexicon
