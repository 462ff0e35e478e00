import GridScript.Parsing.Automaton
import GridScript.Proofs.Containment

namespace GridScript.Parsing.Language

/-!
# What all phrases of a language have

A property that the leaves have and that every rule hands on from the parts
of a phrase to the phrase is a property of every phrase on the stack,
whatever the table says, and so of the phrase of a text. Faults get a
property from the rules alone.
-/

variable {Kind Rule Category Phrase Fault : Type} [BEq Kind]
variable {language : Language Kind Rule Category Phrase Fault}
variable {T : Token Kind → Prop} {P : Phrase → Prop} {F : Fault → Prop}

/-- Tokens have a property as they are read, and give one to the phrases
that the rules build. -/
structure HandsOn
    (language : Language Kind Rule Category Phrase Fault)
    (T : Token Kind → Prop)
    (P : Phrase → Prop)
    (F : Fault → Prop) : Prop where
  read :
    ∀ {wanted : Kind → Bool} {place : Place} {text rest : List Char}
        {token : Token Kind},
      language.lexicon.scan wanted place text = .token token rest → T token
  finish : ∀ last, T (language.finishToken last)
  leaf : ∀ {token}, T token → P (language.leaf token)
  build :
    ∀ rule {parts}, (∀ part ∈ parts, P part) → Meets F P (language.build rule parts)

/-- The phrases on the stack and the token ahead have their properties. -/
structure Has
    (T : Token Kind → Prop)
    (P : Phrase → Prop)
    (F : Fault → Prop)
    (c : Configuration Kind Phrase Fault) : Prop where
  stack : ∀ frame ∈ c.stack, Meets F P frame.phrase
  ahead : ∀ token, c.ahead = some token → T token

/-- What one step leaves: a parser with the properties, or its phrase with them. -/
def Leaves
    (T : Token Kind → Prop)
    (P : Phrase → Prop)
    (F : Fault → Prop) : Progress Kind Phrase Fault → Prop
  | .next c => Has T P F c
  | .done (.accepted phrase) => Meets F P phrase
  | .done _ => True

variable (handsOn : HandsOn language T P F)

include handsOn

theorem look_leaves
    {c : Configuration Kind Phrase Fault}
    (has : Has T P F c) :
    Leaves T P F (language.look c) := by
  unfold look
  dsimp only
  split
  next token rest scanned =>
    refine ⟨has.stack, fun other ahead => ?_⟩
    obtain rfl : token = other := Option.some.inj ahead
    exact handsOn.read scanned
  next =>
    refine ⟨has.stack, fun other ahead => ?_⟩
    obtain rfl : language.finishToken c.last = other := Option.some.inj ahead
    exact handsOn.finish c.last
  next =>
    split
    · trivial
    · split <;> trivial

theorem combine_meets
    (rule : Rule)
    {frames : List (Frame Phrase Fault)}
    (each : ∀ frame ∈ frames, Meets F P frame.phrase) :
    Meets F P (language.combine rule (frames.map Frame.phrase).reverse) := by
  have parts : Meets F (fun phrases => ∀ phrase ∈ phrases, P phrase)
      ((frames.map Frame.phrase).reverse.mapM id) := by
    refine Meets.mapM _ fun phrase member => ?_
    obtain ⟨frame, inFrames, rfl⟩ := List.mem_map.mp (List.mem_reverse.mp member)
    exact each frame inFrames
  exact parts.bind fun _ kept => handsOn.build rule kept

variable [BEq Category]

theorem reduce_leaves
    {c : Configuration Kind Phrase Fault}
    (has : Has T P F c)
    (rule : Rule) :
    Leaves T P F (language.reduce c rule) := by
  have combined := combine_meets handsOn rule fun frame member =>
    has.stack frame (List.mem_of_mem_take (i := language.arity rule) member)
  unfold reduce
  dsimp only
  split
  · trivial
  · split
    · trivial
    · split
      next failed =>
        rw [failed] at combined
        exact combined
      next =>
        refine ⟨fun frame member => ?_, has.ahead⟩
        rcases List.mem_cons.mp member with rfl | inBelow
        · exact combined
        · exact has.stack frame (List.mem_of_mem_drop inBelow)

theorem use_leaves
    {c : Configuration Kind Phrase Fault}
    (has : Has T P F c)
    {token : Token Kind}
    (ahead : T token) :
    Leaves T P F (language.use c token) := by
  unfold use
  dsimp only
  split
  next target shifted =>
    refine ⟨fun frame member => ?_, nofun⟩
    rcases List.mem_cons.mp member with rfl | inStack
    · exact .ok (handsOn.leaf ahead)
    · exact has.stack frame inStack
  next rule reduced =>
    exact reduce_leaves handsOn has rule
  next accepted =>
    split
    next frame below onStack =>
      exact has.stack frame (by simp [onStack])
    next =>
      trivial
  next =>
    trivial

theorem run_meets
    (fuel : Nat)
    {c : Configuration Kind Phrase Fault}
    (has : Has T P F c)
    {phrase : Except Fault Phrase}
    (ran : language.run fuel c = .accepted phrase) :
    Meets F P phrase := by
  induction fuel generalizing c with
  | zero =>
      cases ran
  | succ fuel inductionHypothesis =>
      have stepped : Leaves T P F (language.step c) := by
        unfold step
        split
        next =>
          exact look_leaves handsOn has
        next token ahead =>
          exact use_leaves handsOn has (has.ahead token ahead)
      unfold run at ran
      split at ran
      next after isNext =>
        rw [isNext] at stepped
        exact inductionHypothesis stepped ran
      next result isDone =>
        rw [isDone, ran] at stepped
        exact stepped

/-- The phrase of a text has what its language hands on. -/
theorem parse_meets
    {text : List Char}
    {phrase : Except Fault Phrase}
    (parsed : language.parse text = .accepted phrase) :
    Meets F P phrase :=
  run_meets handsOn _ ⟨by simp [initial], by simp [initial]⟩ parsed

end GridScript.Parsing.Language
