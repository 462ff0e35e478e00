import GridScript.Proofs.Change

namespace GridScript

/-!
# Changes that are made whole or not at all

An action commits if it either fails and changes nothing, or succeeds and makes
a whole change. Reads come first and may fail, writes come last and do not fail:
the lemmas put an action together in this order.
-/

/-- An action succeeds, with a result and a state that meet a condition. -/
def Achieves
    (action : EStateM ε σ α)
    (state : σ)
    (post : α → σ → Prop) : Prop :=
  ∃ a after, action state = .ok a after ∧ post a after

/-- An action fails and changes nothing, or succeeds with a result and a state
that meet a condition. -/
def Commits
    (action : EStateM ε σ α)
    (state : σ)
    (post : α → σ → Prop) : Prop :=
  (∃ failure, action state = .error failure state) ∨ Achieves action state post

namespace Achieves

/-- After a write the rest goes on from what was written. -/
theorem modify_bind
    {change : σ → σ}
    {next : PUnit → EStateM ε σ β}
    {state : σ}
    {post : β → σ → Prop}
    (rest : Achieves (next PUnit.unit) (change state) post) :
    Achieves ((modify change : EStateM ε σ PUnit) >>= next) state post := by
  obtain ⟨b, after, ran, holds⟩ := rest
  exact ⟨b, after, ran, holds⟩

theorem pure
    {a : α}
    {state : σ}
    {post : α → σ → Prop}
    (holds : post a state) :
    Achieves (pure a : EStateM ε σ α) state post :=
  ⟨a, state, rfl, holds⟩

theorem modify
    {change : σ → σ}
    {state : σ}
    {post : PUnit → σ → Prop}
    (holds : post PUnit.unit (change state)) :
    Achieves (modify change : EStateM ε σ PUnit) state post :=
  ⟨PUnit.unit, change state, rfl, holds⟩

theorem look
    {view : σ → α}
    {state : σ}
    {post : α → σ → Prop}
    (holds : post (view state) state) :
    Achieves (Change.look view : Change E σ α) state post :=
  ⟨view state, state, rfl, holds⟩

theorem bind
    {action : EStateM ε σ α}
    {next : α → EStateM ε σ β}
    {state : σ}
    {middle : α → σ → Prop}
    {post : β → σ → Prop}
    (first : Achieves action state middle)
    (second : ∀ a between, middle a between → Achieves (next a) between post) :
    Achieves (action >>= next) state post := by
  obtain ⟨a, between, ran, met⟩ := first
  obtain ⟨b, after, ranNext, holds⟩ := second a between met
  exact ⟨b, after, (Change.bind_of_ok ran).trans ranNext, holds⟩

theorem mono
    {action : EStateM ε σ α}
    {state : σ}
    {strong weak : α → σ → Prop}
    (achieves : Achieves action state strong)
    (weaker : ∀ a after, strong a after → weak a after) :
    Achieves action state weak := by
  obtain ⟨a, after, ran, holds⟩ := achieves
  exact ⟨a, after, ran, weaker a after holds⟩

/-- After a look the rest goes on with what was seen. -/
theorem look_bind
    {view : σ → α}
    {next : α → Change E σ β}
    {state : σ}
    {post : β → σ → Prop}
    (rest : Achieves (next (view state)) state post) :
    Achieves (Change.look view >>= next) state post := by
  obtain ⟨b, after, ran, holds⟩ := rest
  exact ⟨b, after, ran, holds⟩

/-- After a question that has an answer the rest goes on with the answer. -/
theorem ask_bind
    {view : σ → Outcome E α}
    {next : α → Change E σ β}
    {state : σ}
    {post : β → σ → Prop}
    {a : α}
    (answer : view state = .ok a)
    (rest : Achieves (next a) state post) :
    Achieves (Change.ask view >>= next) state post := by
  have asked : (Change.ask view : Change E σ α) state = .ok a state := by
    show (liftM (view state) : Change E σ α) state = _
    rw [answer]
    rfl
  obtain ⟨b, after, ran, holds⟩ := rest
  exact ⟨b, after, (Change.bind_of_ok asked).trans ran, holds⟩

/-- A result from outside that is a success goes on with the result. -/
theorem lift_bind
    {result : Outcome E α}
    {next : α → Change E σ β}
    {state : σ}
    {post : β → σ → Prop}
    {a : α}
    (answer : result = .ok a)
    (rest : Achieves (next a) state post) :
    Achieves ((liftM result : Change E σ α) >>= next) state post := by
  subst answer
  exact rest

/-- A change that achieves one state makes it. -/
theorem made
    {change : Change E σ Unit}
    {start result : σ}
    (achieves : Achieves change start fun _ after => after = result) :
    Change.made start change = .ok result := by
  obtain ⟨_, after, ran, rfl⟩ := achieves
  exact Change.made_eq_ok_iff.mpr ran

/-- A change of a part is stored in the whole. -/
theorem onPart
    {part : τ}
    {store : τ → σ → σ}
    {change : Change E τ α}
    {state : σ}
    {post : α → τ → Prop}
    (achieves : Achieves change part post) :
    Achieves (Change.onPart part store change) state fun a after =>
      ∃ changed, post a changed ∧ after = store changed state := by
  obtain ⟨a, changed, ran, holds⟩ := achieves
  refine ⟨a, store changed state, ?_, changed, holds, rfl⟩
  simp only [Change.onPart, ran]

theorem mapError
    {family : E → F}
    {change : Change E σ α}
    {state : σ}
    {post : α → σ → Prop}
    (achieves : Achieves change state post) :
    Achieves (change.mapError family) state post := by
  obtain ⟨a, after, ran, holds⟩ := achieves
  refine ⟨a, after, ?_, holds⟩
  simp only [Change.mapError, ran]

/-- A condition that holds is no obstacle. -/
theorem require_bind
    {condition : Prop}
    [Decidable condition]
    {error : E}
    {next : Unit → Change E σ β}
    {state : σ}
    {post : β → σ → Prop}
    (holds : condition)
    (rest : Achieves (next ()) state post) :
    Achieves (Change.require condition error >>= next) state post := by
  unfold Change.require
  rw [if_pos holds]
  exact rest

/-- What holds before the first item holds after the last one, if every
item carries it on. -/
theorem forM
    {f : α → EStateM ε σ PUnit}
    {items : List α}
    {state : σ}
    (invariant : List α → σ → Prop)
    (held : invariant [] state)
    (each :
      ∀ earlier a later between,
        earlier ++ a :: later = items → invariant earlier between →
          Achieves (f a) between fun _ after => invariant (earlier ++ [a]) after) :
    Achieves (items.forM f) state fun _ after => invariant items after := by
  have rest (later earlier : List α) (between : σ)
    (shape : earlier ++ later = items)
      (reached : invariant earlier between) :
      Achieves (later.forM f) between fun _ after => invariant items after := by
    induction later generalizing earlier between with
    | nil =>
        rw [List.append_nil] at shape
        exact .pure (shape ▸ reached)
    | cons a later inductionHypothesis =>
        refine (each earlier a later between shape reached).bind
          fun _ after carried => ?_
        exact inductionHypothesis (earlier ++ [a]) after
          (by simpa using shape) carried
  exact rest items [] state rfl held

theorem mapM
    {f : α → EStateM ε σ β}
    {items : List α}
    {state : σ}
    (invariant : List α → σ → Prop)
    (held : invariant [] state)
    (each :
      ∀ earlier a later between,
        earlier ++ a :: later = items → invariant earlier between →
          Achieves (f a) between fun _ after => invariant (earlier ++ [a]) after) :
    Achieves (items.mapM f) state fun _ after => invariant items after := by
  have rest (later earlier : List α) (between : σ)
    (shape : earlier ++ later = items)
      (reached : invariant earlier between) :
      Achieves (later.mapM f) between fun _ after => invariant items after := by
    induction later generalizing earlier between with
    | nil =>
        rw [List.append_nil] at shape
        exact .pure (shape ▸ reached)
    | cons a later inductionHypothesis =>
        rw [List.mapM_cons]
        refine (each earlier a later between shape reached).bind
          fun _ after carried => ?_
        refine (inductionHypothesis (earlier ++ [a]) after (by simpa using shape)
          carried).bind ?_
        exact fun _ last reachedLast => .pure reachedLast
  exact rest items [] state rfl held

end Achieves

namespace Commits

theorem achieves
    {action : EStateM ε σ α}
    {state : σ}
    {post : α → σ → Prop}
    (achieved : Achieves action state post) :
    Commits action state post :=
  .inr achieved

theorem throw (e : ε) (state : σ) (post : α → σ → Prop) :
    Commits (throw e : EStateM ε σ α) state post :=
  .inl ⟨e, rfl⟩

theorem lift
    (result : Outcome E α)
    (state : σ) :
    Commits (liftM result : Change E σ α) state fun a after =>
      result = .ok a ∧ after = state := by
  cases result with
  | ok a =>
      exact .inr ⟨a, state, rfl, rfl, rfl⟩
  | error failure =>
      exact .inl ⟨failure, rfl⟩

theorem look
    (view : σ → α)
    (state : σ) :
    Commits (Change.look view : Change E σ α) state fun a after =>
      a = view state ∧ after = state :=
  .inr ⟨view state, state, rfl, rfl, rfl⟩

theorem ask
    (view : σ → Outcome E α)
    (state : σ) :
    Commits (Change.ask view : Change E σ α) state fun a after =>
      view state = .ok a ∧ after = state :=
  lift (view state) state

theorem require
    (condition : Prop)
    [Decidable condition]
    (error : E)
    (state : σ) :
    Commits (Change.require condition error : Change E σ Unit) state fun _ after =>
      condition ∧ after = state := by
  unfold Change.require
  split
  · rename_i holds
    exact .inr ⟨(), state, rfl, holds, rfl⟩
  · exact .inl ⟨.error error, rfl⟩

/-- What only reads comes first. -/
theorem read
    {action : EStateM ε σ α}
    {next : α → EStateM ε σ β}
    {state : σ}
    {known : α → Prop}
    {post : β → σ → Prop}
    (first : Commits action state fun a after => known a ∧ after = state)
    (second : ∀ a, known a → Commits (next a) state post) :
    Commits (action >>= next) state post := by
  rcases first with ⟨failure, ran⟩ | ⟨a, after, ran, fact, rfl⟩
  · exact .inl ⟨failure, Change.bind_of_error ran⟩
  · rcases second a fact with ⟨failure, ranNext⟩ | ⟨b, last, ranNext, holds⟩
    · exact .inl ⟨failure, (Change.bind_of_ok ran).trans ranNext⟩
    · exact .inr ⟨b, last, (Change.bind_of_ok ran).trans ranNext, holds⟩

/-- After the first write nothing fails. -/
theorem write
    {action : EStateM ε σ α}
    {next : α → EStateM ε σ β}
    {state : σ}
    {middle : α → σ → Prop}
    {post : β → σ → Prop}
    (first : Commits action state middle)
    (second : ∀ a between, middle a between → Achieves (next a) between post) :
    Commits (action >>= next) state post := by
  rcases first with ⟨failure, ran⟩ | achieved
  · exact .inl ⟨failure, Change.bind_of_error ran⟩
  · exact .inr (achieved.bind second)

theorem mono
    {action : EStateM ε σ α}
    {state : σ}
    {strong weak : α → σ → Prop}
    (commits : Commits action state strong)
    (weaker : ∀ a after, strong a after → weak a after) :
    Commits action state weak := by
  rcases commits with failed | achieved
  · exact .inl failed
  · exact .inr (achieved.mono weaker)

/-- Checks that only read, one after another. -/
theorem forM_read
    {f : α → EStateM ε σ PUnit}
    {known : α → Prop}
    {state : σ}
    (items : List α)
    (each :
      ∀ a ∈ items, Commits (f a) state fun _ after => known a ∧ after = state) :
    Commits (items.forM f) state fun _ after =>
      (∀ a ∈ items, known a) ∧ after = state := by
  induction items with
  | nil =>
      exact .inr ⟨PUnit.unit, state, rfl, by simp, rfl⟩
  | cons first rest inductionHypothesis =>
      have restCommits :=
        inductionHypothesis fun a member => each a (by simp [member])
      refine read (each first (by simp)) fun _ firstKnown => ?_
      refine restCommits.mono fun _ after fact => ⟨?_, fact.2⟩
      intro a member
      rcases List.mem_cons.mp member with rfl | inRest
      · exact firstKnown
      · exact fact.1 a inRest

/-- A change of a part commits the whole, if storing the same part
again changes nothing. -/
theorem onPart
    {part : τ}
    {store : τ → σ → σ}
    {change : Change E τ α}
    {state : σ}
    {post : α → τ → Prop}
    (same : store part state = state)
    (commits : Commits change part post) :
    Commits (Change.onPart part store change) state fun a after =>
      ∃ changed, post a changed ∧ after = store changed state := by
  rcases commits with ⟨failure, ran⟩ | achieved
  · refine .inl ⟨failure, ?_⟩
    simp only [Change.onPart, ran, same]
  · exact .inr achieved.onPart

theorem mapError
    {family : E → F}
    {change : Change E σ α}
    {state : σ}
    {post : α → σ → Prop}
    (commits : Commits change state post) :
    Commits (change.mapError family) state post := by
  rcases commits with ⟨failure, ran⟩ | achieved
  · refine .inl ⟨failure.map family, ?_⟩
    simp only [Change.mapError, ran]
  · exact .inr achieved.mapError

/-- A failing action that commits has changed nothing. -/
theorem unchanged
    {action : EStateM ε σ α}
    {state after : σ}
    {failure : ε}
    {post : α → σ → Prop}
    (commits : Commits action state post)
    (failed : action state = .error failure after) :
    after = state := by
  rcases commits with ⟨other, ran⟩ | ⟨a, last, ran, _⟩
  · rw [ran] at failed
    cases failed
    rfl
  · rw [ran] at failed
    cases failed

/-- A success of an action that commits meets the condition. -/
theorem of_ok
    {action : EStateM ε σ α}
    {state after : σ}
    {a : α}
    {post : α → σ → Prop}
    (commits : Commits action state post)
    (ran : action state = .ok a after) :
    post a after := by
  rcases commits with ⟨failure, failed⟩ | ⟨b, last, succeeded, holds⟩
  · rw [failed] at ran
    cases ran
  · rw [succeeded] at ran
    cases ran
    exact holds

/-- Two conditions that an action meets when it commits are met together. -/
theorem and
    {action : EStateM ε σ α}
    {state : σ}
    {first second : α → σ → Prop}
    (commits : Commits action state first)
    (also : Commits action state second) :
    Commits action state fun a after => first a after ∧ second a after := by
  rcases commits with failed | ⟨a, after, ran, met⟩
  · exact .inl failed
  · exact .inr ⟨a, after, ran, met, also.of_ok ran⟩

/-- What a change that commits makes meets the condition. -/
theorem made
    {change : Change E σ Unit}
    {start result : σ}
    {post : Unit → σ → Prop}
    (commits : Commits change start post)
    (isMade : Change.made start change = .ok result) :
    post () result :=
  commits.of_ok (Change.made_eq_ok_iff.mp isMade)

/-- Whether an action that commits fails or not, its last state meets
what holds of both. -/
theorem state
    {action : EStateM ε σ α}
    {before : σ}
    {post : α → σ → Prop}
    {invariant : σ → Prop}
    (commits : Commits action before post)
    (held : invariant before)
    (kept : ∀ a after, post a after → invariant after) :
    invariant (action before).state := by
  rcases commits with ⟨failure, ran⟩ | ⟨a, after, ran, met⟩
  · rw [ran]
    exact held
  · rw [ran]
    exact kept a after met

end Commits

end GridScript
