import GridScript.Proofs.Change
import GridScript.Value.Arithmetic

/-!
# What comes of actions

`Keeps` says what an action does to its state; `Meets` and `Upholds` say
what comes of it. A result has one property and an error another one, and an
invariant of the state holds however the action ends. A failure is an error
of its family or a breach, and an action is contained by a set of breaches
if it has no other.
-/

/-- The result of an action apart from the state that it ends in. -/
def EStateM.Result.outcome : EStateM.Result ε σ α → Except ε α
  | .ok a _ => .ok a
  | .error e _ => .error e

namespace GridScript

/-- A result has a property, or an error has one. -/
structure Meets (E : ε → Prop) (P : α → Prop) (result : Except ε α) : Prop where
  of_ok : ∀ {a : α}, result = .ok a → P a
  of_error : ∀ {e : ε}, result = .error e → E e

namespace Meets

variable {E : ε → Prop} {P : α → Prop} {Q : β → Prop}

theorem ok
    {a : α}
    (holds : P a) :
    Meets E P (.ok a : Except ε α) :=
  ⟨fun | rfl => holds, nofun⟩

theorem error
    {e : ε}
    (holds : E e) :
    Meets E P (.error e) :=
  ⟨nofun, fun | rfl => holds⟩

theorem pure
    {a : α}
    (holds : P a) :
    Meets E P (pure a : Except ε α) :=
  .ok holds

/-- Nothing is asked of the result or of the error. -/
theorem any (result : Except ε α) : Meets (fun _ => True) (fun _ => True) result :=
  ⟨fun _ => trivial, fun _ => trivial⟩

theorem mono
    {R : α → Prop}
    {result : Except ε α}
    (meets : Meets E P result)
    (weaker : ∀ a, P a → R a) :
    Meets E R result :=
  ⟨fun ran => weaker _ (meets.of_ok ran), meets.of_error⟩

theorem bind
    {result : Except ε α}
    {next : α → Except ε β}
    (first : Meets E P result)
    (second : ∀ a, P a → Meets E Q (next a)) :
    Meets E Q (result >>= next) := by
  cases result with
  | ok a =>
      exact second a (first.of_ok rfl)
  | error e =>
      exact .error (first.of_error rfl)

theorem map
    {result : Except ε α}
    {f : α → β}
    (meets : Meets E P result)
    (holds : ∀ a, P a → Q (f a)) :
    Meets E Q (result.map f) := by
  cases result with
  | ok a =>
      exact .ok (holds a (meets.of_ok rfl))
  | error e =>
      exact .error (meets.of_error rfl)

/-- Every one of several results has the property. -/
theorem mapM
    {f : α → Except ε β}
    (items : List α)
    (each : ∀ a ∈ items, Meets E Q (f a)) :
    Meets E (fun bs => ∀ b ∈ bs, Q b) (items.mapM f) := by
  induction items with
  | nil =>
      exact pure (by simp)
  | cons first rest inductionHypothesis =>
      rw [List.mapM_cons]
      have restMeets :=
        inductionHypothesis fun a member => each a (by simp [member])
      refine (each first (by simp)).bind fun b holds =>
        restMeets.bind fun bs allHold => pure ?_
      intro c member
      rcases List.mem_cons.mp member with rfl | inRest
      · exact holds
      · exact allHold c inRest

/-- What each step of a fold keeps. -/
theorem foldlM
    {f : β → α → Except ε β}
    (items : List α)
    {start : β}
    (holds : Q start)
    (each : ∀ a ∈ items, ∀ b, Q b → Meets E Q (f b a)) :
    Meets E Q (items.foldlM f start) := by
  induction items generalizing start with
  | nil =>
      exact .pure holds
  | cons first rest inductionHypothesis =>
      rw [List.foldlM_cons]
      exact (each first (by simp) start holds).bind fun b kept =>
        inductionHypothesis kept fun a member => each a (by simp [member])

end Meets

/-- From every state with an invariant an action ends in one, and its result or
its error has a property. -/
def Upholds
    (I : σ → Prop)
    (E : ε → Prop)
    (P : α → Prop)
    (action : EStateM ε σ α) : Prop :=
  ∀ state, I state → I (action state).state ∧ Meets E P (action state).outcome

namespace Upholds

variable {I : σ → Prop} {E : ε → Prop} {P : α → Prop} {Q : β → Prop}

theorem pure
    {a : α}
    (holds : P a) :
    Upholds I E P (pure a : EStateM ε σ α) :=
  fun _ invariant => ⟨invariant, .ok holds⟩

theorem throw
    {e : ε}
    (holds : E e) :
    Upholds I E P (throw e : EStateM ε σ α) :=
  fun _ invariant => ⟨invariant, .error holds⟩

theorem get : Upholds I E I (get : EStateM ε σ σ) :=
  fun _ invariant => ⟨invariant, .ok invariant⟩

theorem modify
    {change : σ → σ}
    (keeps : ∀ state, I state → I (change state)) :
    Upholds I E (fun _ => True) (modify change : EStateM ε σ PUnit) :=
  fun state invariant => ⟨keeps state invariant, .ok trivial⟩

theorem mono
    {R : α → Prop}
    {action : EStateM ε σ α}
    (upholds : Upholds I E P action)
    (weaker : ∀ a, P a → R a) :
    Upholds I E R action :=
  fun state invariant =>
    (upholds state invariant).imp_right fun meets => meets.mono weaker

theorem bind
    {action : EStateM ε σ α}
    {next : α → EStateM ε σ β}
    (first : Upholds I E P action)
    (second : ∀ a, P a → Upholds I E Q (next a)) :
    Upholds I E Q (action >>= next) := by
  intro state invariant
  obtain ⟨kept, meets⟩ := first state invariant
  cases ran : action state with
  | ok a between =>
      rw [ran] at kept meets
      rw [Change.bind_of_ok ran]
      exact second a (meets.of_ok rfl) between kept
  | error e between =>
      rw [ran] at kept meets
      rw [Change.bind_of_error ran]
      exact ⟨kept, .error (meets.of_error rfl)⟩

theorem mapM
    {f : α → EStateM ε σ β}
    (items : List α)
    (each : ∀ a ∈ items, Upholds I E Q (f a)) :
    Upholds I E (fun bs => ∀ b ∈ bs, Q b) (items.mapM f) := by
  induction items with
  | nil =>
      exact .pure (by simp)
  | cons first rest inductionHypothesis =>
      rw [List.mapM_cons]
      have restUpholds :=
        inductionHypothesis fun a member => each a (by simp [member])
      refine (each first (by simp)).bind fun b holds =>
        restUpholds.bind fun bs allHold =>
          .pure ?_
      intro c member
      rcases List.mem_cons.mp member with rfl | inRest
      · exact holds
      · exact allHold c inRest

theorem forM
    {f : α → EStateM ε σ PUnit}
    (items : List α)
    (each : ∀ a ∈ items, Upholds I E (fun _ => True) (f a)) :
    Upholds I E (fun _ => True) (items.forM f) := by
  induction items with
  | nil =>
      exact .pure trivial
  | cons first rest inductionHypothesis =>
      exact (each first (by simp)).bind fun _ _ =>
        inductionHypothesis fun a member => each a (by simp [member])

end Upholds

/-! ## Breaches -/

/-- A failure is an error of its family or an admitted breach. -/
def Failure.Admitted (admits : Breach → Prop) : Failure E → Prop
  | .error _ => True
  | .breach b => admits b

/-- A result has a property, or the failure is an error of the family or
an admitted breach. -/
abbrev Contained
    (admits : Breach → Prop)
    (P : α → Prop)
    (result : Outcome E α) : Prop :=
  Meets (Failure.Admitted admits) P result

/-- A change of a state is contained whatever the state is. -/
abbrev Change.Contained
    (admits : Breach → Prop)
    (P : α → Prop)
    (change : Change E σ α) : Prop :=
  Upholds (fun _ => True) (Failure.Admitted admits) P change

section Containment

variable {E F α : Type} {admits : Breach → Prop} {P : α → Prop}

namespace Meets

theorem fail (e : E) : Contained admits P (fail e) :=
  .error trivial

theorem breach
    {b : Breach}
    (admitted : admits b) :
    Contained admits P (breach b : Outcome E α) :=
  .error admitted

/-- The result as it is, where more breaches are admitted. -/
theorem weaken
    {more : Breach → Prop}
    {result : Outcome E α}
    (contained : Contained admits P result)
    (weaker : ∀ b, admits b → more b) :
    Contained more (fun a => result = .ok a) result := by
  refine ⟨id, fun {failure} failed => ?_⟩
  have admitted := contained.of_error failed
  cases failure with
  | error e =>
      trivial
  | breach b =>
      exact weaker b admitted

/-- Another family has the same breaches. -/
theorem mapError
    {result : Outcome E α}
    (contained : Contained admits P result)
    (family : E → F) :
    Contained admits P (Outcome.mapError family result) := by
  cases result with
  | ok a =>
      exact .ok (contained.of_ok rfl)
  | error failure =>
      have admitted := contained.of_error rfl
      cases failure <;> exact .error admitted

theorem liftError
    {result : Except E α}
    (meets : Meets (fun _ => True) P result) :
    Contained admits P (liftError result) := by
  cases result with
  | ok a =>
      exact .ok (meets.of_ok rfl)
  | error e =>
      exact .fail e

theorem liftBreach
    {result : Except Breach α}
    (meets : Meets admits P result) :
    Contained admits P (liftBreach result : Outcome E α) := by
  cases result with
  | ok a =>
      exact .ok (meets.of_ok rfl)
  | error b =>
      exact .breach (meets.of_error rfl)

end Meets

namespace Upholds

variable {σ τ : Type} {I : σ → Prop}

theorem stop (error : E) :
    Upholds I (Failure.Admitted admits) P (Change.stop error : Change E σ α) :=
  .throw trivial

theorem lift
    {result : Outcome E α}
    (contained : Contained admits P result) :
    Upholds I (Failure.Admitted admits) P (liftM result : Change E σ α) := by
  cases result with
  | ok a =>
      exact .pure (contained.of_ok rfl)
  | error failure =>
      exact .throw (contained.of_error rfl)

theorem look (view : σ → α) :
    Upholds I (Failure.Admitted admits) (fun _ => True)
      (Change.look view : Change E σ α) :=
  fun _ invariant => ⟨invariant, .ok trivial⟩

theorem ask
    {view : σ → Outcome E α}
    (contained : ∀ state, Contained admits P (view state)) :
    Upholds I (Failure.Admitted admits) P (Change.ask view : Change E σ α) :=
  Upholds.get.bind fun state _ => .lift (contained state)

theorem require
    (condition : Prop)
    [Decidable condition]
    (error : E) :
    Upholds I (Failure.Admitted admits) (fun _ => True)
      (Change.require condition error : Change E σ Unit) := by
  unfold Change.require
  split
  · exact .pure trivial
  · exact .stop error

theorem onPart
    {change : Change E τ α}
    (contained : Change.Contained admits P change)
    (part : τ)
    (store : τ → σ → σ) :
    Change.Contained admits P (Change.onPart part store change) := by
  intro state _
  obtain ⟨-, meets⟩ := contained part trivial
  unfold Change.onPart
  cases ran : change part with
  | ok a after =>
      rw [ran] at meets
      exact ⟨trivial, .ok (meets.of_ok rfl)⟩
  | error failure after =>
      rw [ran] at meets
      exact ⟨trivial, .error (meets.of_error rfl)⟩

/-- Another family has the same breaches. -/
theorem mapError
    {change : Change E σ α}
    (contained : Change.Contained admits P change)
    (family : E → F) :
    Change.Contained admits P (change.mapError family) := by
  intro state _
  obtain ⟨-, meets⟩ := contained state trivial
  unfold Change.mapError
  cases ran : change state with
  | ok a after =>
      rw [ran] at meets
      exact ⟨trivial, .ok (meets.of_ok rfl)⟩
  | error failure after =>
      rw [ran] at meets
      have admitted := meets.of_error rfl
      cases failure <;> exact ⟨trivial, .error admitted⟩

theorem made
    {change : Change E σ Unit}
    (contained : Change.Contained admits (fun _ => True) change)
    (start : σ) :
    GridScript.Contained admits (fun _ => True) (Change.made start change) := by
  obtain ⟨-, meets⟩ := contained start trivial
  unfold Change.made
  cases ran : change start with
  | ok a after =>
      exact .ok trivial
  | error failure after =>
      rw [ran] at meets
      exact .error (meets.of_error rfl)

end Upholds

end Containment

end GridScript
