import GridScript.Change
import Mathlib.Order.Defs.Unbundled

/-!
# What changes do to their state

A change ends in a state whether it succeeds or fails. `Keeps` relates
the states before and after it, and the relations of interest compose:
they are preorders.
-/

namespace EStateM.Result

/-- The state that a run ends in, however it ends. -/
def state : EStateM.Result ε σ α → σ
  | .ok _ after => after
  | .error _ after => after

@[simp] theorem state_ok (a : α) (after : σ) :
    (EStateM.Result.ok a after : EStateM.Result ε σ α).state = after :=
  rfl

@[simp] theorem state_error (e : ε) (after : σ) :
    (EStateM.Result.error e after : EStateM.Result ε σ α).state = after :=
  rfl

end EStateM.Result

namespace Except

theorem ok_bind
    (a : α)
    (next : α → Except ε β) :
    (Except.ok a >>= next) = next a :=
  rfl

/-- A sequence of results that succeeds is a success followed by a success. -/
theorem bind_eq_ok
    {result : Except ε α}
    {next : α → Except ε β}
    {b : β}
    (succeeds : (result >>= next) = .ok b) :
    ∃ a, result = .ok a ∧ next a = .ok b := by
  cases result with
  | ok a =>
      exact ⟨a, rfl, succeeds⟩
  | error failure =>
      cases succeeds

/-- Results that are all successes are in order what they are successes of. -/
theorem mapM_of_forall_ok
    {f : α → Except ε β}
    {g : α → β}
    {items : List α}
    (each : ∀ a ∈ items, f a = .ok (g a)) :
    items.mapM f = .ok (items.map g) := by
  induction items with
  | nil =>
      rfl
  | cons a rest inductionHypothesis =>
      have later :=
        inductionHypothesis fun b member => each b (List.mem_cons_of_mem a member)
      rw [List.mapM_cons, each a List.mem_cons_self, later]
      rfl

/-- Functions that agree on the items have the same results in order. -/
theorem mapM_congr_left
    {f g : α → Except ε β}
    {items : List α}
    (each : ∀ a ∈ items, f a = g a) :
    items.mapM f = items.mapM g := by
  induction items with
  | nil =>
      rfl
  | cons a rest inductionHypothesis =>
      have later :=
        inductionHypothesis fun b member => each b (List.mem_cons_of_mem a member)
      rw [List.mapM_cons, List.mapM_cons, each a List.mem_cons_self, later]

/-- The first fault among the items is reported, and without one all
of them are mapped. -/
theorem mapM_eq_findSome?
    {f : α → Except ε β}
    {g : α → β}
    {fault? : α → Option φ}
    {report : φ → ε}
    (each :
      ∀ a, f a = (fault? a).elim (.ok (g a)) fun fault => .error (report fault))
    (items : List α) :
    items.mapM f =
      (items.findSome? fault?).elim (.ok (items.map g)) fun fault =>
        .error (report fault) := by
  induction items with
  | nil =>
      rfl
  | cons a rest inductionHypothesis =>
      rw [List.mapM_cons, each a, inductionHypothesis, List.findSome?_cons]
      cases fault? a with
      | some fault =>
          rfl
      | none =>
          cases rest.findSome? fault? <;> rfl

/-- Results that succeed together all succeed. -/
theorem ok_of_mapM
    {f : α → Except ε β}
    {items : List α}
    {results : List β}
    (ran : items.mapM f = .ok results) :
    ∀ a ∈ items, ∃ b, f a = .ok b := by
  induction items generalizing results with
  | nil =>
      exact nofun
  | cons first rest inductionHypothesis =>
      rw [List.mapM_cons] at ran
      obtain ⟨b, firstRan, ran⟩ := bind_eq_ok ran
      obtain ⟨more, restRan, -⟩ := bind_eq_ok ran
      intro a member
      rcases List.mem_cons.mp member with rfl | inRest
      · exact ⟨b, firstRan⟩
      · exact inductionHypothesis restRan a inRest

end Except

namespace GridScript

/-- However an action ends, the states before and after it are related. -/
def Keeps (R : σ → σ → Prop) (action : EStateM ε σ α) : Prop :=
  ∀ state, R state (action state).state

/-- An action that leaves the state as it is. -/
abbrev Reads (action : EStateM ε σ α) : Prop :=
  Keeps Eq action

namespace Change

/-- After a success the next action runs. -/
theorem bind_of_ok
    {action : EStateM ε σ α}
    {next : α → EStateM ε σ β}
    {state between : σ}
    {a : α}
    (ran : action state = .ok a between) :
    (action >>= next) state = next a between := by
  show EStateM.bind action next state = _
  simp only [EStateM.bind, ran]

/-- After a failure nothing runs. -/
theorem bind_of_error
    {action : EStateM ε σ α}
    {next : α → EStateM ε σ β}
    {state between : σ}
    {e : ε}
    (ran : action state = .error e between) :
    (action >>= next) state = .error e between := by
  show EStateM.bind action next state = _
  simp only [EStateM.bind, ran]

/-- What looks at the state goes on from the state. -/
theorem get_bind
    (next : σ → EStateM ε σ β)
    (state : σ) :
    ((get : EStateM ε σ σ) >>= next) state = next state state :=
  rfl

/-- A sequence that succeeds is a success followed by a success. -/
theorem bind_eq_ok
    {action : EStateM ε σ α}
    {next : α → EStateM ε σ β}
    {state after : σ}
    {b : β}
    (ran : (action >>= next) state = .ok b after) :
    ∃ a between, action state = .ok a between ∧ next a between = .ok b after := by
  cases first : action state with
  | ok a between =>
      rw [bind_of_ok first] at ran
      exact ⟨a, between, rfl, ran⟩
  | error e between =>
      rw [bind_of_error first] at ran
      cases ran

/-- A change makes the state that it ends in when it succeeds. -/
theorem made_eq_ok_iff
    {start result : σ}
    {change : Change E σ Unit} :
    made start change = .ok result ↔ change start = .ok () result := by
  unfold made
  cases change start <;> simp

end Change

namespace Keeps

variable {R : σ → σ → Prop}

/-- The states before and after a success are related. -/
theorem of_ok
    {action : EStateM ε σ α}
    {state after : σ}
    {a : α}
    (keeps : Keeps R action)
    (ran : action state = .ok a after) :
    R state after := by
  have kept := keeps state
  rwa [ran] at kept

/-- A weaker relation holds too. -/
theorem mono
    {S : σ → σ → Prop}
    {action : EStateM ε σ α}
    (keeps : Keeps R action)
    (weaker : ∀ before after, R before after → S before after) :
    Keeps S action :=
  fun state => weaker _ _ (keeps state)

variable [IsPreorder σ R]

theorem pure (a : α) : Keeps R (pure a : EStateM ε σ α) :=
  fun state => refl_of R state

theorem throw (e : ε) : Keeps R (throw e : EStateM ε σ α) :=
  fun state => refl_of R state

theorem get : Keeps R (get : EStateM ε σ σ) :=
  fun state => refl_of R state

omit [IsPreorder σ R] in
theorem modify
    {change : σ → σ}
    (related : ∀ state, R state (change state)) :
    Keeps R (modify change : EStateM ε σ PUnit) :=
  fun state => related state

/-- What a sequence does to one state, when the second part may rely on the
result of the first. -/
theorem state_bind
    {action : EStateM ε σ α}
    {next : α → EStateM ε σ β}
    {state : σ}
    (first : R state (action state).state)
    (second :
      ∀ a between, action state = .ok a between →
        R between (next a between).state) :
    R state ((action >>= next) state).state := by
  cases ran : action state with
  | ok a between =>
      rw [Change.bind_of_ok ran]
      rw [ran] at first
      exact trans_of R first (second a between ran)
  | error e between =>
      rw [Change.bind_of_error ran]
      rw [ran] at first
      exact first

theorem bind
    {action : EStateM ε σ α}
    {next : α → EStateM ε σ β}
    (first : Keeps R action)
    (second : ∀ a, Keeps R (next a)) :
    Keeps R (action >>= next) :=
  fun state => state_bind (first state) fun a between _ => second a between

theorem mapM
    {f : α → EStateM ε σ β}
    (items : List α)
    (each : ∀ a ∈ items, Keeps R (f a)) :
    Keeps R (items.mapM f) := by
  induction items with
  | nil =>
      exact .pure []
  | cons first rest inductionHypothesis =>
      rw [List.mapM_cons]
      have restKeeps :=
        inductionHypothesis fun a member => each a (by simp [member])
      exact (each first (by simp)).bind fun b =>
        restKeeps.bind fun bs => .pure (b :: bs)

theorem forM
    {f : α → EStateM ε σ PUnit}
    (items : List α)
    (each : ∀ a ∈ items, Keeps R (f a)) :
    Keeps R (forM items f) := by
  induction items with
  | nil =>
      exact .pure PUnit.unit
  | cons first rest inductionHypothesis =>
      rw [List.forM_cons]
      have restKeeps :=
        inductionHypothesis fun a member => each a (by simp [member])
      exact (each first (by simp)).bind fun _ => restKeeps

/-- A result that comes from outside leaves the state as it is. -/
theorem lift (result : Outcome E α) :
    Keeps R (liftM result : Change E σ α) := by
  cases result with
  | ok a =>
      exact .pure a
  | error failure =>
      exact .throw failure

theorem look (view : σ → α) : Keeps R (Change.look view : Change E σ α) :=
  fun state => refl_of R state

theorem ask (view : σ → Outcome E α) : Keeps R (Change.ask view : Change E σ α) :=
  Keeps.get.bind fun state => lift (view state)

theorem stop (error : E) : Keeps R (Change.stop error : Change E σ α) :=
  .throw _

theorem require
    (condition : Prop)
    [Decidable condition]
    (error : E) :
    Keeps R (Change.require condition error : Change E σ Unit) := by
  unfold Change.require
  split
  · exact .pure _
  · exact .stop error

omit [IsPreorder σ R] in
/-- A change of a part only stores another part. -/
theorem onPart
    {store : τ → σ → σ}
    (related : ∀ after state, R state (store after state))
    (part : τ)
    (change : Change E τ α) :
    Keeps R (Change.onPart part store change) := by
  intro state
  unfold Change.onPart
  split
  · exact related _ state
  · exact related _ state

end Keeps

end GridScript
