import GridScript.Value.Failure

namespace GridScript

/-!
# Changes of a state

A change works on a state and gives a result or fails. Whatever it has changed
before it fails stays changed.
-/

/-- A change of a state that gives a result or fails in a family of errors. -/
abbrev Change (E σ : Type) := EStateM (Failure E) σ

namespace Change

/-- A result that leaves the state as it is. -/
def ofOutcome : Outcome E α → Change E σ α
  | .ok a => pure a
  | .error failure => throw failure

instance : MonadLift (Outcome E) (Change E σ) where
  monadLift := ofOutcome

/-- Stop with an error. -/
def stop (error : E) : Change E σ α :=
  throw (.error error)

/-- Stop with an error unless a condition holds. -/
def require
    (condition : Prop)
    [Decidable condition]
    (error : E) : Change E σ Unit :=
  if condition then pure () else stop error

/-- What the state shows. -/
def look (view : σ → α) : Change E σ α := do
  return view (← get)

/-- What the state answers, or why it does not. -/
def ask (view : σ → Outcome E α) : Change E σ α := do
  view (← get)

/-- A change of a part of the state. -/
def onPart
    (part : τ)
    (store : τ → σ → σ)
    (change : Change E τ α) : Change E σ α := fun state =>
  match change part with
  | .ok a after => .ok a (store after state)
  | .error failure after => .error failure (store after state)

/-- A change whose errors are carried into another family. -/
def mapError (family : E → F) (change : Change E σ α) : Change F σ α := fun state =>
  match change state with
  | .ok a after => .ok a after
  | .error failure after => .error (failure.map family) after

/-- What a change makes of a state that nobody else holds. -/
def made (start : σ) (change : Change E σ Unit) : Outcome E σ :=
  match change start with
  | .ok _ after => .ok after
  | .error failure _ => .error failure

end Change

end GridScript
