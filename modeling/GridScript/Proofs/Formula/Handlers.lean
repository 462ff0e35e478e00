import GridScript.Proofs.Formula.Containment

namespace GridScript.Formula

/-!
# Handlers of errors

`ISERROR`, `IFERROR`, `ISNA` and `IFNA` handle every error of the family of
formulas, at any depth and whatever raised it. Breaches pass through them, so an
expression is handled completely unless a breach originates in it.
-/

open GridScript.Number

section Handlers

variable {context : Context} {resolve : Resolver}

/-- All four handlers answer for an expression: they ask whether it fails, and
with which tag, or give its value, and where it fails a constant in its place. -/
structure IsHandled
    (context : Context)
    (resolve : Resolver)
    (e : Expression) : Prop where
  isError :
    ∃ answer, (Expression.call "ISERROR" [e]).evaluate context resolve =
        .ok (.bool answer) ∧
      (answer = true ↔ ∃ error, e.evaluate context resolve = fail error)
  isNotAvailable :
    ∃ answer,
      (Expression.call "ISNA" [e]).evaluate context resolve = .ok (.bool answer) ∧
      (answer = true ↔
        ∃ error, e.evaluate context resolve = fail error ∧
          error.tag = .notAvailable)
  ifError (l : Literal) :
    (∃ v, e.evaluate context resolve = .ok v ∧
      (Expression.call "IFERROR" [e, .literal l]).evaluate context resolve =
        .ok v) ∨
    (∃ error, e.evaluate context resolve = fail error ∧
      (Expression.call "IFERROR" [e, .literal l]).evaluate context resolve =
        .ok l.value)
  ifNotAvailable (l : Literal) :
    (∃ v, e.evaluate context resolve = .ok v ∧
      (Expression.call "IFNA" [e, .literal l]).evaluate context resolve = .ok v) ∨
    (∃ error, e.evaluate context resolve = fail error ∧ error.tag = .notAvailable ∧
      (Expression.call "IFNA" [e, .literal l]).evaluate context resolve =
        .ok l.value) ∨
    (∃ error, e.evaluate context resolve = fail error ∧ error.tag ≠ .notAvailable ∧
      (Expression.call "IFNA" [e, .literal l]).evaluate context resolve =
        fail error)

theorem evaluate_isError (e : Expression) :
    (Expression.call "ISERROR" [e]).evaluate context resolve
      =
        inquire (fun result => (evalError? result).isSome)
          (e.evaluate context resolve) :=
  rfl

theorem evaluate_isNotAvailable (e : Expression) :
    (Expression.call "ISNA" [e]).evaluate context resolve
      = inquire isMissing (e.evaluate context resolve) :=
  rfl

theorem evaluate_ifError (e : Expression) (l : Literal) :
    (Expression.call "IFERROR" [e, .literal l]).evaluate context resolve
      = if (evalError? (e.evaluate context resolve)).isSome then .ok l.value
        else e.evaluate context resolve :=
  rfl

theorem evaluate_ifNotAvailable (e : Expression) (l : Literal) :
    (Expression.call "IFNA" [e, .literal l]).evaluate context resolve
      = if isMissing (e.evaluate context resolve) then .ok l.value
        else e.evaluate context resolve :=
  rfl

/-- The handlers handle a value. -/
theorem isHandled_of_value
    {e : Expression}
    {v : Value}
    (has : e.evaluate context resolve = .ok v) :
    IsHandled context resolve e where
  isError := ⟨false, by rw [evaluate_isError, has]; rfl, by simp [has, fail]⟩
  isNotAvailable :=
  ⟨false, by rw [evaluate_isNotAvailable, has]; rfl, by simp [has, fail]⟩
  ifError l := .inl ⟨v, has, by rw [evaluate_ifError, has]; rfl⟩
  ifNotAvailable l := .inl ⟨v, has, by rw [evaluate_ifNotAvailable, has]; rfl⟩

theorem isMissing_fail (error : EvalError) :
    isMissing (fail error) = (error.tag == .notAvailable) :=
  rfl

/-- The handlers handle an error of the family. -/
theorem isHandled_of_failure
    {e : Expression}
    {error : EvalError}
    (fails : e.evaluate context resolve = fail error) :
    IsHandled context resolve e where
  isError :=
    ⟨true, by rw [evaluate_isError, fails]; rfl, fun _ => ⟨error, fails⟩,
      fun _ => rfl⟩
  isNotAvailable := by
    refine ⟨error.tag == .notAvailable, by rw [evaluate_isNotAvailable, fails]; rfl,
      ?_⟩
    simp [fails, fail]
  ifError l := .inr ⟨error, fails, by rw [evaluate_ifError, fails]; rfl⟩
  ifNotAvailable l := by
    rw [evaluate_ifNotAvailable, fails, isMissing_fail]
    by_cases missing : error.tag = .notAvailable
    · exact .inr (.inl ⟨error, rfl, missing, by rw [if_pos (by simp [missing])]⟩)
    · exact .inr (.inr ⟨error, rfl, missing, by rw [if_neg (by simp [missing])]⟩)

/-- All four handlers come to a breach. -/
structure IsPassedOn
    (context : Context)
    (resolve : Resolver)
    (e : Expression)
    (b : Breach) : Prop where
  isError : (Expression.call "ISERROR" [e]).evaluate context resolve = breach b
  isNotAvailable : (Expression.call "ISNA" [e]).evaluate context resolve = breach b
  ifError (l : Literal) :
    (Expression.call "IFERROR" [e, .literal l]).evaluate context resolve = breach b
  ifNotAvailable (l : Literal) :
    (Expression.call "IFNA" [e, .literal l]).evaluate context resolve = breach b

/-- No handler handles a breach. -/
theorem isPassedOn_of_breach
    {e : Expression}
    {b : Breach}
    (breaches : e.evaluate context resolve = breach b) :
    IsPassedOn context resolve e b where
  isError := by rw [evaluate_isError, breaches]; rfl
  isNotAvailable := by rw [evaluate_isNotAvailable, breaches]; rfl
  ifError l := by rw [evaluate_ifError, breaches]; rfl
  ifNotAvailable l := by rw [evaluate_ifNotAvailable, breaches]; rfl

/-- What does not breach is handled completely, and nothing else is. -/
theorem isHandled_iff
    {e : Expression} :
    IsHandled context resolve e ↔ ∀ b, e.evaluate context resolve ≠ breach b := by
  constructor
  · intro handled b breaches
    obtain ⟨answer, isBool, -⟩ := handled.isError
    rw [(isPassedOn_of_breach breaches).isError] at isBool
    cases isBool
  · intro contained
    cases result : e.evaluate context resolve with
    | ok v =>
        exact isHandled_of_value result
    | error failure =>
        cases failure with
        | error error =>
            exact isHandled_of_failure result
        | breach b =>
            exact absurd result (contained b)

end Handlers

/-- Whatever the sheet, the book and the context: the handlers handle an
expression completely, unless it breaches. Then all of them pass the breach
on, and it started at a conversion in the expression or at a reference with
too many row digits. -/
theorem handlers_total
    (current : Sheet)
    (book : Option Book)
    (context : Context)
    (e : Expression) :
    let resolve := resolverOn current book
    (IsHandled context resolve e ↔ ∀ b, e.evaluate context resolve ≠ breach b) ∧
    (∀ b, e.evaluate context resolve = breach b →
      IsPassedOn context resolve e b ∧ Originates context resolve e b) ∧
    ∀ r b, resolve r = breach b →
      ∃ digits > maxIntDigits, b = .longInteger digits := by
  intro resolve
  refine ⟨isHandled_iff, fun b breaches => ⟨isPassedOn_of_breach breaches, ?_⟩,
    fun r b breaches => ?_⟩
  · exact (evaluate_originates e).of_error breaches
  · have long :
        AdmitsLongRows fun b => ∃ digits > maxIntDigits, b = .longInteger digits :=
      fun digits tooMany => ⟨digits, tooMany, rfl⟩
    exact (resolverOn_contained long current book r).of_error breaches

/-- A text cut after infinitely many characters. -/
def infiniteCut : Expression :=
  .call "LEFT" [.literal (.string "abc"), .literal (.float infinity)]

/-- Asked whether it fails, the handlers fail themselves. -/
theorem infinite_cut_escapes :
    (Expression.call "ISERROR" [infiniteCut]).evaluate []
    (resolverOn (.empty "Data") none)
      = breach .overflow :=
  rfl

end GridScript.Formula
