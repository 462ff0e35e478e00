import GridScript.Proofs.Parsing.Invariant
import GridScript.Proofs.Script.Layout
import GridScript.Proofs.Script.Regime.Evaluation
import GridScript.Proofs.Value.Containment
import GridScript.Script.Run

namespace GridScript.Script

/-!
# Containment of errors

A run of a text succeeds or stops with an error of a script; errors of sheets,
documents and formulas are wrapped in one. The exceptions are breaches of the
number formats: an integer with more digits than are read, what single built-in
functions let through, and what follows from integers beyond 64 bits in the
variables that a run starts with. Where a text has none of them, nothing but an
error of a script stops its run, apart from the depth of nesting.
-/

open GridScript.Number
open GridScript.Parsing

/-!
## Literals of programs

The integers written in a program fit 64 bits: a larger one is an error of the
text, and one with more digits than are read is the only breach of reading.
-/

/-- A literal has no integer beyond 64 bits. -/
def Expression.Fits : Expression → Prop
  | .literal l _ => l.value.Narrow fun _ => False
  | _ => True

/-- An integer literal in range fits. -/
theorem Expression.WellFormed.fits
    {layout : Layout}
    {e : Expression}
    (wellFormed : e.WellFormed layout) :
    e.Fits := by
  cases e with
  | literal l line =>
      cases l with
      | null =>
          exact .null
      | bool b =>
          exact .bool b
      | int i =>
          obtain ⟨positive, small⟩ := wellFormed.1
          unfold maxInt at small
          exact .int (.inl (fitsInt_iff.mpr (by omega)))
      | float x =>
          exact .float x
      | string s =>
          exact .string s
  | _ =>
      trivial

/-- The layout that asks for nothing. -/
def Layout.any : Layout where
  line _ := True
  block _ := True
  block_single _ := trivial
  block_of_append _ := trivial

theorem language_handsOn :
    language.HandsOn (fun token => Unsigned token.text) (Phrase.Sound .any)
      (Failure.Admitted (E := ParseError) (· = .longLiteral)) where
  read scanned := unsigned_of_stands (Lexicon.stands_of_scanFrom scanned)
  finish _ := nofun
  leaf unsigned := ⟨trivial, unsigned⟩
  build rule _ each := buildPhrase_sound rule each trivial

/-- The integers written in a program fit 64 bits, and reading a text breaches
only for an integer with too many digits. -/
theorem parse_contained (text : String) :
    Contained (· = .longLiteral) (fun program => ∀ part ∈ program.parts, part.Fits)
      (parse text) := by
  unfold parse
  split
  next phrase parsed =>
    have sound := (language.parse_meets language_handsOn parsed).of_ok rfl
    refine .ok fun part member => ?_
    have isNode := Program.mem_parts_iff.mp member
    have wellFormed := forall_mem_nodesOfAll.mpr sound.statementList _ isNode
    exact Expression.WellFormed.fits wellFormed
  next failure parsed =>
    exact .error ((language.parse_meets language_handsOn parsed).of_error rfl)
  next =>
    exact .fail _
  next =>
    exact .fail _

/-!
## Evaluation that stays within the number formats

Where the literals of a program fit and the breaches of the built-in
functions that it calls are admitted, a run from variables that fit comes
to no other breach.
-/

section

variable {admits : Breach → Prop}

/-- A run may come to the admitted breaches, and no monitor watches it. -/
def Regime.admitting (admits : Breach → Prop) : Regime where
  node n := ∀ e, n = .expression e → e.Allowed admits
  line _ := True
  narrow := admits
  breach := admits
  alarm _ := False
  line_of_node _ := trivial
  narrow_of_node allowed := allowed _ rfl
  breach_of_narrow _ admitted := admitted
  alarm_withLine := nofun

theorem Regime.Outside.admitted
    {halt : Halt}
    (outside : (admitting admits).Outside halt) :
    halt.Admitted admits := by
  cases outside with
  | alarm raised =>
      cases raised
  | breach admitted =>
      exact admitted
  | _ =>
      trivial

end

/-! ## Kinds of errors -/

/-- The breaches that a run of a program can come to: those of the built-in
functions that it calls, and those of integers that are no values of scripts and
stand in its variables from the start. -/
def Program.MayBreach (program : Program) (env : Environment) (b : Breach) : Prop :=
  (∃ name ∈ program.calls, ∃ builtin,
    lookupBuiltin? name = some builtin ∧ builtin.MayBreach b) ∨
  (b = .overflow ∧ ¬env.Narrow fun _ => False)

end GridScript.Script
