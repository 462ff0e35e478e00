import GridScript.Format.Code
import GridScript.Proofs.Number.Floats

namespace GridScript.Format

/-!
# Digits that are shown

The digits of a number are shown with a point and with commas between groups of
them. Which of these characters stand in a text, and whether one of its digits
differs from zero, is followed through rounding, filling and grouping. Every
finite float has digits to show.
-/

open GridScript.Number

variable {cs : List Char} {c : Char}

/-- A text shows a digit other than zero. -/
def ShowsNonzero (cs : List Char) : Prop :=
  ∃ c ∈ cs, c.isDigit = true ∧ c ≠ '0'

instance (cs : List Char) : Decidable (ShowsNonzero cs) :=
  decidable_of_iff ((cs.any fun c => c.isDigit && c != '0') = true)
    (by simp [ShowsNonzero])

/-- A character of a number without its sign. -/
def isNumberChar (c : Char) : Bool :=
  c.isDigit || c == ',' || c == '.'

theorem showsNonzero_append {ds : List Char} :
    ShowsNonzero (cs ++ ds) ↔ ShowsNonzero cs ∨ ShowsNonzero ds := by
  simp only [ShowsNonzero, List.mem_append, or_and_right, exists_or]

theorem isNumberChar_of_isDigit
    (digit : c.isDigit = true) :
    isNumberChar c = true := by
  simp [isNumberChar, digit]

theorem hasNonzero_iff_of_isDigit
    (digits : ∀ c ∈ cs, c.isDigit = true) :
    hasNonzero cs = true ↔ ShowsNonzero cs := by
  simp only [hasNonzero, List.any_eq_true, bne_iff_ne, ShowsNonzero]
  exact exists_congr fun c =>
    and_congr_right fun member => (and_iff_right (digits c member)).symm

theorem isVisible_iff
    (number : ∀ c ∈ cs, isNumberChar c = true) :
    isVisible cs = true ↔ ShowsNonzero cs := by
  simp only [isVisible, List.any_eq_true, ShowsNonzero, Bool.and_eq_true,
    bne_iff_ne]
  refine exists_congr fun c => and_congr_right fun member => ?_
  have held := number c member
  simp only [isNumberChar, Bool.or_eq_true, beq_iff_eq] at held
  constructor
  · rintro ⟨⟨nonzero, noPoint⟩, noComma⟩
    rcases held with (digit | comma) | point
    · exact ⟨digit, nonzero⟩
    · exact absurd comma noComma
    · exact absurd point noPoint
  · rintro ⟨digit, nonzero⟩
    exact ⟨⟨nonzero, ne_of_isDigit digit '.' (by decide)⟩,
      ne_of_isDigit digit ',' (by decide)⟩

/-! ## Groups of digits -/

theorem mem_groupReversed_iff :
    c ∈ groupReversed cs ↔ c ∈ cs ∨ c = ',' ∧ 4 ≤ cs.length := by
  induction cs using groupReversed.induct with
  | case1 a b c d rest inductionHypothesis =>
      simp [groupReversed, inductionHypothesis]
      grind
  | case2 cs short =>
      have few : cs.length < 4 := by
        rcases cs with _ | ⟨a, _ | ⟨b, _ | ⟨c, _ | ⟨d, rest⟩⟩⟩⟩
        case cons.cons.cons.cons => exact absurd rfl (short a b c d rest)
        all_goals simp
      simp [groupReversed]
      omega

/-- Groups of digits are joined by commas from four digits on. -/
theorem mem_group_iff :
    c ∈ group cs ↔ c ∈ cs ∨ c = ',' ∧ 4 ≤ cs.length := by
  simp [group, mem_groupReversed_iff]

theorem isNumberChar_of_mem_group
    (digits : ∀ c ∈ cs, c.isDigit = true)
    (member : c ∈ group cs) :
    isNumberChar c = true := by
  rcases mem_group_iff.mp member with inDigits | ⟨rfl, -⟩
  · exact isNumberChar_of_isDigit (digits c inDigits)
  · rfl

theorem showsNonzero_group : ShowsNonzero (group cs) ↔ ShowsNonzero cs := by
  constructor
  · rintro ⟨c, member, digit, nonzero⟩
    rcases mem_group_iff.mp member with inDigits | ⟨rfl, -⟩
    · exact ⟨c, inDigits, digit, nonzero⟩
    · exact absurd digit (by decide)
  · rintro ⟨c, member, shown⟩
    exact ⟨c, mem_group_iff.mpr (.inl member), shown⟩

/-- Grouped digits hold something other than zeros if they show
it, or have a comma. -/
theorem hasNonzero_group
    (digits : ∀ c ∈ cs, c.isDigit = true) :
    hasNonzero (group cs) = true ↔ ShowsNonzero cs ∨ 4 ≤ cs.length := by
  simp only [hasNonzero, List.any_eq_true, bne_iff_ne, mem_group_iff]
  constructor
  · rintro ⟨c, inDigits | ⟨-, many⟩, nonzero⟩
    · exact .inl ⟨c, inDigits, digits c inDigits, nonzero⟩
    · exact .inr many
  · rintro (⟨c, member, -, nonzero⟩ | many)
    · exact ⟨c, .inl member, nonzero⟩
    · exact ⟨',', .inr ⟨rfl, many⟩, by decide⟩

/-- Three more digits are a group of their own. -/
theorem group_append
    {a b c : Char}
    (some : cs ≠ []) :
    group (cs ++ [a, b, c]) = group cs ++ [',', a, b, c] := by
  obtain ⟨last, init, isReverse⟩ :=
    List.exists_cons_of_ne_nil (List.reverse_ne_nil_iff.mpr some)
  rw [group, group, List.reverse_append, isReverse]
  show (c :: b :: a :: ',' :: groupReversed (last :: init)).reverse = _
  simp

theorem triples_append
    {a b c : Char}
    (whole : cs.length % 3 = 0) :
    triples (cs ++ [a, b, c]) = triples cs ++ [[a, b, c]] := by
  induction cs using triples.induct with
  | case1 =>
      rfl
  | case2 x y z rest inductionHypothesis =>
      have restWhole : rest.length % 3 = 0 := by
        simp only [List.length_cons] at whole
        omega
      show [x, y, z] :: triples (rest ++ [a, b, c]) =
        [x, y, z] :: (triples rest ++ [[a, b, c]])
      rw [inductionHypothesis restWhole]
  | case3 cs notEmpty short =>
      rcases cs with _ | ⟨x, _ | ⟨y, _ | ⟨z, rest⟩⟩⟩
      case nil => exact absurd rfl notEmpty
      case cons.cons.cons => exact absurd rfl (short x y z rest)
      all_goals simp at whole

theorem groupFromLeft_append
    {a b c : Char}
    (some : cs ≠ []) :
    groupFromLeft (cs ++ [a, b, c]) = groupFromLeft cs ++ [',', a, b, c] := by
  have positive := List.length_pos_of_ne_nil some
  unfold groupFromLeft
  dsimp only
  rw [List.length_append, List.length_cons, List.length_cons, List.length_cons,
    List.length_nil, Nat.add_mod_right]
  generalize isFirst : (if cs.length % 3 = 0 then 3 else cs.length % 3) = first
  have within : first ≤ cs.length := by
    split at isFirst <;> omega
  have restWhole : (cs.drop first).length % 3 = 0 := by
    rw [List.length_drop]
    split at isFirst <;> omega
  rw [List.take_append_of_le_length within, List.drop_append_of_le_length within,
    triples_append restWhole]
  simp

/-- Groups that are counted from either end are the same. -/
theorem groupFromLeft_eq_group (cs : List Char) : groupFromLeft cs = group cs := by
  induction length : cs.length using Nat.strongRecOn generalizing cs with
  | ind n inductionHypothesis =>
      subst length
      by_cases few : cs.length ≤ 3
      · rcases cs with _ | ⟨a, _ | ⟨b, _ | ⟨c, _ | ⟨d, rest⟩⟩⟩⟩
        case cons.cons.cons.cons =>
          simp only [List.length_cons] at few
          omega
        all_goals simp [groupFromLeft, triples, group, groupReversed]
      · have split := List.take_append_drop (cs.length - 3) cs
        have lastLength : (cs.drop (cs.length - 3)).length = 3 := by
          rw [List.length_drop]
          omega
        obtain ⟨a, b, c, isLast⟩ := List.length_eq_three.mp lastLength
        have shorter : (cs.take (cs.length - 3)).length < cs.length := by
          rw [List.length_take]
          omega
        have some : cs.take (cs.length - 3) ≠ [] := by
          rw [← List.length_pos_iff, List.length_take]
          omega
        rw [← split, isLast, groupFromLeft_append some, group_append some,
          inductionHypothesis _ shorter _ rfl]

/-! ## Digits of a number -/

theorem isNumberChar_of_mem_pointed
    (digits : ∀ c ∈ cs, c.isDigit = true)
    (member : c ∈ pointed cs) :
    isNumberChar c = true := by
  unfold pointed at member
  split at member
  · cases member
  · rcases List.mem_cons.mp member with rfl | inDigits
    · rfl
    · exact isNumberChar_of_isDigit (digits c inDigits)

theorem showsNonzero_pointed : ShowsNonzero (pointed cs) ↔ ShowsNonzero cs := by
  unfold pointed
  split
  next empty =>
    rw [List.isEmpty_iff.mp empty]
  next =>
    simp [ShowsNonzero]

/-- Digits around a point: before it stands one zero, or digits of
which one is not zero. -/
structure FixedDigits.Proper (digits : FixedDigits) : Prop where
  whole : ∀ c ∈ digits.whole, c.isDigit = true
  fraction : ∀ c ∈ digits.fraction, c.isDigit = true
  least : ShowsNonzero digits.whole ∨ digits.whole.length = 1

theorem length_padLeft (width : Nat) (cs : List Char) :
    (padLeft width cs).length = max width cs.length := by
  rw [padLeft, List.length_append, List.length_replicate]
  omega

theorem showsNonzero_padLeft {width : Nat} :
    ShowsNonzero (padLeft width cs) ↔ ShowsNonzero cs := by
  have noZeros (n : Nat) : ¬ShowsNonzero (List.replicate n '0') :=
    fun ⟨_, member, _, nonzero⟩ => nonzero (List.eq_of_mem_replicate member)
  rw [padLeft, showsNonzero_append, or_iff_right (noZeros _)]

theorem proper_fixedDigits (count decimals : Nat) :
    (fixedDigits count decimals).Proper := by
  have digits : ∀ c ∈ padLeft (decimals + 1) (digitChars count), c.isDigit = true :=
    fun _ => isDigit_of_mem_padLeft fun _ => isDigit_of_mem_digitChars
  refine ⟨fun c member => digits c (List.mem_of_mem_take member),
    fun c member => digits c (List.mem_of_mem_drop member), ?_⟩
  show ShowsNonzero ((padLeft (decimals + 1) (digitChars count)).take _) ∨
    ((padLeft (decimals + 1) (digitChars count)).take _).length = 1
  rw [List.length_take, length_padLeft]
  -- Zeros are only put in front where they leave one digit before the point.
  by_cases few : (digitChars count).length ≤ decimals + 1
  · exact .inr (by omega)
  · have positive : 0 < count := by
      refine Nat.pos_of_ne_zero ?_
      rintro rfl
      exact few (Nat.succ_pos _)
    obtain ⟨c, rest, first, nonzero⟩ := digitChars_of_pos positive
    have digit : c.isDigit = true :=
      isDigit_of_mem_digitChars (first ▸ List.mem_cons_self)
    have unpadded : decimals + 1 - (digitChars count).length = 0 := by omega
    refine .inl ⟨c, ?_, digit, nonzero⟩
    rw [padLeft, unpadded, List.replicate_zero, List.nil_append]
    obtain ⟨wholes, isSucc⟩ :
        ∃ k, max (decimals + 1) (digitChars count).length - decimals = k + 1 :=
      ⟨(digitChars count).length - decimals - 1, by omega⟩
    rw [isSucc, first, List.take_succ_cons]
    exact List.mem_cons_self

variable {n : Number} {decimals : Nat} {digits : FixedDigits}

theorem fixed_proper
    (shown : fixed n decimals = .ok digits) :
    digits.Proper := by
  unfold fixed at shown
  split at shown
  · cases shown
  · dsimp only at shown
    split at shown
    · cases shown
    · cases shown
      exact proper_fixedDigits _ _

/-- Only finite numbers have digits. -/
theorem isFinite_of_fixed
    (shown : fixed n decimals = .ok digits) :
    n.IsFinite := by
  cases n with
  | int i => exact ⟨_, _, _, rfl⟩
  | float x =>
      show ∃ _ _ _, Exact.ofFloat x = _
      cases value : Exact.ofFloat x with
      | finite => exact ⟨_, _, _, rfl⟩
      | infinite | undefined =>
          simp [fixed, magnitudeDecimal?, shortestDecimal?, value] at shown

end GridScript.Format
