import Mathlib.Data.List.DropRight
import GridScript.Script.Builtin.Text
import GridScript.Proofs.Formula.Reads
import GridScript.Proofs.Value.Order

namespace GridScript

/-!
# The two sides of a text

Both languages have functions for the first and for the last characters of a
text. Those for the first characters agree. Scripts give the last characters for
every count, and a count beyond the length gives the whole text. In a formula a
count `length + k` starts over and gives the last `k` characters, so that the
languages agree up to the length and again from twice the length on.
-/

open GridScript.Number

/-- The first characters of a text and the last ones of the rest. -/
theorem take_append_rtake
    {n : Nat}
    {cs : List α}
    (within : n ≤ cs.length) :
    cs.take n ++ cs.rtake (cs.length - n) = cs := by
  rw [List.rtake, Nat.sub_sub_self within, List.take_append_drop]

/-- As many items as a list has are all of it. -/
theorem rtake_eq_self_iff
    {n : Nat}
    {cs : List α} :
    cs.rtake n = cs ↔ cs.length ≤ n := by
  constructor
  · intro whole
    have sameLength := congrArg List.length whole
    rw [List.rtake, List.length_drop] at sameLength
    omega
  · intro beyond
    rw [List.rtake, Nat.sub_eq_zero_of_le beyond, List.drop_zero]

namespace Formula

/-- The last characters, of which a count beyond the length starts over. -/
theorem lastCharacters_eq (n : Nat) (cs : List Char) :
    lastCharacters n cs =
      cs.rtake (if n ≤ cs.length then n else n - cs.length) := by
  unfold lastCharacters List.rtake
  split
  · rfl
  · congr 1
    omega

/-- Where starting over makes no difference. -/
theorem lastCharacters_eq_rtake_iff
    {n : Nat}
    {cs : List Char} :
    lastCharacters n cs = cs.rtake n ↔ n ≤ cs.length ∨ 2 * cs.length ≤ n := by
  rw [lastCharacters_eq]
  split
  · simp [*]
  · rw [rtake_eq_self_iff.mpr (show cs.length ≤ n by omega), rtake_eq_self_iff]
    omega

/-- A count that is no negative number is taken as it is. -/
theorem characterCount_nat (function : Function) (n : Nat) :
    characterCount function (some (.int n)) = .ok n := by
  have notNegative : ¬ (n : Int) < 0 := by omega
  simp only [characterCount, Value.number?, less_int, notNegative, decide_false]
  rfl

end Formula

/-- A count that is no negative number is taken as it is. -/
theorem Script.countArgument_nat (name : String) (n : Nat) (what : String) :
    countArgument name (.int n) what = .ok n := by
  have notNegative : ¬ (n : Int) < 0 := by omega
  show (if (n : Int) < 0 then
      fail (.arguments name (.nonNegative what) (some (.int n)))
    else .ok (n : Int).toNat) = Except.ok n
  rw [if_neg notNegative, Int.toNat_natCast]

section Sides

variable
  {context : Formula.Context}
  {resolve : Formula.Resolver}
  {text count : Formula.Expression}
  {t : String}
  {n : Nat}

/-- The first characters in a formula. -/
theorem Formula.evaluate_left
    (textValue : text.evaluate context resolve = .ok (.string t))
    (countValue : count.evaluate context resolve = .ok (.int n)) :
    (Expression.call "LEFT" [text, count]).evaluate context resolve
      = .ok (Script.textOf (t.toList.take n)) := by
  rw [evaluate_call_eager .left
    rfl rfl rfl rfl (.cons textValue (.cons countValue .nil))]
  show (characterCount .left (some (.int n)) >>= _) = _
  rw [characterCount_nat]
  rfl

/-- The last characters in a formula. -/
theorem Formula.evaluate_right
    (textValue : text.evaluate context resolve = .ok (.string t))
    (countValue : count.evaluate context resolve = .ok (.int n)) :
    (Expression.call "RIGHT" [text, count]).evaluate context resolve
      = .ok (Script.textOf (lastCharacters n t.toList)) := by
  rw [evaluate_call_eager .right
    rfl rfl rfl rfl (.cons textValue (.cons countValue .nil))]
  show (characterCount .right (some (.int n)) >>= _) = _
  rw [characterCount_nat]
  rfl

/-- The first characters in a script. -/
theorem Script.callText_left (t : String) (n : Nat) :
    callText .left [.string t, .int n] = .ok (textOf (t.toList.take n)) := by
  have counted := countArgument_nat "left" n "length"
  simp [callText, argument, counted]
  rfl

/-- The last characters in a script. -/
theorem Script.callText_right (t : String) (n : Nat) :
    callText .right [.string t, .int n] = .ok (textOf (t.toList.rtake n)) := by
  have counted := countArgument_nat "right" n "length"
  simp [callText, argument, counted]
  rfl

/-- Texts are the same if their characters are. -/
theorem Script.textOf_inj
    {cs ds : List Char} :
    textOf cs = textOf ds ↔ cs = ds := by
  simp [textOf, String.ofList_inj]

/-- Texts beside each other in a formula. -/
theorem Formula.evaluate_concat
    {left right : Expression}
    {cs ds : List Char}
    (leftValue : left.evaluate context resolve = .ok (Script.textOf cs))
    (rightValue : right.evaluate context resolve = .ok (Script.textOf ds)) :
    (Expression.binary .concat left right).evaluate context resolve
      = .ok (Script.textOf (cs ++ ds)) := by
  simp only [Expression.evaluate, leftValue, rightValue]
  show Except.ok (Value.string (String.ofList cs ++ String.ofList ds)) = _
  rw [← String.ofList_append]
  rfl

/-- For every text and every count that is no negative number: the first
characters are the same in both languages, a script gives the last characters,
and a formula gives them exactly if the count is at most the length or at least
twice the length; any other count starts over at the end. Up to the length, the
two sides that a formula gives make the whole text. -/
theorem text_sides
    (textValue : text.evaluate context resolve = .ok (.string t))
    (countValue : count.evaluate context resolve = .ok (.int n)) :
    let formula name :=
      (Formula.Expression.call name [text, count]).evaluate context resolve
    let first := Script.textOf (t.toList.take n)
    let last := Script.textOf (t.toList.rtake n)
    (formula "LEFT" = .ok first ∧
      Script.callText .left [.string t, .int n] = .ok first) ∧
    Script.callText .right [.string t, .int n] = .ok last ∧
    (formula "RIGHT" = .ok last ↔ n ≤ t.length ∨ 2 * t.length ≤ n) ∧
    (t.length < n →
      formula "RIGHT" = .ok (Script.textOf (t.toList.rtake (n - t.length)))) ∧
    (n ≤ t.length →
      ∀ rest : Formula.Expression,
        rest.evaluate context resolve = .ok (.int (t.length - n : Nat)) →
        (Formula.Expression.binary .concat (.call "LEFT" [text, count])
          (.call "RIGHT" [text, rest])).evaluate context resolve =
            .ok (.string t)) := by
  intro formula first last
  have right :
      formula "RIGHT" = .ok (Script.textOf (Formula.lastCharacters n t.toList)) :=
    Formula.evaluate_right textValue countValue
  have left : formula "LEFT" = .ok first :=
    Formula.evaluate_left textValue countValue
  refine ⟨⟨left, Script.callText_left t n⟩, Script.callText_right t n, ?_, ?_, ?_⟩
  · rw [right, Except.ok.injEq, Script.textOf_inj,
      Formula.lastCharacters_eq_rtake_iff, String.length_toList]
  · intro beyond
    rw [right, Formula.lastCharacters_eq, String.length_toList, if_neg (by omega)]
  · intro within rest restValue
    have remaining := Formula.evaluate_right textValue restValue
    have restWithin : t.length - n ≤ t.toList.length := by
      rw [String.length_toList]
      omega
    rw [Formula.lastCharacters_eq, if_pos restWithin, ← String.length_toList]
      at remaining
    rw [Formula.evaluate_concat left remaining,
      take_append_rtake (by rwa [String.length_toList]), Script.textOf,
      String.ofList_toList]

/-- The first two of five characters, and all but the first two. -/
theorem text_sides_hello :
    let text := Formula.Expression.literal (.string "hello")
    let two := Formula.Expression.literal (.int 2)
    let rest := Formula.Expression.binary .sub (.call "LEN" [text]) two
    (Formula.Expression.call "RIGHT" [text, two]).evaluate []
    (Formula.noResolver [])
        = .ok (.string "lo") ∧
      (Formula.Expression.binary .concat (.call "LEFT" [text, two])
        (.call "RIGHT" [text, rest])).evaluate [] (Formula.noResolver [])
          = .ok (.string "hello") :=
  have sides :=
    @text_sides [] (Formula.noResolver []) (.literal (.string "hello"))
      (.literal (.int 2)) "hello" 2 rfl rfl
  ⟨sides.2.2.1.mpr (.inl (by decide)), sides.2.2.2.2 (by decide) _ rfl⟩

/-- A count beyond the length: the formula gives one character where
the script gives all. -/
theorem right_starts_over :
    (Formula.Expression.call "RIGHT" [.literal (.string "abc"),
      .literal (.int 4)]).evaluate []
        (Formula.noResolver []) = .ok (.string "c") ∧
      Script.callText .right [.string "abc", .int 4] = .ok (.string "abc") :=
  ⟨rfl, rfl⟩

end Sides

end GridScript
