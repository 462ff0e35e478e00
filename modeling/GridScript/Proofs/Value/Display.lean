import GridScript.Proofs.Number.Reading
import GridScript.Value.Display
import GridScript.Value.Order

namespace GridScript

/-!
# Unambiguous display texts

An array of nulls, booleans, integers, strings and such arrays can be told from
its display text. The first character of an item shows of what kind the item is,
and then where it ends: a quote that is not escaped ends a string, and no digit
follows an integer.
-/

open GridScript.Number
open GridScript.Text

/-! ## Strings -/

/-- A character of a string inside an array, escaped. -/
def escapeItemChar (c : Char) : List Char :=
  if c = '\\' ∨ c = '"' then ['\\', c] else [c]

/-- Since backslashes are escaped first, the backslashes that escape quotes stay
as they are, and every character is escaped on its own. -/
theorem escapeItem_eq_flatMap (cs : List Char) :
    escapeItem cs = cs.flatMap escapeItemChar := by
  unfold escapeItem replaceChar
  rw [List.flatMap_assoc]
  refine congrArg (cs.flatMap ·) (funext fun c => ?_)
  by_cases backslash : c = '\\'
  · subst backslash
    rfl
  · by_cases quote : c = '"'
    · subst quote
      rfl
    · simp [escapeItemChar, backslash, quote]

/-- An escaped character can be told from what follows it. -/
theorem escapeItemChar_append_inj
    {c d : Char}
    {cs ds : List Char}
    (same : escapeItemChar c ++ cs = escapeItemChar d ++ ds) :
    c = d ∧ cs = ds := by
  unfold escapeItemChar at same
  split at same
  next special =>
    split at same
    next =>
      exact ⟨(List.cons.inj (List.cons.inj same).2).1,
        (List.cons.inj (List.cons.inj same).2).2⟩
    next otherPlain =>
      exact absurd (.inl (List.cons.inj same).1.symm) otherPlain
  next plain =>
    split at same
    next =>
      exact absurd (.inl (List.cons.inj same).1) plain
    next =>
      exact List.cons.inj same

/-- An escaped character does not begin with a quote. -/
theorem escapeItemChar_append_ne
    (c : Char)
    (cs rest : List Char) :
    escapeItemChar c ++ cs ≠ '"' :: rest := by
  unfold escapeItemChar
  split <;> simp_all

/-- The first quote that is not escaped ends a string. -/
theorem escaped_append_inj
    {s t rest other : List Char}
    (same :
      s.flatMap escapeItemChar ++ '"' :: rest =
        t.flatMap escapeItemChar ++ '"' :: other) :
    s = t ∧ rest = other := by
  induction s generalizing t with
  | nil =>
      cases t with
      | nil =>
          exact ⟨rfl, (List.cons.inj same).2⟩
      | cons d t =>
          rw [List.flatMap_cons, List.append_assoc] at same
          exact absurd same.symm (escapeItemChar_append_ne d _ rest)
  | cons c s inductionHypothesis =>
      rw [List.flatMap_cons, List.append_assoc] at same
      cases t with
      | nil =>
          exact absurd same (escapeItemChar_append_ne c _ other)
      | cons d t =>
          rw [List.flatMap_cons, List.append_assoc] at same
          obtain ⟨rfl, later⟩ := escapeItemChar_append_inj same
          obtain ⟨rfl, sameRest⟩ := inductionHypothesis later
          exact ⟨rfl, sameRest⟩

/-! ## Integers -/

/-- No digit comes first. -/
def Undigited (cs : List Char) : Prop :=
  ∀ c ∈ cs.head?, c.isDigit = false

/-- The digits of a number can be told from what follows them. -/
theorem digitChars_append_inj
    {m n : Nat}
    {rest other : List Char}
    (ends : Undigited rest)
    (otherEnds : Undigited other)
    (same : digitChars m ++ rest = digitChars n ++ other) :
    m = n ∧ rest = other := by
  have taken (n : Nat) {rest : List Char} (ends : Undigited rest) :
      (digitChars n ++ rest).takeWhile Char.isDigit = digitChars n := by
    have none : rest.takeWhile Char.isDigit = [] := by
      cases rest with
      | nil => rfl
      | cons c rest => exact List.takeWhile_cons_of_neg (by simp [ends c rfl])
    rw [List.takeWhile_append_of_pos fun c => isDigit_of_mem_digitChars, none,
      List.append_nil]
  have digits : digitChars m = digitChars n := by
    rw [← taken m ends, same, taken n otherEnds]
  refine ⟨?_, List.append_cancel_left (digits ▸ same)⟩
  rw [← digitsValue_digitChars m, digits, digitsValue_digitChars]

theorem toList_intText (i : Int) :
    (intText i).toList =
      if i < 0 then '-' :: digitChars i.natAbs else digitChars i.natAbs := by
  rw [intText, String.toList_ofList]

/-- The digits of a number do not begin with a sign. -/
theorem digitChars_append_ne
    (n : Nat)
    (cs rest : List Char) :
    digitChars n ++ cs ≠ '-' :: rest := by
  obtain ⟨c, digits, chars⟩ := List.exists_cons_of_ne_nil (digitChars_ne_nil n)
  have digit : c.isDigit = true :=
    isDigit_of_mem_digitChars (n := n) (by simp [chars])
  rw [chars, List.cons_append]
  exact fun same => ne_of_isDigit digit '-' (by decide) (List.cons.inj same).1

/-- An integer can be told from what follows it. -/
theorem intText_append_inj
    {i j : Int}
    {rest other : List Char}
    (ends : Undigited rest)
    (otherEnds : Undigited other)
    (same : (intText i).toList ++ rest = (intText j).toList ++ other) :
    i = j ∧ rest = other := by
  rw [toList_intText, toList_intText] at same
  split at same
  next negative =>
    split at same
    next otherNegative =>
      obtain ⟨magnitude, sameRest⟩ :=
        digitChars_append_inj ends otherEnds (List.cons.inj same).2
      exact ⟨by omega, sameRest⟩
    next =>
      exact absurd same.symm (digitChars_append_ne _ _ _)
  next nonnegative =>
    split at same
    next =>
      exact absurd same (digitChars_append_ne _ _ _)
    next otherNonnegative =>
      obtain ⟨magnitude, sameRest⟩ := digitChars_append_inj ends otherEnds same
      exact ⟨by omega, sameRest⟩

namespace Value

/-! ## Items -/

/-- Null, a boolean, an integer, a string or an array of such values. -/
inductive IsPlain : Value → Prop where
  | null : IsPlain .null
  | bool (b : Bool) : IsPlain (.bool b)
  | int (i : Int) : IsPlain (.int i)
  | string (s : String) : IsPlain (.string s)
  | array
      {items : List Value}
      (plain : ∀ v ∈ items, IsPlain v) :
      IsPlain (.array items)

/-- The characters of an item of an array. -/
def itemChars : Value → List Char
  | string s => (displayItemString s).toList
  | v => v.display.toList

/-- The characters after an item of an array that has further items. -/
def laterChars : List Value → List Char
  | [] => [']']
  | v :: rest => ',' :: ' ' :: (v.itemChars ++ laterChars rest)

/-- The characters after the opening bracket of an array. -/
def innerChars : List Value → List Char
  | [] => [']']
  | v :: rest => v.itemChars ++ laterChars rest

theorem displayItems_eq_map (items : List Value) :
    displayItems items = items.map fun v => String.ofList v.itemChars := by
  induction items with
  | nil =>
      rfl
  | cons v rest inductionHypothesis =>
      cases v <;> simp [displayItems, itemChars, inductionHypothesis]

theorem toList_display_array (items : List Value) :
    (array items).display.toList = '[' :: innerChars items := by
  have later (v : Value) (rest : List Value) :
      (", ".intercalate
          ((v :: rest).map fun v => String.ofList v.itemChars)).toList ++ [']'] =
        v.itemChars ++ laterChars rest := by
    induction rest generalizing v with
    | nil =>
        simp [laterChars]
    | cons w rest inductionHypothesis =>
        rw [laterChars, ← inductionHypothesis w]
        simp
  rw [display, displayItems_eq_map]
  cases items with
  | nil =>
      rfl
  | cons v rest =>
      simp [innerChars, ← later v rest]

/-! ## Kinds -/

/-- The kind of the items that begin with a character. -/
def kindOf? (c : Char) : Option Kind :=
  if c = 'n' then some .null
  else if c = 't' ∨ c = 'f' then some .bool
  else if c = '"' then some .string
  else if c = '[' then some .array
  else if c = '-' ∨ c.isDigit = true then some .number
  else none

/-- An item begins with a character of its kind. -/
theorem IsPlain.exists_first
    {v : Value}
    (plain : v.IsPlain) :
    ∃ c rest, v.itemChars = c :: rest ∧ v.kind? = kindOf? c ∧
      v.kind?.isSome = true := by
  cases plain with
  | null =>
      exact ⟨'n', _, rfl, rfl, rfl⟩
  | bool b =>
      cases b
      · exact ⟨'f', _, rfl, rfl, rfl⟩
      · exact ⟨'t', _, rfl, rfl, rfl⟩
  | int i =>
      by_cases negative : i < 0
      · exact ⟨'-', digitChars i.natAbs, (toList_intText i).trans (if_pos negative),
          rfl, rfl⟩
      · obtain ⟨c, digits, chars⟩ :=
          List.exists_cons_of_ne_nil (digitChars_ne_nil i.natAbs)
        have digit : c.isDigit = true :=
          isDigit_of_mem_digitChars (n := i.natAbs) (by simp [chars])
        have kind : kindOf? c = some .number := by
          simp [kindOf?, digit, ne_of_isDigit digit 'n' (by decide),
            ne_of_isDigit digit 't' (by decide),
            ne_of_isDigit digit 'f' (by decide),
            ne_of_isDigit digit '"' (by decide),
            ne_of_isDigit digit '[' (by decide)]
        exact ⟨c, digits, (toList_intText i).trans ((if_neg negative).trans chars),
          kind.symm, rfl⟩
  | string s =>
      exact ⟨'"', _, String.toList_ofList, rfl, rfl⟩
  | @array items _ =>
      exact ⟨'[', _, toList_display_array items, rfl, rfl⟩

/-- Two items with the same text before anything else are of one kind. -/
theorem IsPlain.kind?_eq
    {v w : Value}
    {rest other : List Char}
    (plain : v.IsPlain)
    (otherPlain : w.IsPlain)
    (same : v.itemChars ++ rest = w.itemChars ++ other) :
    v.kind? = w.kind? := by
  obtain ⟨c, cs, chars, kind, -⟩ := plain.exists_first
  obtain ⟨d, ds, otherChars, otherKind, -⟩ := otherPlain.exists_first
  rw [chars, otherChars, List.cons_append, List.cons_append] at same
  rw [kind, otherKind, (List.cons.inj same).1]

/-! ## Arrays -/

/-- The text of a value as an item tells it from every other one,
whatever follows it. -/
def Tells (v : Value) : Prop :=
  ∀ ⦃w : Value⦄ ⦃rest other : List Char⦄,
    w.IsPlain →
    Undigited rest →
    Undigited other →
    v.itemChars ++ rest = w.itemChars ++ other →
    v = w ∧ rest = other

theorem undigited_laterChars
    (items : List Value)
    (rest : List Char) :
    Undigited (laterChars items ++ rest) := by
  cases items <;> simp [Undigited, laterChars]

/-- Items that tell themselves from others end with a bracket. -/
theorem laterChars_append_inj
    {items others : List Value}
    {rest other : List Char}
    (tell : ∀ v ∈ items, v.Tells)
    (plain : ∀ w ∈ others, w.IsPlain)
    (same : laterChars items ++ rest = laterChars others ++ other) :
    items = others ∧ rest = other := by
  induction items generalizing others with
  | nil =>
      cases others with
      | nil =>
          exact ⟨rfl, (List.cons.inj same).2⟩
      | cons w others =>
          cases (List.cons.inj same).1
  | cons v items inductionHypothesis =>
      cases others with
      | nil =>
          cases (List.cons.inj same).1
      | cons w others =>
          have texts :
              v.itemChars ++ laterChars items ++ rest =
                w.itemChars ++ laterChars others ++ other :=
            (List.cons.inj (List.cons.inj same).2).2
          rw [List.append_assoc, List.append_assoc] at texts
          obtain ⟨rfl, later⟩ :=
            tell v List.mem_cons_self (plain w List.mem_cons_self)
              (undigited_laterChars _ _) (undigited_laterChars _ _) texts
          obtain ⟨rfl, sameRest⟩ :=
            inductionHypothesis
              (fun u member => tell u (List.mem_cons_of_mem v member))
              (fun u member => plain u (List.mem_cons_of_mem v member)) later
          exact ⟨rfl, sameRest⟩

/-- No item begins with the bracket that ends an array. -/
theorem IsPlain.itemChars_append_ne
    {v : Value}
    (plain : v.IsPlain)
    (cs rest : List Char) :
    v.itemChars ++ cs ≠ ']' :: rest := by
  obtain ⟨c, chars, text, kind, isSome⟩ := plain.exists_first
  rw [text, List.cons_append]
  intro same
  rw [kind, (List.cons.inj same).1] at isSome
  cases isSome

theorem innerChars_append_inj
    {items others : List Value}
    {rest other : List Char}
    (tell : ∀ v ∈ items, v.Tells)
    (plain : ∀ v ∈ items, v.IsPlain)
    (otherPlain : ∀ w ∈ others, w.IsPlain)
    (same : innerChars items ++ rest = innerChars others ++ other) :
    items = others ∧ rest = other := by
  cases items with
  | nil =>
      cases others with
      | nil =>
          exact ⟨rfl, (List.cons.inj same).2⟩
      | cons w others =>
          rw [innerChars, innerChars, List.append_assoc] at same
          exact absurd same.symm
            ((otherPlain w List.mem_cons_self).itemChars_append_ne _ rest)
  | cons v items =>
      cases others with
      | nil =>
          rw [innerChars, innerChars, List.append_assoc] at same
          exact
            absurd same ((plain v List.mem_cons_self).itemChars_append_ne _ other)
      | cons w others =>
          rw [innerChars, innerChars, List.append_assoc, List.append_assoc] at same
          obtain ⟨rfl, later⟩ :=
            tell v List.mem_cons_self (otherPlain w List.mem_cons_self)
              (undigited_laterChars _ _) (undigited_laterChars _ _) same
          obtain ⟨rfl, sameRest⟩ :=
            laterChars_append_inj
              (fun u member => tell u (List.mem_cons_of_mem v member))
              (fun u member => otherPlain u (List.mem_cons_of_mem v member)) later
          exact ⟨rfl, sameRest⟩

theorem boolText_append_inj
    {b c : Bool}
    {rest other : List Char}
    (same : (bool b).itemChars ++ rest = (bool c).itemChars ++ other) :
    bool b = bool c ∧ rest = other := by
  cases b with
  | false =>
      cases c with
      | false => exact ⟨rfl, List.append_cancel_left same⟩
      | true => cases (List.cons.inj same).1
  | true =>
      cases c with
      | false => cases (List.cons.inj same).1
      | true => exact ⟨rfl, List.append_cancel_left same⟩

/-- Every plain value can be told from every other one by its text,
whatever follows it. -/
theorem IsPlain.tells
    {v : Value}
    (plain : v.IsPlain) :
    v.Tells := by
  induction plain with
  | null =>
      intro w rest other otherPlain _ _ same
      have kinds := IsPlain.null.kind?_eq otherPlain same
      cases otherPlain with
      | null => exact ⟨rfl, List.append_cancel_left same⟩
      | _ => cases kinds
  | bool b =>
      intro w rest other otherPlain _ _ same
      have kinds := (IsPlain.bool b).kind?_eq otherPlain same
      cases otherPlain with
      | bool c =>
          exact boolText_append_inj same
      | _ => cases kinds
  | int i =>
      intro w rest other otherPlain ends otherEnds same
      have kinds := (IsPlain.int i).kind?_eq otherPlain same
      cases otherPlain with
      | int j =>
          obtain ⟨rfl, sameRest⟩ := intText_append_inj ends otherEnds same
          exact ⟨rfl, sameRest⟩
      | _ => cases kinds
  | string s =>
      intro w rest other otherPlain _ _ same
      have kinds := (IsPlain.string s).kind?_eq otherPlain same
      cases otherPlain with
      | string t =>
          simp only [itemChars, displayItemString, String.toList_ofList,
            escapeItem_eq_flatMap, List.cons_append, List.append_assoc,
            List.cons.injEq, true_and] at same
          obtain ⟨sameChars, sameRest⟩ := escaped_append_inj same
          exact ⟨congrArg Value.string (String.toList_inj.mp sameChars), sameRest⟩
      | _ => cases kinds
  | @array items plain inductionHypothesis =>
      intro w rest other otherPlain _ _ same
      have kinds := (IsPlain.array plain).kind?_eq otherPlain same
      cases otherPlain with
      | @array others otherPlain =>
          simp only [itemChars, toList_display_array, List.cons_append,
            List.cons.injEq, true_and]
            at same
          obtain ⟨rfl, sameRest⟩ :=
            innerChars_append_inj inductionHypothesis plain otherPlain same
          exact ⟨rfl, sameRest⟩
      | _ => cases kinds

/--
The display text of an array determines the array, if its leaves are nulls,
booleans, integers and strings: nothing in a string can be taken for a part of
the array around it.
-/
theorem display_array_eq_iff
    {items others : List Value}
    (plain : ∀ v ∈ items, v.IsPlain)
    (otherPlain : ∀ w ∈ others, w.IsPlain) :
    (array items).display = (array others).display ↔
      array items = array others := by
  constructor
  · intro same
    have texts :
        (array items).itemChars ++ [] = (array others).itemChars ++ [] := by
      simp only [itemChars, same]
    have undigited : Undigited [] := by simp [Undigited]
    exact
      ((IsPlain.array plain).tells (.array otherPlain) undigited undigited texts).1
  · exact congrArg display

/-- A null between two strings, and one string with all that is displayed
between their ends. -/
theorem display_array_eq_iff_imitating :
    (∀ v ∈ [string "a", null, string "b"], v.IsPlain) ∧
      (∀ v ∈ [string "a\", null, \"b"], v.IsPlain) ∧
      (array [string "a", null, string "b"]).display ≠
        (array [string "a\", null, \"b"]).display := by
  have three : ∀ v ∈ [string "a", null, string "b"], v.IsPlain := by
    simp [IsPlain.string, IsPlain.null]
  have one : ∀ v ∈ [string "a\", null, \"b"], v.IsPlain := by
    simp [IsPlain.string]
  refine ⟨three, one, fun same => ?_⟩
  have sameArray := (display_array_eq_iff three one).mp same
  simp at sameArray

end Value

end GridScript
