import Mathlib.Data.List.Nodup

namespace GridScript

/-!
# Named entries

Lists of entries that are looked up by their names: the first entry
with a name has it.
-/

variable {α : Type} {entries : List (String × α)} {name : String}

/-- What is found under a name is one of the entries. -/
theorem mem_of_lookup
    {a : α}
    (found : entries.lookup name = some a) :
    (name, a) ∈ entries := by
  obtain ⟨earlier, later, shape, _⟩ := List.lookup_eq_some_iff.mp found
  simp [shape]

/-- Of entries with distinct names, the one with a name is found by it. -/
theorem find?_eq_some_iff
    (distinct : (entries.map Prod.fst).Nodup)
    {entry : String × α} :
    (entries.find? fun held => held.1 == name) = some entry ↔
      entry ∈ entries ∧ entry.1 = name := by
  constructor
  · intro found
    exact ⟨List.mem_of_find?_eq_some found, by simpa using List.find?_some found⟩
  · rintro ⟨member, isNamed⟩
    have some : (entries.find? fun held => held.1 == name).isSome = true :=
      List.find?_isSome.mpr ⟨entry, member, by simpa using isNamed⟩
    obtain ⟨other, found⟩ := Option.isSome_iff_exists.mp some
    have otherNamed : other.1 = name := by simpa using List.find?_some found
    rw [found,
      List.inj_on_of_nodup_map distinct (List.mem_of_find?_eq_some found) member
      (otherNamed.trans isNamed.symm)]

/-- The order of entries with distinct names does not matter. -/
theorem find?_perm
    {others : List (String × α)}
    (perm : entries.Perm others)
    (distinct : (others.map Prod.fst).Nodup)
    (name : String) :
    (entries.find? fun held => held.1 == name) =
      others.find? fun held => held.1 == name := by
  have distinctHere : (entries.map Prod.fst).Nodup :=
    (perm.map Prod.fst).nodup_iff.mpr distinct
  ext entry
  rw [find?_eq_some_iff distinctHere, find?_eq_some_iff distinct, perm.mem_iff]

/-- Exactly the names of the entries are found. -/
theorem lookup_isSome :
    (entries.lookup name).isSome = true ↔ name ∈ entries.map Prod.fst := by
  simp only [List.lookup_isSome_iff, List.mem_map, beq_iff_eq]
  constructor
  · rintro ⟨entry, member, rfl⟩
    exact ⟨entry, member, rfl⟩
  · rintro ⟨entry, member, rfl⟩
    exact ⟨entry, member, rfl⟩

/-- Entries that are left out by their names are not found, and the others are. -/
theorem lookup_filter
    (entries : List (String × α))
    (passes : String → Bool)
    (name : String) :
    (entries.filter fun entry => passes entry.1).lookup name =
      if passes name then entries.lookup name else none := by
  induction entries with
  | nil =>
      exact (ite_self _).symm
  | cons entry rest inductionHypothesis =>
      obtain ⟨held, a⟩ := entry
      cases stays : passes held <;>
        simp only [List.filter_cons, stays, Bool.false_eq_true, if_false, if_true,
          List.lookup_cons, inductionHypothesis] <;>
        cases isName : name == held <;> simp_all

/-- A name has the item that stands beside its first place. -/
theorem lookup_zip
    {names : List String}
    {items : List α}
    (length : items.length = names.length)
    (name : String) :
    (names.zip items).lookup name = items[names.idxOf name]? := by
  induction names generalizing items with
  | nil =>
      cases List.length_eq_zero_iff.mp length
      rfl
  | cons held rest inductionHypothesis =>
      cases items with
      | nil =>
          cases length
      | cons item later =>
          have sameLength : later.length = rest.length := Nat.succ.inj length
          rw [List.zip_cons_cons, List.lookup_cons, inductionHypothesis sameLength,
            List.idxOf_cons]
          by_cases isHeld : held = name
          · simp [isHeld]
          · have apart : (name == held) = false ∧ (held == name) = false := by
              simp [isHeld, Ne.symm isHeld]
            simp [apart]

/-- One of distinct names is not among the names before it. -/
theorem not_mem_of_nodup
    {β : Type}
    {nameOf : β → String}
    {items earlier later : List β}
    {b : β}
    (distinct : (items.map nameOf).Nodup)
    (shape : earlier ++ b :: later = items) :
    nameOf b ∉ earlier.map nameOf := by
  rw [← shape, List.map_append, List.map_cons] at distinct
  intro member
  exact List.disjoint_of_nodup_append distinct member (List.mem_cons_self ..)

end GridScript
