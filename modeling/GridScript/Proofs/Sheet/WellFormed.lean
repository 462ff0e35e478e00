import GridScript.Proofs.Entries
import GridScript.Sheet.Edit

namespace GridScript

/-!
# Well-formed sheets

The rows of a sheet are stored beside its width, and the names of its columns
beside their positions. In a well-formed sheet they fit: every row has as many
cells as the sheet is wide, every column has one name of its own, and every row
name has a row of its own.
-/

namespace NameIndex

/-- The names of an index, in order. -/
def names (index : NameIndex) : List String :=
  index.map Prod.fst

/-- The positions of an index, in order. -/
def positions (index : NameIndex) : List Nat :=
  index.map Prod.snd

theorem has_iff
    {index : NameIndex}
    {name : String} :
    index.has name = true ↔ name ∈ index.names :=
  lookup_isSome

theorem has_eq_false_iff
    {index : NameIndex}
    {name : String} :
    index.has name = false ↔ name ∉ index.names := by
  rw [← Bool.not_eq_true, has_iff]

/-- Every name has a place of its own below a bound. -/
structure Places (index : NameIndex) (bound : Nat) : Prop where
  below : ∀ position ∈ index.positions, position < bound
  names : index.names.Nodup
  positions : index.positions.Nodup

namespace Places

variable {index : NameIndex} {bound : Nat}

theorem empty (bound : Nat) : Places [] bound :=
  ⟨by simp [NameIndex.positions], by simp [NameIndex.names],
    by simp [NameIndex.positions]⟩

theorem mono
    {larger : Nat}
    (places : index.Places bound)
    (bounded : bound ≤ larger) :
    index.Places larger :=
  ⟨fun position member => Nat.lt_of_lt_of_le (places.below position member) bounded,
    places.names, places.positions⟩

/-- A new name takes the next place. -/
theorem append
    (places : index.Places bound)
    {name : String}
    (fresh : name ∉ index.names) :
    NameIndex.Places (index ++ [(name, bound)]) (bound + 1) := by
  have freshPosition : bound ∉ index.positions := by
    intro member
    exact Nat.lt_irrefl bound (places.below bound member)
  refine ⟨?_, ?_, ?_⟩
  · intro position member
    simp only [NameIndex.positions, List.map_append, List.map_cons, List.map_nil,
      List.mem_append, List.mem_singleton] at member
    rcases member with old | rfl
    · exact Nat.lt_succ_of_lt (places.below position old)
    · exact Nat.lt_succ_self position
  · simp only [NameIndex.names, List.map_append, List.map_cons, List.map_nil]
    exact places.names.append (List.nodup_singleton name) (by simpa using fresh)
  · simp only [NameIndex.positions, List.map_append, List.map_cons, List.map_nil]
    exact places.positions.append (List.nodup_singleton bound)
      (by simpa using freshPosition)

/-- A name with a place lies below the bound. -/
theorem lookup_lt
    (places : index.Places bound)
    {name : String}
    {position : Nat}
    (found : index.lookup name = some position) :
    position < bound :=
  places.below position (List.mem_map.mpr ⟨_, mem_of_lookup found, rfl⟩)

/-- Two names do not share a place. -/
theorem lookup_injective
    (places : index.Places bound)
    {first second : String}
    {position : Nat}
    (firstFound : index.lookup first = some position)
    (secondFound : index.lookup second = some position) :
    first = second := by
  have apart := List.inj_on_of_nodup_map places.positions
  have same := apart (mem_of_lookup firstFound) (mem_of_lookup secondFound) rfl
  exact congrArg Prod.fst same

end Places

end NameIndex

namespace Sheet

/-- Names that could be indexed differ from each other and have
their own positions. -/
theorem addColumnNames_eq_ok
    {names : List String}
    {index result : NameIndex}
    {position : Nat}
    (made : addColumnNames index position names = .ok result) :
    result = index ++ names.zipIdx position ∧ names.Nodup ∧
      ∀ name ∈ names, name ∉ index.names := by
  induction names generalizing index position with
  | nil =>
      cases made
      simp
  | cons name rest inductionHypothesis =>
      unfold addColumnNames at made
      split at made
      · cases made
      · rename_i notHeld
        have fresh : name ∉ index.names := by
          simpa [NameIndex.has_iff] using notHeld
        obtain ⟨shape, nodup, apart⟩ := inductionHypothesis made
        have apartFromName :
            ∀ later ∈ rest, later ∉ index.names ∧ later ≠ name := by
          intro later member
          have outside := apart later member
          simpa [NameIndex.names] using outside
        refine ⟨by simp [shape, List.zipIdx_cons], ?_, ?_⟩
        · refine List.nodup_cons.mpr ⟨fun again => ?_, nodup⟩
          exact (apartFromName name again).2 rfl
        · intro held member
          rcases List.mem_cons.mp member with rfl | inRest
          · exact fresh
          · exact (apartFromName held inRest).1

/-- An index of column names gives each name its position. -/
theorem indexColumns_eq_ok
    {names : List String}
    {index : NameIndex}
    (made : indexColumns names = .ok index) :
    names.Nodup ∧ index = names.zipIdx := by
  obtain ⟨shape, nodup, _⟩ := addColumnNames_eq_ok made
  exact ⟨nodup, by simpa using shape⟩

/-- New names that differ from each other can be indexed. -/
theorem addColumnNames_of_nodup
    {names : List String}
    (nodup : names.Nodup)
    {index : NameIndex}
    (fresh : ∀ name ∈ names, name ∉ index.names)
    (position : Nat) :
    addColumnNames index position names = .ok (index ++ names.zipIdx position) := by
  induction names generalizing index position with
  | nil =>
      simp [addColumnNames]
  | cons name rest inductionHypothesis =>
      obtain ⟨notAgain, restNodup⟩ := List.nodup_cons.mp nodup
      have notHeld := NameIndex.has_eq_false_iff.mpr (fresh name List.mem_cons_self)
      have restFresh : ∀ later ∈ rest,
          later ∉ NameIndex.names (index ++ [(name, position)]) := by
        intro later member
        have outside := fresh later (List.mem_cons_of_mem name member)
        have other : later ≠ name := fun same => notAgain (same ▸ member)
        simp [NameIndex.names] at outside ⊢
        exact ⟨outside, other⟩
      rw [addColumnNames, if_neg (by simp [notHeld]),
        inductionHypothesis restNodup restFresh, List.zipIdx_cons,
        List.append_assoc, List.singleton_append]

/-- Each of different names is found at its position. -/
theorem lookup_zipIdx
    {names : List String}
    (nodup : names.Nodup)
    {i : Nat}
    (inRange : i < names.length)
    (start : Nat) :
    (names.zipIdx start).lookup names[i] = some (start + i) := by
  induction names generalizing i start with
  | nil =>
      cases inRange
  | cons name rest inductionHypothesis =>
      obtain ⟨fresh, restNodup⟩ := List.nodup_cons.mp nodup
      rw [List.zipIdx_cons, List.lookup_cons]
      cases i with
      | zero =>
          simp
      | succ i =>
          have inRest : i < rest.length := Nat.lt_of_succ_lt_succ inRange
          have different : (rest[i] == name) = false := by
            simp only [beq_eq_false_iff_ne]
            intro same
            exact fresh (same ▸ List.getElem_mem inRest)
          have found := inductionHypothesis restNodup inRest (start + 1)
          simp only [List.getElem_cons_succ, different]
          rw [found]
          simp [Nat.add_comm, Nat.add_left_comm]

/-- Row names are given places in order; of several rows with one
name the first has it. -/
theorem places_addRowNames
    {index : NameIndex}
    {position : Nat}
    (places : index.Places position)
    (cells : List Cell) :
    (addRowNames index position cells).Places (position + cells.length) := by
  induction cells generalizing index position with
  | nil =>
      exact places
  | cons cell rest inductionHypothesis =>
      have next :
          NameIndex.Places
            (if index.has cell.display then index
              else index ++ [(cell.display, position)]) (position + 1) := by
        split
        · exact places.mono (Nat.le_succ position)
        · rename_i notHeld
          exact places.append (by simpa [NameIndex.has_iff] using notHeld)
      have all := inductionHypothesis next
      unfold addRowNames
      simpa [Nat.add_comm, Nat.add_left_comm] using all

/-- Column names fit a width and the index that is stored beside them. -/
inductive ColumnsFit (width : Nat) : Option (List String) → Option NameIndex → Prop
  | unnamed : ColumnsFit width none none
  | named
      {names : List String}
      (length : names.length = width)
      (nodup : names.Nodup) :
      ColumnsFit width (some names) (some names.zipIdx)

/-- The parts of a sheet that are stored beside each other fit. -/
structure WellFormed (sheet : Sheet) : Prop where
  rectangular : ∀ row ∈ sheet.rows, row.length = sheet.width
  columns : ColumnsFit sheet.width sheet.columnNames sheet.columnIndex
  rows : ∀ index, sheet.rowIndex = some index → index.Places sheet.rowCount

end Sheet

end GridScript
