import GridScript.Proofs.Sheet.Reachable
import Mathlib

namespace GridScript.Sheet

/-!
# Joins

A join groups the rows of the right sheet by their keys, looks up the group of
every row of the left sheet and gives the further columns new names. Here it is
compared with the plain definition: for every row of the left sheet in order, go
through the rows of the right sheet in order and take those with the same key.
-/

open Float.Model (UnpackedFloat)

/-! ## Keys -/

/-- A float as a key: zero has no sign there, and the undefined float is no key. -/
def floatKey? : UnpackedFloat → Option UnpackedFloat
  | .notANumber => none
  | .zero _ => some (.zero .positive)
  | x => some x

/-- Floats compare as equal if they are the same key. -/
theorem compare_eq_some_eq_iff {x y : UnpackedFloat} :
    x.compare y = some .eq ↔
      ∃ key, floatKey? x = some key ∧ floatKey? y = some key := by
  cases x with
  | notANumber =>
      simp [UnpackedFloat.compare, floatKey?]
  | infinity s =>
      cases y with
      | infinity t =>
          cases s <;> cases t <;> simp [UnpackedFloat.compare, floatKey?, compare]
      | _ =>
          cases s <;> simp [UnpackedFloat.compare, floatKey?]
  | zero s =>
      cases y with
      | infinity t =>
          cases t <;> simp [UnpackedFloat.compare, floatKey?]
      | finite t =>
          cases t <;> simp [UnpackedFloat.compare, floatKey?]
      | _ =>
          simp [UnpackedFloat.compare, floatKey?]
  | finite s mantissa exponent =>
      cases y with
      | infinity t =>
          cases s <;> cases t <;> simp [UnpackedFloat.compare, floatKey?]
      | finite t otherMantissa otherExponent =>
          have sameParts :
              (compare exponent otherExponent).then
                  (compare mantissa otherMantissa) = .eq ↔
                mantissa = otherMantissa ∧ exponent = otherExponent := by
            rw [Ordering.then_eq_eq, Std.compare_eq_iff_eq, Std.compare_eq_iff_eq,
              and_comm]
          cases s <;> cases t <;>
            simp [UnpackedFloat.compare, floatKey?, sameParts,
              eq_comm (a := otherMantissa), eq_comm (a := otherExponent)]
      | _ =>
          cases s <;> simp [UnpackedFloat.compare, floatKey?]

/-- A cell as a key: its kind and its value. -/
inductive Key where
  | empty
  | bool (b : Bool)
  | number (x : UnpackedFloat)
  | text (s : String)
  | error (tag : ErrorTag)

/-- The key of a cell; a cell with the undefined float has none. -/
def key? : Cell → Option Key
  | .empty => some .empty
  | .bool b => some (.bool b)
  | .number x => (floatKey? x.toModel.unpack).map .number
  | .text s => some (.text s)
  | .error tag => some (.error tag)

/-- Cells match if they have the same key: the same kind and the same value. -/
theorem sameKey_iff {a b : Cell} :
    sameKey a b = true ↔ ∃ key, key? a = some key ∧ key? b = some key := by
  cases a <;> cases b
  case number.number x y =>
    show (x.toModel.unpack.compare y.toModel.unpack == some .eq) = true ↔ _
    rw [beq_iff_eq, compare_eq_some_eq_iff]
    simp only [key?, Option.map_eq_some_iff]
    constructor
    · rintro ⟨value, first, second⟩
      exact ⟨.number value, ⟨value, first, rfl⟩, value, second, rfl⟩
    · rintro ⟨_, ⟨value, first, rfl⟩, _, second, same⟩
      cases same
      exact ⟨_, first, second⟩
  case bool.bool | text.text | error.error =>
    simp only [sameKey, key?, beq_iff_eq, Option.some.injEq, exists_eq_left',
      Key.bool.injEq, Key.text.injEq, Key.error.injEq]
    exact eq_comm
  all_goals simp [sameKey, key?]

/-- Of two cells that match either both match a third one or neither does. -/
theorem sameKey_congr
    {a b : Cell}
    (matching : sameKey a b = true)
    (c : Cell) :
    sameKey a c = sameKey b c := by
  obtain ⟨key, first, second⟩ := sameKey_iff.mp matching
  rw [Bool.eq_iff_iff, sameKey_iff, sameKey_iff, first, second]

/-- Matching does not depend on the order of the cells. -/
theorem sameKey_comm (a b : Cell) : sameKey a b = sameKey b a := by
  rw [Bool.eq_iff_iff, sameKey_iff, sameKey_iff]
  simp only [and_comm]

/-! ## Groups of rows -/

namespace RowGroups

/-- A new row is found last under the keys that match its own. -/
theorem find_add
    (groups : RowGroups)
    (key : Cell)
    (row : List Cell)
    (sought : Cell) :
    (groups.add key row).find sought =
      groups.find sought ++ if sameKey key sought then [row] else [] := by
  induction groups with
  | nil =>
      cases matching : sameKey key sought <;> simp [add, find, matching]
  | cons group rest inductionHypothesis =>
      obtain ⟨held, rows⟩ := group
      by_cases joins : sameKey held key = true
      · have same := sameKey_congr joins sought
        cases matching : sameKey key sought <;>
          simp [add, find, joins, same, matching]
      · have added :
            add ((held, rows) :: rest) key row =
              (held, rows) :: add rest key row := by
          simp [add, joins]
        rw [added]
        by_cases matching : sameKey held sought = true
        · have apart : sameKey key sought = false := by
            rw [Bool.eq_false_iff]
            intro sameToo
            rw [sameKey_comm] at sameToo matching
            exact joins ((sameKey_congr matching key).symm.trans sameToo)
          simp [find, matching, apart]
        · simpa [find, matching] using inductionHypothesis

/-- Under a key are the rows whose cells match it, in their order. -/
theorem find_ofRows
    (j : Nat)
    (rows : List (List Cell))
    (key : Cell) :
    (ofRows j rows).find key =
      rows.filter fun row => sameKey (row.getD j .empty) key := by
  have further (start : RowGroups) :
      find (rows.foldl (fun groups row => groups.add (row.getD j .empty) row) start)
          key =
        start.find key ++ rows.filter fun row =>
          sameKey (row.getD j .empty) key := by
    induction rows generalizing start with
    | nil =>
        simp
    | cons row rest inductionHypothesis =>
        rw [List.foldl_cons, inductionHypothesis, find_add, List.append_assoc,
          List.filter_cons]
        cases matching : sameKey (row.getD j .empty) key <;> simp
  simpa [ofRows, find] using further []

end RowGroups

/-! ## Rows -/

/-- The items at the other positions are the items without the
one at the position. -/
theorem map_otherPositions
    {α : Type}
    (items : List α)
    (j : Nat)
    (default : α) :
    (otherPositions items.length j).map (fun k => items.getD k default) =
      items.eraseIdx j := by
  unfold otherPositions
  induction items generalizing j with
  | nil =>
      rfl
  | cons item rest inductionHypothesis =>
      rw [List.length_cons, List.range_succ_eq_map]
      cases j with
      | zero =>
          have whole :
              (List.range rest.length).map (fun k => rest.getD k default) =
                rest := by
            refine List.ext_getElem (by simp) fun k _ inRange => ?_
            simp [inRange]
          simpa [List.filter_map, Function.comp_def] using whole
      | succ j =>
          simpa [List.filter_map, Function.comp_def] using inductionHypothesis j

theorem length_otherPositions
    {width j : Nat}
    (inRange : j < width) :
    (otherPositions width j).length = width - 1 := by
  have length := congrArg List.length (map_otherPositions (List.range width) j 0)
  rw [List.length_map, List.length_range, List.length_eraseIdx_of_lt (by simpa)]
    at length
  simpa using length

section

variable (kind : JoinKind) (left right : Sheet) (i j : Nat)

/-- The rows of the right sheet whose cells at a position match a cell. -/
def partners (key : Cell) : List (List Cell) :=
  right.rows.filter fun row => sameKey key (row.getD j .empty)

/-- The rows that come from a row of the left sheet: it is followed by the other
cells of every row that matches it, or by empty cells if no row does and the
join keeps all left rows. -/
def joinedRows (row : List Cell) : List (List Cell) :=
  match kind, right.partners j (row.getD i .empty) with
  | .left, [] => [row ++ List.replicate (right.width - 1) .empty]
  | _, found => found.map fun other => row ++ other.eraseIdx j

/-- The join as a loop over the right sheet within a loop over the left one. -/
def nestedLoop : List (List Cell) :=
  left.rows.flatMap (joinedRows kind right i j)

end

theorem find_eq_partners
    (right : Sheet)
    (j : Nat)
    (key : Cell) :
    (RowGroups.ofRows j right.rows).find key = right.partners j key := by
  rw [RowGroups.find_ofRows, partners]
  exact List.filter_congr fun row _ => sameKey_comm ..

/-- What is found in the groups gives the rows of the nested loop. -/
theorem joinRow_eq
    {right : Sheet}
    (wellFormed : right.WellFormed)
    {j : Nat}
    (inRange : j < right.width)
    (kind : JoinKind)
    (i : Nat)
    (row : List Cell) :
    joinRow kind (otherPositions right.width j)
        ((RowGroups.ofRows j right.rows).find (row.getD i .empty)) row =
      joinedRows kind right i j row := by
  have followed :
      ((right.partners j (row.getD i .empty)).map fun other =>
          row ++ (otherPositions right.width j).map fun k => other.getD k .empty) =
        (right.partners j (row.getD i .empty)).map fun other =>
          row ++ other.eraseIdx j := by
    refine List.map_congr_left fun other member => ?_
    rw [← wellFormed.rectangular other (List.mem_filter.mp member).1,
      map_otherPositions]
  rw [joinRow, find_eq_partners, length_otherPositions inRange, followed]
  unfold joinedRows
  cases kind with
  | inner =>
      simp
  | left =>
      cases right.partners j (row.getD i .empty) with
      | nil =>
          simp
      | cons other rest =>
          simp

/-! ## Names -/

/-- A name with some suffixes. -/
def suffixed (name : String) : Nat → String
  | 0 => name
  | count + 1 => suffixed (name ++ "_right") count

theorem length_suffixed
    (name : String)
    (count : Nat) :
    (suffixed name count).length = name.length + 6 * count := by
  induction count generalizing name with
  | zero =>
      rfl
  | succ count inductionHypothesis =>
      have suffix : "_right".length = 6 :=
        rfl
      rw [suffixed, inductionHypothesis, String.length_append, suffix]
      omega

theorem suffixed_injective (name : String) :
    Function.Injective (suffixed name) := by
  intro first second same
  have length := congrArg String.length same
  rw [length_suffixed, length_suffixed] at length
  omega

/-- A name gets the fewest suffixes that make it differ from the given names. -/
structure Fresh (names : List String) (name : String) (count : Nat) : Prop where
  taken : ∀ fewer < count, suffixed name fewer ∈ names
  fresh : suffixed name count ∉ names

/-- Further names are made to differ from the given names and from each other,
one after another. -/
inductive Renames : (names further added : List String) → Prop where
  | nil {names : List String} : Renames names [] []
  | cons
      {names further added : List String}
      {name : String}
      {count : Nat}
      (fresh : Fresh names name count)
      (rest : Renames (names ++ [suffixed name count]) further added) :
      Renames names (name :: further) (suffixed name count :: added)

theorem Renames.length_eq
    {names further added : List String}
    (renames : Renames names further added) :
    added.length = further.length := by
  induction renames with
  | nil =>
      rfl
  | cons _ _ inductionHypothesis =>
      simpa using inductionHypothesis

/-- Names that differ still differ with the further ones. -/
theorem Renames.nodup
    {names further added : List String}
    (renames : Renames names further added)
    (distinct : names.Nodup) :
    (names ++ added).Nodup := by
  induction renames with
  | nil =>
      simpa using distinct
  | cons fresh _ inductionHypothesis =>
      rw [List.append_cons]
      refine inductionHypothesis (distinct.append (List.nodup_singleton _) ?_)
      simpa using fresh.fresh

/-- A name gets a certain number of suffixes. -/
theorem Fresh.unique
    {names : List String}
    {name : String}
    {first second : Nat}
    (isFirst : Fresh names name first)
    (isSecond : Fresh names name second) :
    first = second := by
  rcases Nat.lt_trichotomy first second with less | same | more
  · exact absurd (isSecond.taken first less) isFirst.fresh
  · exact same
  · exact absurd (isFirst.taken second more) isSecond.fresh

/-- What further names become is determined by the names. -/
theorem Renames.unique
    {names further first second : List String}
    (isFirst : Renames names further first)
    (isSecond : Renames names further second) :
    first = second := by
  induction isFirst generalizing second with
  | nil =>
      cases isSecond
      rfl
  | cons fresh _ inductionHypothesis =>
      cases isSecond with
      | cons otherFresh rest =>
          cases fresh.unique otherFresh
          rw [inductionHypothesis rest]

/-- The suffixes stop at a name that is not given, or when the fuel is spent. -/
theorem freshName_eq
    (names : List String)
    (fuel : Nat)
    (name : String) :
    ∃ count,
      freshName names fuel name = suffixed name count ∧
      (∀ fewer < count, suffixed name fewer ∈ names) ∧
      (suffixed name count ∉ names ∨ count = fuel) := by
  induction fuel generalizing name with
  | zero =>
      exact ⟨0, rfl, by simp, .inr rfl⟩
  | succ fuel inductionHypothesis =>
      by_cases given : name ∈ names
      · obtain ⟨count, same, taken, stops⟩ := inductionHypothesis (name ++ "_right")
        refine ⟨count + 1, ?_, fun fewer less => ?_, ?_⟩
        · simpa [freshName, given, suffixed] using same
        · cases fewer with
          | zero =>
              exact given
          | succ fewer =>
              exact taken fewer (Nat.lt_of_succ_lt_succ less)
        · exact stops.imp id (congrArg Nat.succ)
      · exact ⟨0, by simp [freshName, given, suffixed], by simp, .inl given⟩

/-- Some names cannot be as many as one name with more and more suffixes. -/
theorem fresh_freshName
    (names : List String)
    (name : String) :
    ∃ count,
      freshName names (names.length + 1) name = suffixed name count ∧
        Fresh names name count := by
  obtain ⟨count, same, taken, stops⟩ := freshName_eq names (names.length + 1) name
  refine ⟨count, same, taken, stops.resolve_right fun spent => ?_⟩
  subst spent
  have distinct : ((List.range (names.length + 1)).map (suffixed name)).Nodup :=
    List.nodup_range.map (suffixed_injective name)
  have held : (List.range (names.length + 1)).map (suffixed name) ⊆ names := by
    intro longer member
    obtain ⟨fewer, inRange, rfl⟩ := List.mem_map.mp member
    exact taken fewer (List.mem_range.mp inRange)
  have few := (List.subperm_of_subset distinct held).length_le
  rw [List.length_map, List.length_range] at few
  omega

theorem addNames_renames
    (names further : List String) :
    ∃ added, addNames names further = names ++ added ∧
      Renames names further added := by
  induction further generalizing names with
  | nil =>
      exact ⟨[], (List.append_nil names).symm, .nil⟩
  | cons name rest inductionHypothesis =>
      obtain ⟨count, same, fresh⟩ := fresh_freshName names name
      obtain ⟨added, whole, renames⟩ :=
        inductionHypothesis (names ++ [suffixed name count])
      refine ⟨suffixed name count :: added, ?_, .cons fresh renames⟩
      rw [addNames, same, whole, List.append_assoc, List.singleton_append]

/-! ## The join -/

/-- The rows of the nested loop are all one column short of both widths together. -/
theorem length_of_mem_nestedLoop
    {left right : Sheet}
    (leftWellFormed : left.WellFormed)
    (rightWellFormed : right.WellFormed)
    {kind : JoinKind}
    {i j : Nat}
    (inRange : j < right.width)
    {row : List Cell}
    (member : row ∈ nestedLoop kind left right i j) :
    row.length = left.width + (right.width - 1) := by
  obtain ⟨source, held, member⟩ := List.mem_flatMap.mp member
  have length := leftWellFormed.rectangular source held
  unfold joinedRows at member
  split at member
  · cases List.mem_singleton.mp member
    simp [length]
  · obtain ⟨other, found, rfl⟩ := List.mem_map.mp member
    have otherLength :=
      rightWellFormed.rectangular other (List.mem_filter.mp found).1
    rw [List.length_append, length,
      List.length_eraseIdx_of_lt (otherLength ▸ inRange), otherLength]

/-- Rows of one length are accepted. -/
theorem ofRows_eq_ok
    {rows : List (List Cell)}
    {columns : Nat}
    (equal : ∀ row ∈ rows, row.length = columns)
    (name : String) :
    ofRows rows name columns = .ok (ofCells rows name columns) := by
  obtain ⟨wellFormed, _⟩ := WellFormed.ofCells equal name
  have noneDiffers :
      (rows.find? fun row => row.length != (ofCells rows name columns).width) =
        none := by
    rw [List.find?_eq_none]
    intro row member
    simpa using wellFormed.rectangular row member
  simp only [ofRows, noneDiffers]

/-- A column name is found at its position. -/
theorem WellFormed.lookup_columnIndex
    {sheet : Sheet}
    (wellFormed : sheet.WellFormed)
    {names : List String}
    (held : sheet.columnNames = some names)
    {name : String}
    (member : name ∈ names) :
    (sheet.columnIndex.getD []).lookup name = some (names.idxOf name) := by
  obtain ⟨_, nodup, stored⟩ := wellFormed.columnNames_eq held
  have inRange := List.idxOf_lt_length_of_mem member
  have found := lookup_zipIdx nodup inRange 0
  rw [List.getElem_idxOf inRange, Nat.zero_add] at found
  rw [stored, Option.getD_some, found]

/--
A join of two sheets whose columns have names never fails. Its rows are those of
the nested loop, and its columns are the left ones followed by the right ones
without the key, renamed where necessary.
-/
theorem join_eq_nestedLoop
    {left right : Sheet}
    (leftReachable : left.Reachable)
    (rightReachable : right.Reachable)
    {leftNames rightNames : List String}
    (leftNamed : left.columnNames = some leftNames)
    (rightNamed : right.columnNames = some rightNames)
    (leftOn rightOn : String)
    (leftHeld : leftOn ∈ leftNames)
    (rightHeld : rightKey leftOn rightOn ∈ rightNames)
    (kind : JoinKind) :
    ∃ result added,
      left.join right leftOn rightOn kind = .ok result ∧
      result.rows =
        nestedLoop kind left right (leftNames.idxOf leftOn)
          (rightNames.idxOf (rightKey leftOn rightOn)) ∧
      result.columnNames = some (leftNames ++ added) ∧
      Renames leftNames
        (rightNames.eraseIdx (rightNames.idxOf (rightKey leftOn rightOn))) added ∧
      (leftNames ++ added).Nodup := by
  have leftWellFormed := leftReachable.wellFormed
  have rightWellFormed := rightReachable.wellFormed
  obtain ⟨leftLength, leftNodup, _⟩ := leftWellFormed.columnNames_eq leftNamed
  obtain ⟨rightLength, _, _⟩ := rightWellFormed.columnNames_eq rightNamed
  have leftFound := leftWellFormed.lookup_columnIndex leftNamed leftHeld
  have rightFound := rightWellFormed.lookup_columnIndex rightNamed rightHeld
  have inRange := rightWellFormed.lookup_column_lt rightFound
  generalize leftNames.idxOf leftOn = i at *
  generalize rightNames.idxOf (rightKey leftOn rightOn) = j at *
  obtain ⟨added, whole, renames⟩ :=
    addNames_renames leftNames (rightNames.eraseIdx j)
  have nodup := renames.nodup leftNodup
  have length : (leftNames ++ added).length = left.width + (right.width - 1) := by
    rw [List.length_append, renames.length_eq,
      List.length_eraseIdx_of_lt (rightLength ▸ inRange), leftLength, rightLength]
  have equal : ∀ row ∈ nestedLoop kind left right i j,
      row.length = (leftNames ++ added).length := by
    intro row member
    rw [length,
      length_of_mem_nestedLoop leftWellFormed rightWellFormed inRange member]
  have named :=
    withColumnNames_of_nodup nodup (WellFormed.ofCells equal left.name).2.symm
  have rows :
      (left.rows.flatMap fun row =>
        joinRow kind (otherPositions right.width j)
          ((RowGroups.ofRows j right.rows).find (row.getD i .empty)) row) =
        nestedLoop kind left right i j := by
    simp only [joinRow_eq rightWellFormed inRange]
    rfl
  have names :
      addNames leftNames
          ((otherPositions right.width j).map fun k => rightNames.getD k "") =
        leftNames ++ added := by
    rw [← rightLength, map_otherPositions, whole]
  let joined :=
    ofCells (nestedLoop kind left right i j) left.name (leftNames ++ added).length
  refine ⟨storeColumns (leftNames ++ added) (leftNames ++ added).zipIdx joined,
    added, ?_, rfl, rfl, renames, nodup⟩
  unfold join
  simp only [leftNamed, rightNamed, leftFound, rightFound, rows, names]
  rw [ofRows_eq_ok equal]
  exact named

/-- Orders, two of them by one customer. -/
def orderRecords : List (List (String × Value)) :=
  [[("customer", .string "c1"), ("name", .string "pen"),
      ("name_right", .string "blue")],
    [("customer", .string "c2"), ("name", .string "ink"),
      ("name_right", .string "red")],
    [("customer", .string "c1"), ("name", .string "nib"),
      ("name_right", .string "gold")]]

/-- Customers, one of whom has two names. -/
def customerRecords : List (List (String × Value)) :=
  [[("name", .string "ada"), ("id", .string "c1")],
    [("name", .string "emmy"), ("id", .string "c3")],
    [("name", .string "augusta"), ("id", .string "c1")]]

/-- The sheet of the orders. -/
def orders : Sheet :=
  { name := "orders"
    rows :=
      [[.text "c1", .text "pen", .text "blue"],
        [.text "c2", .text "ink", .text "red"],
        [.text "c1", .text "nib", .text "gold"]]
    width := 3
    columnNames := some ["customer", "name", "name_right"]
    columnIndex := some [("customer", 0), ("name", 1), ("name_right", 2)]
    rowIndex := none }

/-- The sheet of the customers. -/
def customers : Sheet :=
  { name := "customers"
    rows :=
    [[.text "ada", .text "c1"], [.text "emmy", .text "c3"],
      [.text "augusta", .text "c1"]]
    width := 2
    columnNames := some ["name", "id"]
    columnIndex := some [("name", 0), ("id", 1)]
    rowIndex := none }

/-- Rows match in the order of both sheets, and a name that is taken twice
gets two suffixes. -/
theorem join_eq_nestedLoop_orders :
    ofRecords orderRecords "orders" = .ok orders ∧
      ofRecords customerRecords "customers" = .ok customers ∧
      ∃ result,
        orders.join customers "customer" "id" .left = .ok result ∧
        result.rows =
          [[.text "c1", .text "pen", .text "blue", .text "ada"],
            [.text "c1", .text "pen", .text "blue", .text "augusta"],
            [.text "c2", .text "ink", .text "red", .empty],
            [.text "c1", .text "nib", .text "gold", .text "ada"],
            [.text "c1", .text "nib", .text "gold", .text "augusta"]] ∧
        result.columnNames =
          some ["customer", "name", "name_right", "name_right_right"] ∧
        Renames ["customer", "name", "name_right"] ["name"]
          ["name_right_right"] := by
  have ordersMade : ofRecords orderRecords "orders" = .ok orders := rfl
  have customersMade : ofRecords customerRecords "customers" = .ok customers := rfl
  obtain ⟨result, added, joined, rows, names, renames, _⟩ :=
    join_eq_nestedLoop (.ofRecords orderRecords "orders" ordersMade)
      (.ofRecords customerRecords "customers" customersMade) rfl rfl "customer" "id"
      (by decide) (by decide) .left
  have twice : Fresh ["customer", "name", "name_right"] "name" 2 :=
    ⟨by decide, by decide⟩
  cases renames.unique (.cons twice .nil)
  exact ⟨ordersMade, customersMade, result, joined, rows, names, renames⟩

end GridScript.Sheet
