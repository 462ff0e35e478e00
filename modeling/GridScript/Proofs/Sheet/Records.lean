import GridScript.Proofs.Sheet.Join
import GridScript.Proofs.Sheet.Reachable
import GridScript.Sheet.Record

namespace GridScript

/-!
# Sheets and records

The sheet of some records has the union of their names as its columns, in the
order in which they first appear, and a row for each record. A sheet with named
columns becomes records and the same columns and cells again, if it has a row
that shows its columns, or no columns.
-/

/-- The value that a record has for a cell. -/
def Cell.held : Cell → Value
  | empty => .null
  | bool b => .bool b
  | number x => .float x
  | text s => .string s
  | error tag => .error tag

/-- The value can be stored in a cell. -/
def Storable (v : Value) : Prop :=
  ∃ cell, Cell.ofValue v = .ok cell

instance (v : Value) : Decidable (Storable v) :=
  match isCell : Cell.ofValue v with
  | .ok cell => isTrue ⟨cell, isCell⟩
  | .error _ => isFalse fun ⟨_, isOther⟩ => nomatch isCell.symm.trans isOther

/-- The stored form of a value; a value without one leaves the cell empty. -/
def Cell.stored (v : Value) : Cell :=
  match Cell.ofValue v with
  | .ok cell => cell
  | .error _ => .empty

theorem Cell.ofValue_held (cell : Cell) : Cell.ofValue cell.held = .ok cell := by
  cases cell <;> rfl

theorem Cell.stored_held (cell : Cell) : Cell.stored cell.held = cell := by
  rw [stored, ofValue_held]

theorem Storable.ofValue
    {v : Value}
    (storable : Storable v) :
    Cell.ofValue v = .ok (Cell.stored v) := by
  obtain ⟨cell, isCell⟩ := storable
  rw [Cell.stored, isCell]

/-- All values can be stored but arrays, sheets and the integers beyond
the range of floats. -/
theorem storable_iff
    {v : Value} :
    Storable v ↔
      match v with
      | .array _ | .sheet _ => False
      | .int i => ∃ x, Number.ofInt? i = some x
      | _ => True := by
  cases v with
  | int i =>
      unfold Storable Cell.ofValue
      cases isFloat : Number.ofInt? i <;>
        simp [Number.toFloat, isFloat, liftBreach, Except.map, breach]
  | array | sheet =>
      simp [Storable, Cell.ofValue, fail]
  | _ =>
      simp [Storable, Cell.ofValue]

/-! ## Names in the order in which they appear -/

/-- Each of some names once, in the order of their first places. -/
structure InOrderOfAppearance (names all : List String) : Prop where
  complete : ∀ name, name ∈ names ↔ name ∈ all
  ordered : names.Pairwise fun first second => all.idxOf first < all.idxOf second

theorem InOrderOfAppearance.nodup
    {names all : List String}
    (inOrder : InOrderOfAppearance names all) :
    names.Nodup := by
  refine inOrder.ordered.imp ?_
  rintro first _ before rfl
  exact Nat.lt_irrefl _ before

/-- Leaving out other items does not change which of two comes first. -/
theorem idxOf_lt_of_filter
    {passes : String → Bool}
    {all : List String}
    {first second : String}
    (before : (all.filter passes).idxOf first < (all.filter passes).idxOf second)
    (isFirst : passes first = true)
    (isSecond : passes second = true) :
    all.idxOf first < all.idxOf second := by
  induction all with
  | nil =>
      exact before
  | cons name rest inductionHypothesis =>
      rw [List.filter_cons] at before
      by_cases left : passes name = true
      · rw [if_pos left, List.idxOf_cons, List.idxOf_cons] at before
        rw [List.idxOf_cons, List.idxOf_cons]
        grind
      · rw [if_neg left] at before
        have apart {other : String} (stays : passes other = true) :
            (name == other) = false := by
          rw [beq_eq_false_iff_ne]
          rintro rfl
          exact left stays
        rw [List.idxOf_cons, List.idxOf_cons, apart isFirst, apart isSecond]
        exact Nat.succ_lt_succ (inductionHypothesis before)

theorem inOrderOfAppearance_eraseDups (all : List String) :
    InOrderOfAppearance all.eraseDups all := by
  refine ⟨fun _ => List.mem_eraseDups, ?_⟩
  induction length : all.length using Nat.strongRecOn generalizing all with
  | ind n inductionHypothesis =>
      subst length
      cases all with
      | nil =>
          exact .nil
      | cons name rest =>
          rw [List.eraseDups_cons]
          have shorter :
              (rest.filter fun other => !other == name).length <
                (name :: rest).length :=
            Nat.lt_succ_of_le (List.length_filter_le _ _)
          have other {later : String}
              (member :
                later ∈ (rest.filter fun other => !other == name).eraseDups) :
              (!later == name) = true :=
            (List.mem_filter.mp (List.mem_eraseDups.mp member)).2
          have first {later : String} (isOther : (!later == name) = true) :
              (name == later) = false := by
            have apart : later ≠ name := by simpa using isOther
            exact beq_eq_false_iff_ne.mpr apart.symm
          refine .cons (fun later member => ?_) ?_
          · rw [List.idxOf_cons, List.idxOf_cons, beq_self_eq_true,
              first (other member)]
            exact Nat.succ_pos _
          · refine (inductionHypothesis _ shorter _ rfl).imp_of_mem ?_
            intro a b isA isB before
            rw [List.idxOf_cons, List.idxOf_cons, first (other isA),
              first (other isB)]
            exact Nat.succ_lt_succ
              (idxOf_lt_of_filter before (other isA) (other isB))

/-- Different names are left as they are. -/
theorem eraseDups_of_nodup
    {names : List String}
    (nodup : names.Nodup) :
    names.eraseDups = names := by
  induction names with
  | nil =>
      rfl
  | cons name rest inductionHypothesis =>
      obtain ⟨fresh, restNodup⟩ := List.nodup_cons.mp nodup
      have kept : (rest.filter fun other => !other == name) = rest := by
        rw [List.filter_eq_self]
        intro other member
        have apart : other ≠ name := fun same => fresh (same ▸ member)
        simpa using apart
      rw [List.eraseDups_cons, kept, inductionHypothesis restNodup]

namespace Sheet

/-! ## Named rows -/

/-- The sheet with names for its columns and rows below them. -/
def ofNamed
    (name : String)
    (names : List String)
    (rows : List (List Cell)) : Sheet :=
  ⟨name, rows, names.length, some names, some names.zipIdx, none⟩

/-- A row of different texts becomes the names of the rows below it. -/
theorem ofRows_header
    {names : List String}
    {rows : List (List Cell)}
    (nodup : names.Nodup)
    (widths : ∀ row ∈ rows, row.length = names.length)
    (name : String) :
    (ofRows (names.map .text :: rows) name 0 >>= fun sheet =>
        Change.made sheet (nameColumnsByRow 0)) =
      .ok (ofNamed name names rows) := by
  have equal : ∀ row ∈ names.map Cell.text :: rows, row.length = names.length := by
    intro row member
    rcases List.mem_cons.mp member with rfl | inRows
    · exact List.length_map _
    · exact widths row inRows
  have texts :
      ((names.map Cell.text :: rows).getD 0 []).map Cell.display = names := by
    show (names.map Cell.text).map Cell.display = names
    rw [List.map_map]
    exact List.map_id names
  let whole : Sheet :=
    ⟨name, names.map Cell.text :: rows, names.length, none, none, none⟩
  have isWhole :
      ofCells (names.map Cell.text :: rows) name names.length = whole := by
    show (⟨name, _, (names.map Cell.text).length, none, none, none⟩ : Sheet) = _
    rw [List.length_map]
  have accepted : ofRows (names.map Cell.text :: rows) name 0 = .ok whole :=
    (ofRows_eq_ok equal name).trans (congrArg Except.ok isWhole)
  have isRow : whole.checkRow 0 = .ok 0 := by
    have place : position? 0 whole.rowCount = some 0 :=
      position?_of_lt (Nat.succ_pos _)
    rw [checkRow, place]
  have named := nameColumnsByRow_achieves isRow (by rw [texts]; exact nodup)
  rw [texts] at named
  exact (congrArg (· >>= _) accepted).trans named.made

/-! ## Sheets of records -/

/-- The cell of a record under a name: the stored form of its value, or
empty without one. -/
def storedAt (record : List (String × Value)) (name : String) : Cell :=
  match record.lookup name with
  | some v => Cell.stored v
  | none => .empty

/-- The values that a record has under its names can be stored. -/
def StorableRecord (record : List (String × Value)) : Prop :=
  ∀ name v, record.lookup name = some v → Storable v

theorem StorableRecord.of_entries
    {record : List (String × Value)}
    (storable : ∀ entry ∈ record, Storable entry.2) :
    StorableRecord record :=
  fun _ _ held => storable _ (mem_of_lookup held)

theorem cellsOf_record
    {record : List (String × Value)}
    (storable : StorableRecord record)
    (names : List String) :
    cellsOf (names.map fun name => (record.lookup name).getD .null) =
      .ok (names.map (storedAt record)) := by
  have each : ∀ name ∈ names,
      (Cell.ofValue ((record.lookup name).getD .null) : Outcome SheetError Cell) =
        .ok (storedAt record name) := by
    intro name _
    unfold storedAt
    cases held : record.lookup name with
    | none => rfl
    | some v => exact (storable name v held).ofValue
  rw [cellsOf, List.mapM_map]
  exact Except.mapM_of_forall_ok each

/-- The sheet of records has their names, and a row with the
cells of each of them. -/
theorem ofRecords_eq
    {records : List (List (String × Value))}
    (storable : ∀ record ∈ records, StorableRecord record)
    (name : String) :
    ofRecords records name =
      .ok (ofNamed name (recordNames records)
        (records.map fun record =>
          (recordNames records).map (storedAt record))) := by
  have header : cellsOf ((recordNames records).map Value.string) =
      .ok ((recordNames records).map Cell.text) := by
    rw [cellsOf, List.mapM_map]
    exact Except.mapM_of_forall_ok fun _ _ => rfl
  have below :
      (records.map fun record =>
          (recordNames records).map fun key =>
            (record.lookup key).getD .null).mapM cellsOf =
        .ok (records.map fun record =>
          (recordNames records).map (storedAt record)) := by
    rw [List.mapM_map]
    exact Except.mapM_of_forall_ok fun record member =>
      cellsOf_record (storable record member) _
  have grid :
      ((recordNames records).map Value.string :: records.map fun record =>
          (recordNames records).map fun key =>
            (record.lookup key).getD .null).mapM cellsOf =
        .ok ((recordNames records).map Cell.text ::
          records.map fun record =>
            (recordNames records).map (storedAt record)) := by
    rw [List.mapM_cons, header, below]
    rfl
  refine (congrArg (· >>= _) grid).trans
    (ofRows_header (inOrderOfAppearance_eraseDups _).nodup
      (fun row member => ?_) name)
  obtain ⟨_, -, rfl⟩ := List.mem_map.mp member
  exact List.length_map _

/-- Records of equally named rows have these names. -/
theorem recordNames_zip
    {names : List String}
    (nodup : names.Nodup)
    {rows : List (List Value)}
    (widths : ∀ row ∈ rows, row.length = names.length)
    (shown : rows ≠ [] ∨ names = []) :
    recordNames (rows.map names.zip) = names := by
  have keys : ∀ row ∈ rows, (names.zip row).map Prod.fst = names :=
    fun row member =>
      List.map_fst_zip (Nat.le_of_eq (widths row member).symm)
  have all : ((rows.map names.zip).flatMap fun record => record.map Prod.fst) =
      rows.flatMap fun _ => names := by
    rw [List.flatMap_map]
    exact List.flatMap_congr keys
  unfold recordNames
  rw [all]
  cases rows with
  | nil =>
      rw [shown.resolve_left (fun some => some rfl)]
      rfl
  | cons row rest =>
      have others : (rest.flatMap fun _ => names).removeAll names = [] := by
        simp [List.removeAll]
      rw [List.flatMap_cons, List.eraseDups_append, others, List.eraseDups_nil,
        List.append_nil, eraseDups_of_nodup nodup]

/-- The cells of a named row are found under their names. -/
theorem map_storedAt_zip
    {names : List String}
    (nodup : names.Nodup)
    {row : List Cell}
    (width : row.length = names.length) :
    names.map (storedAt (names.zip (row.map Cell.held))) = row := by
  refine List.ext_getElem (by rw [List.length_map, width]) fun i inNames inRow => ?_
  have inRange : i < names.length := by rwa [List.length_map] at inNames
  rw [List.getElem_map, storedAt, lookup_zip (by rw [List.length_map, width]),
    nodup.idxOf_getElem, List.getElem?_map, List.getElem?_eq_getElem inRow]
  exact Cell.stored_held _

/-- A name that a record has is a name of the records. -/
theorem mem_recordNames
    {records : List (List (String × Value))}
    {record : List (String × Value)}
    (member : record ∈ records)
    {key : String}
    {v : Value}
    (held : record.lookup key = some v) :
    key ∈ recordNames records := by
  rw [recordNames, List.mem_eraseDups, List.mem_flatMap]
  exact ⟨record, member, List.mem_map.mpr ⟨_, mem_of_lookup held, rfl⟩⟩

/-- Records make a sheet exactly if their values can be stored. -/
theorem exists_ofRecords_iff
    {records : List (List (String × Value))}
    {name : String} :
    (∃ sheet, ofRecords records name = .ok sheet) ↔
      ∀ record ∈ records, StorableRecord record := by
  refine ⟨?_, fun storable => ⟨_, ofRecords_eq storable name⟩⟩
  rintro ⟨sheet, made⟩ record member key v held
  obtain ⟨rows, stored, -⟩ := Except.bind_eq_ok made
  have below := Except.ok_of_mapM stored _
    (List.mem_cons_of_mem _ (List.mem_map.mpr ⟨record, member, rfl⟩))
  obtain ⟨cells, isRow⟩ := below
  have each := Except.ok_of_mapM isRow v
    (List.mem_map.mpr ⟨key, mem_recordNames member held, by rw [held]; rfl⟩)
  exact each

/-- A record of cells with the values that they hold. -/
def heldRecord (entry : List (String × Cell)) : List (String × Value) :=
  entry.map fun (key, cell) => (key, cell.held)

theorem heldRecord_zip (names : List String) (row : List Cell) :
    heldRecord (names.zip row) = names.zip (row.map Cell.held) := by
  rw [List.zip_map_right]
  rfl

/-- The records of named rows make the rows again. -/
theorem ofRecords_heldRecord
    {names : List String}
    (nodup : names.Nodup)
    {rows : List (List Cell)}
    (widths : ∀ row ∈ rows, row.length = names.length)
    (shown : rows ≠ [] ∨ names = [])
    (name : String) :
    ofRecords ((rows.map names.zip).map heldRecord) name =
      .ok (ofNamed name names rows) := by
  have isHeld : (rows.map names.zip).map heldRecord =
      (rows.map (List.map Cell.held)).map names.zip := by
    rw [List.map_map, List.map_map]
    exact List.map_congr_left fun row _ => heldRecord_zip names row
  have isNames :
      recordNames ((rows.map (List.map Cell.held)).map names.zip) = names := by
    refine recordNames_zip nodup (fun row member => ?_) ?_
    · obtain ⟨cells, isRow, rfl⟩ := List.mem_map.mp member
      rw [List.length_map, widths cells isRow]
    · rwa [ne_eq, List.map_eq_nil_iff]
  have isRows :
      (((rows.map (List.map Cell.held)).map names.zip).map fun record =>
        names.map (storedAt record)) = rows := by
    rw [List.map_map, List.map_map]
    refine (List.map_congr_left fun row member => ?_).trans (List.map_id _)
    exact map_storedAt_zip nodup (widths row member)
  have storable : ∀ record ∈ (rows.map (List.map Cell.held)).map names.zip,
      StorableRecord record := by
    intro record member key v held
    obtain ⟨values, isValues, rfl⟩ := List.mem_map.mp member
    obtain ⟨cells, -, rfl⟩ := List.mem_map.mp isValues
    obtain ⟨cell, -, rfl⟩ :=
      List.mem_map.mp (List.of_mem_zip (mem_of_lookup held)).2
    exact ⟨cell, cell.ofValue_held⟩
  have made := ofRecords_eq storable name
  rw [isNames, isRows] at made
  rw [isHeld, made]

/-- The records of a sheet of records have a cell for each of the names. -/
theorem records_ofNamed
    (name : String)
    (names : List String)
    (records : List (List (String × Value))) :
    (ofNamed name names
        (records.map fun record => names.map (storedAt record))).records =
      .ok (records.map fun record =>
        names.map fun key => (key, storedAt record key)) := by
  show Except.ok
    ((records.map fun record => names.map (storedAt record)).map names.zip) = _
  rw [List.map_map]
  refine congrArg Except.ok (List.map_congr_left fun record _ => ?_)
  exact List.map_prod_left_eq_zip.symm

/--
Sheets with named columns and records.

Such a sheet that has a row or no columns becomes records, and from these a
sheet with its column names and its cells again. Records whose values can be
stored become a sheet and from it records again, each of which has all names of
the records, once and in the order in which they first appear, with the stored
form of the value that it had there, or an empty cell.
-/
theorem records_roundTrip (name : String) :
    (∀ (sheet : Sheet) (names : List String),
      sheet.Consistent →
      sheet.columnNames = some names →
      (sheet.rows ≠ [] ∨ sheet.width = 0) →
      ∃ entries again,
        sheet.records = .ok entries ∧
          ofRecords (entries.map heldRecord) name = .ok again ∧
          again.columnNames = some names ∧
          again.rows = sheet.rows) ∧
      ∀ records : List (List (String × Value)),
        (∀ record ∈ records, StorableRecord record) →
        InOrderOfAppearance (recordNames records)
            (records.flatMap fun record => record.map Prod.fst) ∧
          ∃ sheet,
            ofRecords records name = .ok sheet ∧
              sheet.records =
                .ok (records.map fun record =>
                  (recordNames records).map fun key =>
                    (key, storedAt record key)) := by
  constructor
  · intro sheet names consistent named shown
    have length := consistent.columnCount names named
    have widths : ∀ row ∈ sheet.rows, row.length = names.length := fun row member =>
      (consistent.rectangular row member).trans length.symm
    rw [← length, List.length_eq_zero_iff] at shown
    have nodup := consistent.columnsDiffer names named
    refine ⟨sheet.rows.map names.zip, _, ?_,
      ofRecords_heldRecord nodup widths shown name, rfl, rfl⟩
    rw [Sheet.records, named]
  · intro records storable
    exact ⟨inOrderOfAppearance_eraseDups _, _, ofRecords_eq storable name,
      records_ofNamed name _ records⟩

/-- Records with different names, and one without any. -/
def visits : List (List (String × Value)) :=
  [[("who", .string "ada"), ("age", .int 36)], [],
    [("town", .string "rome"), ("who", .null)]]

/-- The sheet of two people comes back from its records, and the visits
get all their names. -/
theorem records_roundTrip_visits :
    (∃ entries again,
      peopleSheet.records = .ok entries ∧
        ofRecords (entries.map heldRecord) "people" = .ok again ∧
        again.columnNames = some ["name", "born"] ∧
        again.rows = peopleSheet.rows) ∧
      ∃ sheet,
        ofRecords visits "visits" = .ok sheet ∧
          sheet.records =
            .ok [[("who", .text "ada"), ("age", .number 36), ("town", .empty)],
              [("who", .empty), ("age", .empty), ("town", .empty)],
              [("who", .empty), ("age", .empty), ("town", .text "rome")]] := by
  have reachable : peopleSheet.Reachable := .ofRecords people "people" rfl
  have storable : ∀ record ∈ visits, ∀ entry ∈ record, Storable entry.2 := by
    decide +kernel
  obtain ⟨again, -⟩ := records_roundTrip "people"
  obtain ⟨-, taken⟩ := records_roundTrip "visits"
  obtain ⟨-, sheet, made, entries⟩ :=
    taken visits fun record member => .of_entries (storable record member)
  have names : recordNames visits = ["who", "age", "town"] := by
    decide
  rw [names] at entries
  exact ⟨again peopleSheet ["name", "born"] (consistent_of_reachable reachable) rfl
    (.inl (List.cons_ne_nil _ _)), sheet, made, entries⟩

end Sheet

end GridScript
