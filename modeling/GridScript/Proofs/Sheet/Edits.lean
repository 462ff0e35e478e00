import GridScript.Proofs.Commits
import GridScript.Proofs.Sheet.WellFormed

namespace GridScript.Sheet

/-!
# What edits make of a sheet

Every edit of a sheet either fails and changes nothing, or makes a whole change.
Each lemma here says what the change is.
-/

/-- A position that has been checked lies within its extent. -/
theorem position?_lt
    {i : Int}
    {extent k : Nat}
    (found : position? i extent = some k) :
    k < extent := by
  unfold position? at found
  split at found
  · rename_i bounds
    cases found
    simp only [Bool.and_eq_true, decide_eq_true_eq] at bounds
    omega
  · cases found

theorem position?_of_lt
    {k extent : Nat}
    (inRange : k < extent) :
    position? k extent = some k := by
  simp [position?, inRange]

theorem position?_of_not_lt
    {k extent : Nat}
    (beyond : ¬k < extent) :
    position? k extent = none := by
  simp [position?, beyond]

theorem checkRow_lt
    {sheet : Sheet}
    {row : Int}
    {i : Nat}
    (checked : sheet.checkRow row = .ok i) :
    i < sheet.rowCount := by
  unfold checkRow at checked
  split at checked
  · rename_i found
    cases checked
    exact position?_lt found
  · cases checked

theorem checkColumn_lt
    {sheet : Sheet}
    {column : Int}
    {j : Nat}
    (checked : sheet.checkColumn column = .ok j) :
    j < sheet.width := by
  unfold checkColumn at checked
  split at checked
  · rename_i found
    cases checked
    exact position?_lt found
  · cases checked

/-- A cell is stored in the place of another. -/
theorem set_commits
    (row column : Int)
    (v : Value)
    (sheet : Sheet) :
    Commits (set row column v) sheet fun _ after =>
      ∃ i j cell, after = sheet.withCell i j cell := by
  refine (Commits.ask _ sheet).read fun place _ => ?_
  refine (Commits.lift _ sheet).read fun cell _ => ?_
  exact .achieves (.modify ⟨place.1, place.2, cell, rfl⟩)

theorem setAddress_commits
    (address : String)
    (v : Value)
    (sheet : Sheet) :
    Commits (setAddress address v) sheet fun _ after =>
      ∃ i j cell, after = sheet.withCell i j cell :=
  (Commits.lift _ sheet).read fun place _ => set_commits place.1 place.2 v sheet

theorem setByName_commits
    (row : Int)
    (name : String)
    (v : Value)
    (sheet : Sheet) :
    Commits (setByName row name v) sheet fun _ after =>
      ∃ i j cell, after = sheet.withCell i j cell :=
  (Commits.ask _ sheet).read fun j _ => set_commits row j v sheet

/-- A row becomes the column names. -/
theorem nameColumnsByRow_commits
    (index : Int)
    (sheet : Sheet) :
    Commits (nameColumnsByRow index) sheet fun _ after =>
      ∃ i positions,
        i < sheet.rowCount ∧
        indexColumns ((sheet.rows.getD i []).map Cell.display) = .ok positions ∧
        after =
          storeColumns ((sheet.rows.getD i []).map Cell.display) positions
            (sheet.withRows (sheet.rows.eraseIdx i)) := by
  refine (Commits.ask _ sheet).read fun i checked => ?_
  refine (Commits.look _ sheet).read fun header isHeader => ?_
  refine (Commits.lift _ sheet).read fun positions indexed => ?_
  subst isHeader
  refine .achieves (.modify_bind (.modify_bind ?_))
  exact .modify ⟨i, positions, checkRow_lt checked, indexed, rfl⟩

/-- Given names become the column names. -/
theorem setColumnNames_commits
    (names : List String)
    (sheet : Sheet) :
    Commits (setColumnNames names) sheet fun _ after =>
      ∃ positions,
        names.length = sheet.width ∧ indexColumns names = .ok positions ∧
        after = storeColumns names positions sheet := by
  refine (Commits.look _ sheet).read fun width isWidth => ?_
  refine (Commits.require _ _ sheet).read fun _ fits => ?_
  refine (Commits.lift _ sheet).read fun positions indexed => ?_
  exact .achieves (.modify ⟨positions, isWidth ▸ fits, indexed, rfl⟩)

/-- Different names have their own positions. -/
theorem indexColumns_of_nodup
    {names : List String}
    (nodup : names.Nodup) :
    indexColumns names = .ok names.zipIdx :=
  addColumnNames_of_nodup nodup (by simp [NameIndex.names]) 0

/-- Different names, as many as there are columns, can be given to the columns. -/
theorem withColumnNames_of_nodup
    {sheet : Sheet}
    {names : List String}
    (nodup : names.Nodup)
    (fits : names.length = sheet.width) :
    sheet.withColumnNames names = .ok (storeColumns names names.zipIdx sheet) := by
  have named :
      Achieves (setColumnNames names) sheet fun _ after =>
        after = storeColumns names names.zipIdx sheet :=
    .look_bind
      (.require_bind fits (.lift_bind (indexColumns_of_nodup nodup) (.modify rfl)))
  exact named.made

/-- A row of different texts can name the columns. -/
theorem nameColumnsByRow_achieves
    {sheet : Sheet}
    {index : Int}
    {i : Nat}
    (checked : sheet.checkRow index = .ok i)
    (nodup : ((sheet.rows.getD i []).map Cell.display).Nodup) :
    Achieves (nameColumnsByRow index) sheet fun _ after =>
      after =
        storeColumns ((sheet.rows.getD i []).map Cell.display)
          ((sheet.rows.getD i []).map Cell.display).zipIdx
          (sheet.withRows (sheet.rows.eraseIdx i)) :=
  .ask_bind checked (.look_bind (.lift_bind (indexColumns_of_nodup nodup)
    (.modify_bind (.modify_bind (.modify rfl)))))

/-- The cells of a column become the row names. -/
theorem nameRowsByColumn_commits
    (index : Int)
    (sheet : Sheet) :
    Commits (nameRowsByColumn index) sheet fun _ after =>
      ∃ cells,
        cells.length = sheet.rowCount ∧
        after = { sheet with rowIndex := some (addRowNames [] 0 cells) } := by
  refine (Commits.ask _ sheet).read fun cells read => ?_
  refine .achieves (.modify ⟨cells, ?_, rfl⟩)
  unfold column at read
  obtain ⟨j, _, read⟩ := Except.bind_eq_ok read
  cases read
  simp [columnAt, rowCount]

/-- A new row fits the sheet, which gets its width from the row if it had none. -/
theorem newRow_commits
    (values : List Value)
    (sheet : Sheet) :
    Commits (newRow values) sheet fun cells after =>
      after = { sheet with width := cells.length } ∧
        (sheet.isUnsized = true ∨ cells.length = sheet.width) := by
  refine (Commits.lift _ sheet).read fun cells _ => ?_
  have fits :
      Commits (fitRow cells.length) sheet fun _ after =>
        after = { sheet with width := cells.length } ∧
          (sheet.isUnsized = true ∨ cells.length = sheet.width) := by
    refine (Commits.look _ sheet).read fun unsized isUnsized => ?_
    refine (Commits.look _ sheet).read fun width isWidth => ?_
    subst isUnsized isWidth
    split
    · rename_i unsized
      exact .achieves (.modify ⟨rfl, .inl unsized⟩)
    · refine (Commits.require _ _ sheet).mono fun _ after fact => ?_
      obtain ⟨sameWidth, rfl⟩ := fact
      exact ⟨by rw [sameWidth], .inr sameWidth⟩
  exact fits.write fun _ between fact => .pure fact

/-- A row is added at the end. -/
theorem appendRow_commits
    (values : List Value)
    (sheet : Sheet) :
    Commits (appendRow values) sheet fun _ after =>
      ∃ cells : List Cell,
        (sheet.isUnsized = true ∨ cells.length = sheet.width) ∧
        after =
          { sheet with rows := sheet.rows ++ [cells], width := cells.length } := by
  refine (newRow_commits values sheet).write fun cells between fact => ?_
  obtain ⟨rfl, fits⟩ := fact
  exact .modify ⟨cells, fits, rfl⟩

/-- A row is added before another one. -/
theorem insertRow_commits
    (index : Int)
    (values : List Value)
    (sheet : Sheet) :
    Commits (insertRow index values) sheet fun _ after =>
      ∃ cells : List Cell,
        (sheet.isUnsized = true ∨ cells.length = sheet.width) ∧
        after =
          { sheet.withRows (sheet.rows.insertIdx index.toNat cells) with
            width := cells.length } := by
  refine (Commits.look _ sheet).read fun count _ => ?_
  refine (Commits.require _ _ sheet).read fun _ _ => ?_
  refine (newRow_commits values sheet).write fun cells between fact => ?_
  obtain ⟨rfl, fits⟩ := fact
  exact .modify_bind (.modify ⟨cells, fits, rfl⟩)

/-- A row is taken away. -/
theorem deleteRow_commits
    (index : Int)
    (sheet : Sheet) :
    Commits (deleteRow index) sheet fun _ after =>
      ∃ i, after = sheet.withRows (sheet.rows.eraseIdx i) := by
  refine (Commits.ask _ sheet).read fun i _ => ?_
  exact .achieves (.modify_bind (.look_bind (.modify_bind (.pure ⟨i, rfl⟩))))

/-- A new column gets a new name if the columns have names. -/
theorem nameNewColumn_commits
    (name : Option String)
    (sheet : Sheet) :
    Commits (nameNewColumn name) sheet fun _ after =>
      (sheet.columnNames = none ∧ after = sheet) ∨
        ∃ names new,
          sheet.columnNames = some names ∧
          (sheet.columnIndex.getD []).has new = false ∧
          after =
            storeColumns (names ++ [new])
              (sheet.columnIndex.getD [] ++ [(new, sheet.width)]) sheet := by
  refine (Commits.look _ sheet).read fun columnNames isHeld => ?_
  cases columnNames with
  | none =>
      exact .achieves (.pure (.inl ⟨isHeld.symm, rfl⟩))
  | some names =>
      refine (Commits.look _ sheet).read fun width isWidth => ?_
      refine (Commits.look _ sheet).read fun index isIndex => ?_
      subst isWidth isIndex
      refine (Commits.require _ _ sheet).read fun _ fresh => ?_
      exact .achieves (.modify (.inr ⟨names, _, isHeld.symm, fresh, rfl⟩))

/-- A column is added at the right, after it has got its name. -/
theorem appendColumn_commits
    (values : List Value)
    (name : Option String)
    (sheet : Sheet) :
    Commits (appendColumn values name) sheet fun _ after =>
      ∃ (cells : List Cell) (named : Sheet),
        cells.length = sheet.rowCount ∧
        ((sheet.columnNames = none ∧ named = sheet) ∨
          ∃ names new,
            sheet.columnNames = some names ∧
            (sheet.columnIndex.getD []).has new = false ∧
            named =
              storeColumns (names ++ [new])
                (sheet.columnIndex.getD [] ++ [(new, sheet.width)]) sheet) ∧
        after =
          { named with
            rows := List.zipWith (fun row cell => row ++ [cell]) named.rows cells
            width := named.width + 1 } := by
  refine (Commits.lift _ sheet).read fun cells _ => ?_
  refine (Commits.look _ sheet).read fun count isCount => ?_
  refine (Commits.require _ _ sheet).read fun _ fits => ?_
  refine (nameNewColumn_commits name sheet).write fun _ named fact => ?_
  exact .modify ⟨cells, named, isCount ▸ fits, fact, rfl⟩

/-- A column is taken away together with its name. -/
theorem deleteColumn_commits
    (index : Int)
    (sheet : Sheet) :
    Commits (deleteColumn index) sheet fun _ after =>
      ∃ j,
        j < sheet.width ∧
        after =
          dropColumnName
            { sheet with
              rows := sheet.rows.map fun row => row.eraseIdx j
              width := sheet.width - 1 } j := by
  refine (Commits.ask _ sheet).read fun j checked => ?_
  exact .achieves (.look_bind (.modify_bind (.modify_bind (.pure
    ⟨j, checkColumn_lt checked, rfl⟩))))

/-- Some rows are taken away, or none. -/
theorem removeEmptyRows_commits (sheet : Sheet) :
    Commits removeEmptyRows sheet fun _ after =>
      after = sheet ∨
        after =
          sheet.withRows (sheet.rows.filter fun row => !row.all Cell.isEmpty) := by
  refine .achieves (.look_bind (.look_bind ?_))
  unfold keepRows
  split
  · exact Achieves.bind (.pure rfl) fun _ between same => .pure (.inl same)
  · exact Achieves.bind (.modify_bind (.modify rfl)) fun _ between same =>
      .pure (.inr same)

/-- Rows that are stacked one by one are stacked together. -/
theorem stackRows_forM
    (align : List Cell → List Cell)
    (rows : List (List Cell))
    (sheet : Sheet) :
    Achieves (rows.forM fun row => stackRows [align row]) sheet fun _ after =>
      after = { sheet with rows := sheet.rows ++ rows.map align } := by
  refine Achieves.forM
    (fun earlier between =>
      between = { sheet with rows := sheet.rows ++ earlier.map align })
    ?_ fun earlier row later between _ reached => ?_
  · rw [List.map_nil, List.append_nil]
  · subst reached
    exact .modify (by simp)

/-- Rows are stacked by name after every column has been found. -/
theorem stackByName_commits
    (names otherNames : List String)
    (rows : List (List Cell))
    (sheet : Sheet) :
    Commits (stackByName names otherNames rows) sheet fun _ after =>
      (∀ name ∈ otherNames, ∃ j, sheet.columnPosition name = .ok j) ∧
        after = { sheet with
          rows := sheet.rows ++ rows.map (alignRow names otherNames) } := by
  have checks :
      Commits
        (otherNames.forM fun name => do
          let _ ← Change.ask (·.columnPosition name))
        sheet fun _ after =>
          (∀ name ∈ otherNames, ∃ j, sheet.columnPosition name = .ok j) ∧
            after = sheet :=
    Commits.forM_read otherNames fun name _ =>
      (Commits.ask _ sheet).read fun j found => .achieves (.pure ⟨⟨j, found⟩, rfl⟩)
  refine checks.read fun _ found => .achieves ?_
  exact (stackRows_forM _ rows sheet).mono fun _ after shape => ⟨found, shape⟩

theorem stackByName_achieves
    {names otherNames : List String}
    {rows : List (List Cell)}
    {sheet : Sheet}
    (found : ∀ name ∈ otherNames, ∃ j, sheet.columnPosition name = .ok j) :
    Achieves (stackByName names otherNames rows) sheet fun _ after =>
      after = { sheet with
        rows := sheet.rows ++ rows.map (alignRow names otherNames) } := by
  have checks :
      Achieves
        (otherNames.forM fun name => do
          let _ ← Change.ask (·.columnPosition name))
        sheet fun _ after => after = sheet := by
    refine Achieves.forM (fun _ between => between = sheet) rfl
      fun earlier name later between shape reached => ?_
    obtain ⟨j, position⟩ := found name (shape ▸ by simp)
    subst reached
    exact .ask_bind position (.pure rfl)
  refine checks.bind fun _ between same => ?_
  subst same
  exact stackRows_forM _ rows _

/-- Rows are stacked by position if they fit a width that is settled. -/
theorem stackByPosition_commits
    (width : Nat)
    (rows : List (List Cell))
    (sheet : Sheet) :
    Commits (stackByPosition width rows) sheet fun _ after =>
      (sheet.isSized = true → width = sheet.width) ∧
        after = { sheet with rows := sheet.rows ++ rows, width := width } := by
  refine (Commits.look _ sheet).read fun held isHeld => ?_
  refine (Commits.look _ sheet).read fun sized isSized => ?_
  subst isHeld isSized
  refine (Commits.require _ _ sheet).read fun _ fits => ?_
  exact .achieves (.modify_bind (.modify ⟨fits, rfl⟩))

theorem stackByPosition_achieves
    {width : Nat}
    {sheet : Sheet}
    (fits : sheet.isSized = true → width = sheet.width)
    (rows : List (List Cell)) :
    Achieves (stackByPosition width rows) sheet fun _ after =>
      after = { sheet with rows := sheet.rows ++ rows, width := width } :=
  .look_bind (.look_bind (.require_bind fits (.modify_bind (.modify rfl))))

/-- A sheet after the rows of another one are stacked below: aligned by
name if both have column names, and otherwise in a width that is the
same if it is settled. -/
inductive Stacks (sheet other : Sheet) : Sheet → Prop where
  | byName
      {names otherNames : List String}
      (named : sheet.columnNames = some names)
      (otherNamed : other.columnNames = some otherNames)
      (found : ∀ name ∈ otherNames, ∃ j, sheet.columnPosition name = .ok j) :
      Stacks sheet other
        (sheet.withRows (sheet.rows ++ other.rows.map (alignRow names otherNames)))
  | byPosition
      (unnamed : sheet.columnNames = none ∨ other.columnNames = none)
      (fits : sheet.isSized = true → other.width = sheet.width) :
      Stacks sheet other { sheet.withRows (sheet.rows ++ other.rows) with
        width := other.width }

/-- The rows of a sheet are stacked below those of another one. -/
theorem append_commits
    (other sheet : Sheet) :
    Commits (append other) sheet fun _ after => Stacks sheet other after := by
  refine (Commits.look _ sheet).read fun columnNames isHeld => ?_
  subst isHeld
  split
  · rename_i names otherNames named otherNamed
    refine (stackByName_commits names otherNames other.rows sheet).write
      fun _ between fact => ?_
    obtain ⟨found, rfl⟩ := fact
    exact .modify (.byName named otherNamed found)
  · rename_i notBoth
    have unnamed : sheet.columnNames = none ∨ other.columnNames = none := by
      cases named : sheet.columnNames with
      | none =>
          exact .inl rfl
      | some names =>
          exact .inr (Option.eq_none_iff_forall_ne_some.mpr (notBoth names · named))
    refine (stackByPosition_commits other.width other.rows sheet).write
      fun _ between fact => ?_
    obtain ⟨fits, rfl⟩ := fact
    exact .modify (.byPosition unnamed fits)

/-- Only what cannot be stacked is refused. -/
theorem append_achieves
    {sheet other result : Sheet}
    (stacked : Stacks sheet other result) :
    Achieves (append other) sheet fun _ after => after = result := by
  refine .look_bind ?_
  cases stacked with
  | byName named otherNamed found =>
      simp only [named, otherNamed]
      refine (stackByName_achieves found).bind fun _ between shape => ?_
      subst shape
      exact .modify rfl
  | byPosition unnamed fits =>
      have stacked :
          Achieves
            (do
              stackByPosition other.width other.rows
              forgetRowNames)
            sheet fun _ after =>
              after =
                { sheet.withRows (sheet.rows ++ other.rows) with
                  width := other.width } := by
        refine (stackByPosition_achieves fits other.rows).bind
          fun _ between shape => ?_
        subst shape
        exact .modify rfl
      rcases unnamed with unnamed | unnamed
      · simpa only [unnamed] using stacked
      · cases named : sheet.columnNames <;> simpa only [unnamed] using stacked

end GridScript.Sheet
