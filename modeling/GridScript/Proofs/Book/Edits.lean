import GridScript.Book.Basic
import GridScript.Proofs.Commits
import GridScript.Proofs.Entries

namespace GridScript.Book

/-!
# What changes make of a book

Every change of a book either fails and changes nothing, or makes a whole
change. There is a lemma for each change that says what it is. No change
gives two sheets one name, and a merge does not if the sheets of the other
book have distinct names.
-/

theorem has_iff
    {book : Book}
    {name : String} :
    book.has name = true ↔ name ∈ book.sheetNames :=
  lookup_isSome

theorem has_eq_false_iff
    {book : Book}
    {name : String} :
    book.has name = false ↔ name ∉ book.sheetNames := by
  rw [← Bool.not_eq_true, has_iff]

/-- A sheet that the book has can be found. -/
theorem get_eq_ok
    {book : Book}
    {name : String}
    {sheet : Sheet} :
    book.get name = .ok sheet ↔ book.find? name = some sheet := by
  unfold get
  cases book.find? name <;> simp [fail]

/-- A sheet that the book has can be referred to. -/
theorem ref_of_has
    {book : Book}
    {name : String}
    (held : book.has name = true) :
    book.ref name = .ok (book.refTo name) := by
  obtain ⟨sheet, found⟩ := Option.isSome_iff_exists.mp held
  unfold ref
  rw [get_eq_ok.mpr found]
  rfl

theorem storeEntry_of_lookup
    {name : String}
    {sheet : Sheet}
    {entries : List (String × Sheet)}
    (held : entries.lookup name = some sheet) :
    storeEntry name sheet entries = entries := by
  induction entries with
  | nil =>
      rfl
  | cons entry rest inductionHypothesis =>
      obtain ⟨key, first⟩ := entry
      rw [List.lookup_cons] at held
      unfold storeEntry
      by_cases same : key = name
      · subst same
        simp only [beq_self_eq_true] at held ⊢
        cases held
        rfl
      · have different : (name == key) = false := by
          simpa using Ne.symm same
        simp only [different] at held
        simp [same, inductionHypothesis held]

/-- To put the sheet back that the book keeps under a name changes nothing. -/
theorem store_of_get
    {book : Book}
    {name : String}
    {sheet : Sheet}
    (held : book.get name = .ok sheet) :
    book.store name sheet = book := by
  have stored := storeEntry_of_lookup (get_eq_ok.mp held)
  unfold store
  rw [stored]

/-- A stored sheet takes the place of another one, and no name changes. -/
theorem sheetNames_store
    (name : String)
    (sheet : Sheet)
    (book : Book) :
    (book.store name sheet).sheetNames = book.sheetNames := by
  have names (entries : List (String × Sheet)) :
      (storeEntry name sheet entries).map Prod.fst = entries.map Prod.fst := by
    induction entries with
    | nil =>
        rfl
    | cons entry rest inductionHypothesis =>
        unfold storeEntry
        split
        · rfl
        · rw [List.map_cons, List.map_cons, inductionHypothesis]
  exact names book.entries

/-- The book with further sheets at the end. -/
def extended (book : Book) (entries : List (String × Sheet)) : Book :=
  { book with
    entries :=
    book.entries ++ entries.map fun entry => (entry.1, entry.2.rename entry.1)
    active := book.active <|> (entries.map Prod.fst).head? }

@[simp] theorem extended_nil (book : Book) : book.extended [] = book := by
  simp [extended]

theorem extended_append
    (book : Book)
    (earlier later : List (String × Sheet)) :
    book.extended (earlier ++ later) = (book.extended earlier).extended later := by
  cases earlier with
  | nil =>
      simp
  | cons entry rest =>
      cases active : book.active <;> simp [extended, active]

@[simp] theorem sheetNames_extended
    (book : Book)
    (entries : List (String × Sheet)) :
    (book.extended entries).sheetNames =
      book.sheetNames ++ entries.map Prod.fst := by
  simp [extended, sheetNames, Function.comp_def]

/-- Another sheet becomes the active one. -/
theorem setActive_commits
    (name : String)
    (book : Book) :
    Commits (setActive name) book fun _ after =>
      (∃ sheet, book.get name = .ok sheet) ∧
        after = { book with active := some name } := by
  refine (Commits.ask _ book).read fun sheet held => ?_
  exact .achieves (.modify ⟨⟨sheet, held⟩, rfl⟩)

/-- A name that is free can be given to a sheet. -/
theorem add_achieves
    {name : String}
    {book : Book}
    (sheet : Sheet)
    (fresh : book.has name = false) :
    Achieves (add name sheet) book fun ref after =>
      ref = book.refTo name ∧ after = book.extended [(name, sheet)] := by
  refine .look_bind (.require_bind fresh ?_)
  exact .modify_bind (.modify_bind (.look ⟨rfl, rfl⟩))

/-- A sheet is added at the end under a free name. -/
theorem add_commits
    (name : String)
    (sheet : Sheet)
    (book : Book) :
    Commits (add name sheet) book fun ref after =>
      book.has name = false ∧ ref = book.refTo name ∧
        after = book.extended [(name, sheet)] := by
  refine (Commits.look _ book).read fun taken isTaken => ?_
  refine (Commits.require _ _ book).read fun _ free => ?_
  exact .achieves (.modify_bind (.modify_bind (.look ⟨isTaken ▸ free, rfl, rfl⟩)))

/-- A sheet takes the place of another one. -/
theorem replace_commits
    (name : String)
    (sheet : Sheet)
    (book : Book) :
    Commits (replace name sheet) book fun _ after =>
      book.has name = true ∧ after = book.store name (sheet.rename name) := by
  refine (Commits.ask _ book).read fun held isHeld => ?_
  exact .achieves (.modify ⟨by simp [has, get_eq_ok.mp isHeld], rfl⟩)

/-- A sheet is removed, and another one becomes active if it was. -/
theorem remove_commits
    (name : String)
    (book : Book) :
    Commits (remove name) book fun sheet after =>
      book.get name = .ok sheet ∧
        after.entries = book.entries.filter (fun entry => entry.1 != name) ∧
        after.active =
          if book.active = some name then after.sheetNames.head?
          else book.active := by
  refine (Commits.ask _ book).read fun sheet held => ?_
  refine .achieves (.modify_bind (.modify_bind (.pure ⟨held, ?_, ?_⟩)))
  · split <;> rfl
  · split <;> rfl

/-- A sheet keeps its place under another name that is free. -/
theorem renameSheet_commits
    (old new : String)
    (book : Book) :
    Commits (renameSheet old new) book fun ref after =>
      ∃ sheet,
        book.get old = .ok sheet ∧ (book.has new = true → new = old) ∧
        ref = book.refTo new ∧
        after.entries =
          ((book.rekey old new).store new (sheet.rename new)).entries ∧
        after.active =
          if book.active = some old then some new else book.active := by
  refine (Commits.ask _ book).read fun sheet held => ?_
  refine (Commits.look _ book).read fun taken isTaken => ?_
  refine (Commits.require _ _ book).read fun _ free => ?_
  refine .achieves (.modify_bind (.modify_bind (.modify_bind (.look ?_))))
  refine ⟨sheet, held, isTaken ▸ free, ?_, ?_, ?_⟩
  · split <;> rfl
  · split <;> rfl
  · simp only [store, rekey]
    split <;> simp_all

/-- Different free names can be given to sheets one after another. -/
theorem add_extended
    {book : Book}
    {earlier : List (String × Sheet)}
    {name : String}
    {sheet : Sheet}
    (fresh : book.has name = false)
    (apart : name ∉ earlier.map Prod.fst) :
    Achieves (add name sheet) (book.extended earlier) fun _ after =>
      after = book.extended (earlier ++ [(name, sheet)]) := by
  have free : (book.extended earlier).has name = false := by
    rw [has_eq_false_iff, sheetNames_extended, List.mem_append, not_or]
    exact ⟨has_eq_false_iff.mp fresh, apart⟩
  refine (add_achieves sheet free).mono fun _ after fact => ?_
  rw [extended_append]
  exact fact.2

/-- The sheets of a book with distinct names are added together. -/
theorem merge_commits
    {other : Book}
    (distinct : other.sheetNames.Nodup)
    (book : Book) :
    Commits (merge other) book fun _ after =>
      (∀ name ∈ other.sheetNames, book.has name = false) ∧
        after = book.extended other.entries := by
  have checks :
      Commits
        (other.sheetNames.forM fun name => do
          let taken ← Change.look (·.has name)
          Change.require (taken = false) (SheetError.sheetExists name))
        book fun _ after =>
          (∀ name ∈ other.sheetNames, book.has name = false) ∧ after = book := by
    refine Commits.forM_read other.sheetNames fun name _ => ?_
    refine (Commits.look _ book).read fun taken isTaken => ?_
    exact (Commits.require _ _ book).mono fun _ _ fact => ⟨isTaken ▸ fact.1, fact.2⟩
  refine checks.read fun _ free => .achieves ?_
  refine Achieves.mono
    (Achieves.forM (fun earlier between => between = book.extended earlier)
      (by simp) fun earlier entry later between shape reached => ?_)
    fun _ after reached => ⟨free, reached⟩
  subst reached
  have member : entry ∈ other.entries := by
    simp [← shape]
  have fresh : book.has entry.1 = false :=
    free entry.1 (List.mem_map.mpr ⟨entry, member, rfl⟩)
  have apart : entry.1 ∉ earlier.map Prod.fst := not_mem_of_nodup distinct shape
  exact .bind (add_extended fresh apart) fun _ after added => .pure added

/-! ## Names of sheets stay distinct -/

/-- Distinct names of sheets stay distinct. -/
def StaysDistinct (before after : Book) : Prop :=
  before.sheetNames.Nodup → after.sheetNames.Nodup

theorem staysDistinct_store
    (name : String)
    (sheet : Sheet)
    (book : Book) :
    book.StaysDistinct (book.store name sheet) := by
  intro distinct
  rw [sheetNames_store]
  exact distinct

/-- Sheets get names that differ from each other and from those that are taken. -/
theorem staysDistinct_extended
    {book : Book}
    {entries : List (String × Sheet)}
    (apart : (entries.map Prod.fst).Nodup)
    (free : ∀ name ∈ entries.map Prod.fst, book.has name = false) :
    book.StaysDistinct (book.extended entries) := by
  intro distinct
  rw [sheetNames_extended]
  refine distinct.append apart fun name held added => ?_
  exact has_eq_false_iff.mp (free name added) held

/-- A name that is free can take the place of another one. -/
theorem staysDistinct_rekey
    {old new : String}
    {book : Book}
    (free : book.has new = true → new = old) :
    book.StaysDistinct (book.rekey old new) := by
  intro distinct
  have names :
      (book.rekey old new).sheetNames =
        book.sheetNames.map fun name => if name == old then new else name := by
    simp [rekey, sheetNames, Function.comp_def]
  rw [names]
  refine distinct.map_on fun first firstHeld second secondHeld same => ?_
  have taken (name : String) (held : name ∈ book.sheetNames) (isNew : name = new) :
      name = old :=
    isNew.trans (free (has_iff.mpr (isNew ▸ held)))
  by_cases firstOld : first = old <;> by_cases secondOld : second = old
  · exact firstOld.trans secondOld.symm
  · exact absurd
      (taken second secondHeld (by simpa [firstOld, secondOld] using same.symm))
      secondOld
  · exact absurd (taken first firstHeld (by simpa [firstOld, secondOld] using same))
      firstOld
  · simpa [firstOld, secondOld] using same

theorem setActive_distinct
    (name : String)
    (book : Book) :
    Commits (setActive name) book fun _ after => book.StaysDistinct after :=
  (setActive_commits name book).mono fun _ after fact => by
    obtain ⟨_, rfl⟩ := fact
    exact fun distinct => distinct

theorem add_distinct
    (name : String)
    (sheet : Sheet)
    (book : Book) :
    Commits (add name sheet) book fun _ after => book.StaysDistinct after :=
  (add_commits name sheet book).mono fun _ after fact => by
    obtain ⟨free, _, rfl⟩ := fact
    exact staysDistinct_extended (List.nodup_singleton name) (by simpa using free)

theorem remove_distinct
    (name : String)
    (book : Book) :
    Commits (remove name) book fun _ after => book.StaysDistinct after :=
  (remove_commits name book).mono fun _ after fact => by
    intro distinct
    rw [sheetNames, fact.2.1]
    exact distinct.sublist (List.filter_sublist.map Prod.fst)

theorem renameSheet_distinct
    (old new : String)
    (book : Book) :
    Commits (renameSheet old new) book fun _ after => book.StaysDistinct after :=
  (renameSheet_commits old new book).mono fun _ after fact => by
    obtain ⟨sheet, _, free, _, entries, _⟩ := fact
    intro distinct
    rw [sheetNames, entries]
    exact staysDistinct_store new _ _ (staysDistinct_rekey free distinct)

/-- The sheets of the other book have names that differ from each other. -/
theorem merge_distinct
    {other : Book}
    (distinct : other.sheetNames.Nodup)
    (book : Book) :
    Commits (merge other) book fun _ after => book.StaysDistinct after :=
  (merge_commits distinct book).mono fun _ after fact => by
    obtain ⟨free, rfl⟩ := fact
    exact staysDistinct_extended distinct free

end GridScript.Book
