import GridScript.Book.Consolidate
import GridScript.Proofs.Book.Edits

namespace GridScript.Book

/-!
# Books stay well kept

A book serves requests one after another, and some of them fail. Whatever the
requests are, the names of its sheets stay distinct, every sheet has the name
that it is kept under, and one of the sheets is active as long as there are any.
A request that fails changes nothing, and one that succeeds leaves all sheets in
place that it does not speak of.
-/

/-- The sheets can be found by their own names, and one of them is
active if there are any. -/
structure WellKept (book : Book) : Prop where
  distinct : book.sheetNames.Nodup
  named : ∀ entry ∈ book.entries, entry.2.name = entry.1
  noneActive : book.active = none ↔ book.entries = []
  active : ∀ name, book.active = some name → name ∈ book.sheetNames

/-- A request to a book: to change it, or to stack its sheets into a new one. -/
inductive Request where
  | add (name : String) (sheet : Sheet)
  | addEmpty (name : String)
  | replace (name : String) (sheet : Sheet)
  | remove (name : String)
  | rename (old new : String)
  /-- The sheets of the other book are kept under distinct names, as those
  of every book are. -/
  | merge (other : Book) (distinct : other.sheetNames.Nodup)
  | setActive (name : String)
  | consolidate (name : String)

/-- What a request does to a book, without its result. -/
def Request.change : Request → BookChange Unit
  | .add name sheet => do let _ ← Book.add name sheet
  | .addEmpty name => do let _ ← Book.addEmpty name
  | .replace name sheet => Book.replace name sheet
  | .remove name => do let _ ← Book.remove name
  | .rename old new => do let _ ← Book.renameSheet old new
  | .merge other _ => Book.merge other
  | .setActive name => Book.setActive name
  | .consolidate name => do let _ ← Change.ask (·.consolidate name)

/-- The book after a request, whether it succeeds or fails. -/
def served (book : Book) (request : Request) : Book :=
  (request.change book).state

/-- The book after some requests. -/
def servedAll (book : Book) (requests : List Request) : Book :=
  requests.foldl served book

/-- What a request that succeeds makes of the sheets: which of them it adds,
changes or takes away, and that all others keep their places. -/
def Request.Effect (request : Request) (before after : Book) : Prop :=
  match request with
  | .add name sheet => after.entries = before.entries ++ [(name, sheet.rename name)]
  | .addEmpty name => after.entries = before.entries ++ [(name, Sheet.empty name)]
  | .replace name sheet =>
      ∃ earlier held later,
        before.entries = earlier ++ (name, held) :: later ∧
          after.entries = earlier ++ (name, sheet.rename name) :: later
  | .remove name =>
      ∃ earlier held later,
        before.entries = earlier ++ (name, held) :: later ∧
          after.entries = earlier ++ later
  | .rename old new =>
      ∃ earlier held later,
        before.entries = earlier ++ (old, held) :: later ∧
          after.entries = earlier ++ (new, held.rename new) :: later
  | .merge other _ =>
      after.entries =
        before.entries ++ other.entries.map fun entry =>
          (entry.1, entry.2.rename entry.1)
  | .setActive name => after = { before with active := some name }
  | .consolidate _ => after = before

/-- A sheet that is found stands at one place, and no other sheet has its name. -/
theorem split_of_get
    {book : Book}
    {name : String}
    {sheet : Sheet}
    (distinct : book.sheetNames.Nodup)
    (held : book.get name = .ok sheet) :
    ∃ earlier later,
      book.entries = earlier ++ (name, sheet) :: later ∧
        name ∉ earlier.map Prod.fst ∧ name ∉ later.map Prod.fst := by
  obtain ⟨earlier, later, shape, _⟩ :=
    List.lookup_eq_some_iff.mp (get_eq_ok.mp held)
  refine ⟨earlier, later, shape, not_mem_of_nodup distinct shape.symm, ?_⟩
  rw [sheetNames, shape, List.map_append, List.map_cons] at distinct
  exact (List.nodup_cons.mp distinct.of_append_right).1

/-- A sheet is stored at its place. -/
theorem storeEntry_split
    {name : String}
    {earlier : List (String × Sheet)}
    (apart : name ∉ earlier.map Prod.fst)
    (held sheet : Sheet)
    (later : List (String × Sheet)) :
    storeEntry name sheet (earlier ++ (name, held) :: later) =
      earlier ++ (name, sheet) :: later := by
  induction earlier with
  | nil =>
      simp [storeEntry]
  | cons entry rest inductionHypothesis =>
      obtain ⟨key, first⟩ := entry
      simp only [List.map_cons, List.mem_cons, not_or] at apart
      have different : (key == name) = false := by
        simpa using Ne.symm apart.1
      simp [storeEntry, different, inductionHypothesis apart.2]

/-- Entries under other names keep their names where a name is replaced. -/
theorem map_rekey_of_not_mem
    {old : String}
    {entries : List (String × Sheet)}
    (apart : old ∉ entries.map Prod.fst)
    (new : String) :
    (entries.map fun (key, held) => (if key == old then new else key, held)) =
      entries := by
  conv_rhs => rw [← List.map_id entries]
  refine List.map_congr_left fun entry member => ?_
  have different : entry.1 ≠ old := fun same =>
    apart (List.mem_map.mpr ⟨entry, member, same⟩)
  simp [different]

/-- Entries under other names are kept where a name is taken away. -/
theorem filter_of_not_mem
    {name : String}
    {entries : List (String × Sheet)}
    (apart : name ∉ entries.map Prod.fst) :
    (entries.filter fun entry => entry.1 != name) = entries := by
  refine List.filter_eq_self.mpr fun entry member => ?_
  have different : entry.1 ≠ name := fun same =>
    apart (List.mem_map.mpr ⟨entry, member, same⟩)
  simpa using different

/-- The sheet that is replaced gives its place to the new one. -/
theorem entries_store
    {book : Book}
    {name : String}
    {held : Sheet}
    (distinct : book.sheetNames.Nodup)
    (found : book.get name = .ok held)
    (sheet : Sheet) :
    ∃ earlier later,
      book.entries = earlier ++ (name, held) :: later ∧
        (book.store name sheet).entries = earlier ++ (name, sheet) :: later := by
  obtain ⟨earlier, later, shape, apart, _⟩ := split_of_get distinct found
  refine ⟨earlier, later, shape, ?_⟩
  show storeEntry name sheet book.entries = _
  rw [shape, storeEntry_split apart]

/-- The sheet that is renamed keeps its place. -/
theorem entries_rekey_store
    {book : Book}
    {old new : String}
    {held : Sheet}
    (distinct : book.sheetNames.Nodup)
    (found : book.get old = .ok held)
    (free : book.has new = true → new = old)
    (sheet : Sheet) :
    ∃ earlier later,
      book.entries = earlier ++ (old, held) :: later ∧
        ((book.rekey old new).store new sheet).entries =
          earlier ++ (new, sheet) :: later := by
  obtain ⟨earlier, later, shape, apart, laterApart⟩ := split_of_get distinct found
  have newApart : new ∉ earlier.map Prod.fst := by
    intro member
    have taken : new ∈ book.sheetNames := by
      rw [sheetNames, shape, List.map_append]
      exact List.mem_append_left _ member
    exact apart (free (has_iff.mpr taken) ▸ member)
  have rekeyed :
      (book.rekey old new).entries = earlier ++ (new, held) :: later := by
    show book.entries.map _ = _
    rw [shape, List.map_append, List.map_cons, map_rekey_of_not_mem apart,
      map_rekey_of_not_mem laterApart]
    simp
  refine ⟨earlier, later, shape, ?_⟩
  show storeEntry new sheet (book.rekey old new).entries = _
  rw [rekeyed, storeEntry_split newApart]

/-- The sheets before and after the one that is removed close up. -/
theorem entries_filter
    {book : Book}
    {name : String}
    {held : Sheet}
    (distinct : book.sheetNames.Nodup)
    (found : book.get name = .ok held) :
    ∃ earlier later,
      book.entries = earlier ++ (name, held) :: later ∧
        (book.entries.filter fun entry => entry.1 != name) = earlier ++ later := by
  obtain ⟨earlier, later, shape, apart, laterApart⟩ := split_of_get distinct found
  refine ⟨earlier, later, shape, ?_⟩
  rw [shape, List.filter_append, filter_of_not_mem apart]
  simp [filter_of_not_mem laterApart]

/-- A book without sheets is well kept. -/
theorem WellKept.empty (id : Nat) (name : String) :
    (Book.empty id name).WellKept where
  distinct := List.nodup_nil
  named _ member := nomatch member
  noneActive := ⟨fun _ => rfl, fun _ => rfl⟩
  active _ isActive := nomatch isActive

/-- A book with sheets has an active one. -/
theorem WellKept.exists_active
    {book : Book}
    (wellKept : book.WellKept)
    {name : String}
    (held : name ∈ book.sheetNames) :
    ∃ active, book.active = some active ∧ active ∈ book.sheetNames := by
  cases isActive : book.active with
  | none =>
      rw [sheetNames, wellKept.noneActive.mp isActive] at held
      cases held
  | some active =>
      exact ⟨active, rfl, wellKept.active active isActive⟩

/-- Further sheets are added under their names, and the first
sheet of all is active. -/
theorem WellKept.extended
    {book : Book}
    (wellKept : book.WellKept)
    {entries : List (String × Sheet)}
    (apart : (entries.map Prod.fst).Nodup)
    (free : ∀ name ∈ entries.map Prod.fst, book.has name = false) :
    (book.extended entries).WellKept where
  distinct := staysDistinct_extended apart free wellKept.distinct
  named entry member := by
    rcases List.mem_append.mp member with old | new
    · exact wellKept.named entry old
    · obtain ⟨added, _, rfl⟩ := List.mem_map.mp new
      rfl
  noneActive := by
    cases held : book.active with
    | none =>
        simp [Book.extended, held, wellKept.noneActive.mp held]
    | some current =>
        have some : book.entries ≠ [] := fun none => by
          rw [wellKept.noneActive.mpr none] at held
          cases held
        simp [Book.extended, held, some]
  active name isActive := by
    rw [sheetNames_extended, List.mem_append]
    cases held : book.active with
    | none =>
        simp only [Book.extended, held] at isActive
        exact .inr (List.mem_of_mem_head? isActive)
    | some current =>
        simp only [Book.extended, held] at isActive
        cases isActive
        exact .inl (wellKept.active name held)

/-- A sheet takes the place of another one, and is active if that was. -/
theorem WellKept.replaced
    {book after : Book}
    (wellKept : book.WellKept)
    {old new : String}
    {held sheet : Sheet}
    {earlier later : List (String × Sheet)}
    (shape : book.entries = earlier ++ (old, held) :: later)
    (entries : after.entries = earlier ++ (new, sheet.rename new) :: later)
    (distinct : after.sheetNames.Nodup)
    (active :
      after.active = if book.active = some old then some new else book.active) :
    after.WellKept where
  distinct := distinct
  named entry member := by
    rw [entries, List.mem_append, List.mem_cons] at member
    rcases member with inEarlier | rfl | inLater
    · exact wellKept.named entry (by simp [shape, inEarlier])
    · rfl
    · exact wellKept.named entry (by simp [shape, inLater])
  noneActive := by
    have some : book.active ≠ none := fun none => by
      have noEntries := wellKept.noneActive.mp none
      simp [shape] at noEntries
    rw [active, entries]
    split <;> simp [some]
  active name isActive := by
    rw [active] at isActive
    rw [sheetNames, entries, List.map_append, List.map_cons, List.mem_append,
      List.mem_cons]
    split at isActive
    · cases isActive
      exact .inr (.inl rfl)
    · rename_i other
      have member := wellKept.active name isActive
      rw [sheetNames, shape, List.map_append, List.map_cons, List.mem_append,
        List.mem_cons] at member
      rcases member with inEarlier | rfl | inLater
      · exact .inl inEarlier
      · exact (other isActive).elim
      · exact .inr (.inr inLater)

/-- A sheet is gone, and the first remaining one is active if it was. -/
theorem WellKept.removed
    {book after : Book}
    (wellKept : book.WellKept)
    {name : String}
    {held : Sheet}
    {earlier later : List (String × Sheet)}
    (shape : book.entries = earlier ++ (name, held) :: later)
    (entries : after.entries = earlier ++ later)
    (distinct : after.sheetNames.Nodup)
    (active :
      after.active =
        if book.active = some name then after.sheetNames.head? else book.active) :
    after.WellKept := by
  have remains (other : String) (isActive : book.active = some other)
      (notGone : other ≠ name) :
      other ∈ after.sheetNames := by
    have member := wellKept.active other isActive
    rw [sheetNames, shape, List.map_append, List.map_cons, List.mem_append,
      List.mem_cons] at member
    rw [sheetNames, entries, List.map_append, List.mem_append]
    rcases member with inEarlier | gone | inLater
    · exact .inl inEarlier
    · exact (notGone gone).elim
    · exact .inr inLater
  have wasHeld : name ∈ book.sheetNames := by
    simp [sheetNames, shape]
  obtain ⟨current, isCurrent, _⟩ := wellKept.exists_active wasHeld
  have activeNow :
      after.active =
        if current = name then after.sheetNames.head? else some current := by
    simpa [isCurrent] using active
  refine ⟨distinct, fun entry member => ?_, ?_, fun other isActive => ?_⟩
  · rw [entries, List.mem_append] at member
    rcases member with inEarlier | inLater
    · exact wellKept.named entry (by simp [shape, inEarlier])
    · exact wellKept.named entry (by simp [shape, inLater])
  · rw [activeNow]
    split
    · simp [sheetNames]
    · rename_i notGone
      have remaining := remains current isCurrent notGone
      constructor
      · intro none
        cases none
      · intro noEntries
        rw [sheetNames, noEntries] at remaining
        cases remaining
  · rw [activeNow] at isActive
    split at isActive
    · exact List.mem_of_mem_head? isActive
    · rename_i notGone
      cases isActive
      exact remains current isCurrent notGone

/-- A request commits: it fails and changes nothing, or it has its effect
on a well-kept book. -/
theorem Request.change_commits
    (request : Request)
    {book : Book}
    (wellKept : book.WellKept) :
    Commits request.change book fun _ after =>
      after.WellKept ∧ request.Effect book after := by
  have distinct := wellKept.distinct
  cases request with
  | add name sheet =>
      refine (add_commits name sheet book).write fun _ after fact => .pure ?_
      obtain ⟨free, _, rfl⟩ := fact
      exact ⟨wellKept.extended (List.nodup_singleton name) (by simpa using free),
        rfl⟩
  | addEmpty name =>
      refine (add_commits name (Sheet.empty name) book).write fun _ after fact =>
        .pure ?_
      obtain ⟨free, _, rfl⟩ := fact
      exact ⟨wellKept.extended (List.nodup_singleton name) (by simpa using free),
        rfl⟩
  | replace name sheet =>
      refine (replace_commits name sheet book).mono fun _ after fact => ?_
      obtain ⟨isHeld, rfl⟩ := fact
      obtain ⟨held, found⟩ := Option.isSome_iff_exists.mp isHeld
      obtain ⟨earlier, later, shape, entries⟩ :=
        entries_store distinct (get_eq_ok.mpr found) (sheet.rename name)
      have names := staysDistinct_store name (sheet.rename name) book distinct
      have active :
          book.active =
            if book.active = some name then some name else book.active := by
        split <;> simp_all
      exact ⟨wellKept.replaced shape entries names active, earlier, held, later,
        shape, entries⟩
  | remove name =>
      refine ((remove_commits name book).and (remove_distinct name book)).write
        fun _ after fact => .pure ?_
      obtain ⟨⟨found, filtered, active⟩, staysDistinct⟩ := fact
      obtain ⟨earlier, later, shape, entries⟩ := entries_filter distinct found
      rw [entries] at filtered
      exact ⟨wellKept.removed shape filtered (staysDistinct distinct) active,
        earlier, _, later, shape, filtered⟩
  | rename old new =>
      refine ((renameSheet_commits old new book).and
        (renameSheet_distinct old new book)).write
        fun _ after fact => .pure ?_
      obtain ⟨⟨held, found, free, _, stored, active⟩, staysDistinct⟩ := fact
      obtain ⟨earlier, later, shape, entries⟩ :=
        entries_rekey_store distinct found free (held.rename new)
      rw [entries] at stored
      exact ⟨wellKept.replaced shape stored (staysDistinct distinct) active,
        earlier, held, later, shape, stored⟩
  | merge other otherDistinct =>
      refine (merge_commits otherDistinct book).mono fun _ after fact => ?_
      obtain ⟨free, rfl⟩ := fact
      exact ⟨wellKept.extended otherDistinct free, rfl⟩
  | setActive name =>
      refine (setActive_commits name book).mono fun _ after fact => ?_
      obtain ⟨⟨sheet, held⟩, rfl⟩ := fact
      have isName : name ∈ book.sheetNames :=
        has_iff.mp (Option.isSome_iff_exists.mpr ⟨sheet, get_eq_ok.mp held⟩)
      refine ⟨⟨distinct, wellKept.named, ?_, fun other isActive => ?_⟩, rfl⟩
      · constructor
        · intro none
          cases none
        · intro noEntries
          rw [sheetNames, show book.entries = [] from noEntries] at isName
          cases isName
      · cases isActive
        exact isName
  | consolidate name =>
      refine (Commits.ask _ book).write fun _ after fact => .pure ?_
      obtain ⟨_, rfl⟩ := fact
      exact ⟨wellKept, rfl⟩

/-- Requests keep a well-kept book well kept, whether they succeed or fail. -/
theorem WellKept.servedAll
    {book : Book}
    (wellKept : book.WellKept)
    (requests : List Request) :
    (book.servedAll requests).WellKept := by
  induction requests generalizing book with
  | nil =>
      exact wellKept
  | cons request rest inductionHypothesis =>
      exact inductionHypothesis
        ((request.change_commits wellKept).state wellKept fun _ _ fact => fact.1)

/-- A well-kept book lacks an active sheet only if it has no sheets. -/
theorem WellKept.activeSheet_eq_none_iff
    {book : Book}
    (wellKept : book.WellKept) :
    book.activeSheet = none ↔ book.sheets = [] := by
  have noSheets : book.sheets = [] ↔ book.active = none := by
    rw [wellKept.noneActive]
    exact List.map_eq_nil_iff
  rw [noSheets]
  constructor
  · intro noSheet
    cases isActive : book.active with
    | none =>
        rfl
    | some current =>
        have held : book.has current = true :=
          has_iff.mpr (wellKept.active current isActive)
        simp only [activeSheet, isActive, Option.bind_some] at noSheet
        simp [has, noSheet] at held
  · intro none
    simp [activeSheet, none]

/--
A book stays well kept whatever it is asked, and every request spares what it
does not speak of.

After any requests, of which some may have failed, the names of the sheets are
distinct, every sheet has the name that it is kept under, and the active sheet
is one of the sheets, and missing only if there are none. A further request that
fails changes nothing. One that succeeds has its effect: a renamed or replaced
sheet keeps its place, and all others keep theirs, in all three cases of a
rename, a replacement and a removal.
-/
theorem wellKept_servedAll
    (id : Nat)
    (name : String)
    (requests : List Request) :
    let book := (Book.empty id name).servedAll requests
    book.WellKept ∧
      (book.activeSheet = none ↔ book.sheets = []) ∧
      ∀ request : Request,
        (∀ failure after, request.change book = .error failure after →
          after = book) ∧
        ∀ after, request.change book = .ok () after →
          request.Effect book after := by
  intro book
  have wellKept : book.WellKept := (WellKept.empty id name).servedAll requests
  refine ⟨wellKept, wellKept.activeSheet_eq_none_iff, fun request => ⟨?_, ?_⟩⟩
  · intro failure after failed
    exact (request.change_commits wellKept).unchanged failed
  · intro after succeeded
    exact ((request.change_commits wellKept).of_ok succeeded).2

/-- Requests of which the fourth and the fifth fail. -/
def ledgerRequests : List Request :=
  [.addEmpty "a", .addEmpty "b", .addEmpty "c", .addEmpty "a", .setActive "d",
    .setActive "b", .rename "b" "b", .remove "b"]

/-- Once the active sheet is removed the first one takes over, and no other
sheet can have its name. -/
theorem wellKept_servedAll_ledger :
    let book := (Book.empty 1 "Ledger").servedAll ledgerRequests
    book.sheetNames = ["a", "c"] ∧ book.active = some "a" ∧ book.WellKept ∧
      ∃ after,
        (Request.rename "c" "a").change book =
            .error (.error (.sheetExists "a")) after ∧
          after = book := by
  intro book
  have kept := wellKept_servedAll 1 "Ledger" ledgerRequests
  have failed :
      (Request.rename "c" "a").change book =
        .error (.error (.sheetExists "a")) book :=
    rfl
  exact ⟨rfl, rfl, kept.1, book, failed, (kept.2.2 (.rename "c" "a")).1 _ _ failed⟩

end GridScript.Book
