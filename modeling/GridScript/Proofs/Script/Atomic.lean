import GridScript.Proofs.Book.Edits
import GridScript.Proofs.Script.Builtin
import GridScript.Proofs.Script.Steps
import GridScript.Proofs.Sheet.Edits
import GridScript.Proofs.Table.Markdown

namespace GridScript.Script

/-!
# Built-in functions are atomic on the book

A built-in function that fails leaves the book as it was. Functions that change
the book look at all that can fail before they change anything, so that they
commit; the others do not touch the book. That a merge of a book commits rests
on the distinct names of its sheets, which every book that scripts reach has.
-/

namespace Host

/-- Distinct names of sheets stay distinct. -/
def StaysDistinct (before after : Host) : Prop :=
  before.book.StaysDistinct after.book

theorem staysDistinct_of_eq
    {before after : Host}
    (same : after.book = before.book) :
    before.StaysDistinct after := by
  intro distinct
  rw [same]
  exact distinct

/-- The sheets of every registered book have distinct names. -/
def DistinctRegistered (host : Host) : Prop :=
  ∀ registry,
    host.registry = some registry →
      ∀ entry ∈ registry.entries, entry.2.sheetNames.Nodup

end Host

namespace Builtin

theorem onSheet_eq_ok
    {result : Outcome SheetError α}
    {a : α}
    (succeeds : onSheet result = .ok a) :
    result = .ok a := by
  cases result with
  | ok held =>
      cases succeeds
      rfl
  | error failure =>
      cases succeeds

/-- A change of the book commits on the host. -/
theorem editBook_commits
    {change : BookChange α}
    {host : Host}
    {post : α → Book → Prop}
    (commits : Commits change host.book post) :
    Commits (editBook change) host fun a after =>
      ∃ book, post a book ∧ after = { host with book := book } := by
  refine (Commits.look _ host).read fun book isBook => ?_
  subst isBook
  exact .onPart rfl commits.mapError

theorem editBook_achieves
    {change : BookChange α}
    {host : Host}
    {post : α → Book → Prop}
    (achieves : Achieves change host.book post) :
    Achieves (editBook change) host fun a after =>
      ∃ book, post a book ∧ after = { host with book := book } :=
  .look_bind (.onPart achieves.mapError)

/-- A change of a sheet commits on the host, since the sheet of a failed
change is put back. -/
theorem editHeld_commits
    {change : Change Cause Sheet α}
    {post : Sheet → α → Sheet → Prop}
    (commits : ∀ sheet, Commits change sheet (post sheet))
    (key : String)
    (host : Host) :
    Commits (editHeld key change) host fun _ after => host.StaysDistinct after := by
  refine (Commits.ask _ host).read fun sheet held => ?_
  have same : { host with book := host.book.store key sheet } = host := by
    rw [Book.store_of_get (onSheet_eq_ok held)]
  refine (Commits.onPart same (commits sheet)).mono fun _ after fact => ?_
  obtain ⟨changed, _, rfl⟩ := fact
  exact Book.staysDistinct_store key changed host.book

theorem mutateSheet_commits
    {change : Change Cause Sheet Value}
    {post : Sheet → Value → Sheet → Prop}
    (commits : ∀ sheet, Commits change sheet (post sheet))
    (function : String)
    (target : Value)
    (host : Host) :
    Commits (mutateSheet function target change) host fun _ after =>
      host.StaysDistinct after :=
  (Commits.look _ host).read fun _ _ => (Commits.lift _ host).read fun key _ =>
    editHeld_commits commits key host

theorem editSheet_commits
    {change : Change Cause Sheet Unit}
    {post : Sheet → Unit → Sheet → Prop}
    (commits : ∀ sheet, Commits change sheet (post sheet))
    (function : String)
    (target : Value)
    (host : Host) :
    Commits (editSheet function target change) host fun _ after =>
      host.StaysDistinct after := by
  have whole (sheet : Sheet) :
      Commits (change >>= fun _ => pure Value.null) sheet fun _ after =>
        post sheet () after :=
    (commits sheet).write fun _ _ changed => .pure changed
  exact mutateSheet_commits whole function target host

theorem changeForRef_commits
    {change : BookChange SheetRef}
    {host : Host}
    (commits :
      Commits change host.book fun _ after => host.book.StaysDistinct after) :
    Commits (changeForRef change) host fun _ after => host.StaysDistinct after := by
  refine (editBook_commits commits).write fun ref between fact => ?_
  obtain ⟨book, distinct, rfl⟩ := fact
  exact .pure distinct

/-- A sheet that has been replaced can be referred to. -/
theorem replaceSheet_commits
    (name : String)
    (sheet : Sheet)
    (host : Host) :
    Commits (replaceSheet name sheet) host fun _ after =>
      host.StaysDistinct after := by
  refine (editBook_commits (Book.replace_commits name sheet host.book)).write
    fun _ between fact => ?_
  obtain ⟨book, ⟨has, rfl⟩, rfl⟩ := fact
  have answer :
      onSheet ((host.book.store name (sheet.rename name)).ref name) =
        .ok (host.book.refTo name) := by
    have held : (host.book.store name (sheet.rename name)).has name = true := by
      rw [Book.has_iff, Book.sheetNames_store]
      exact Book.has_iff.mp has
    rw [Book.ref_of_has held]
    rfl
  exact .ask_bind answer (.pure (Book.staysDistinct_store name _ host.book))

theorem reshapeSheet_commits
    (function : String)
    (target : Value)
    (newName : Option Value)
    (build : Sheet → Attempt Sheet)
    (host : Host) :
    Commits (reshapeSheet function target newName build) host fun _ after =>
      host.StaysDistinct after := by
  refine (Commits.lift _ host).read fun name _ =>
    (Commits.look _ host).read fun book _ =>
      (Commits.lift _ host).read fun sheet _ =>
        (Commits.lift _ host).read fun made _ => ?_
  cases name with
  | none =>
      exact replaceSheet_commits sheet.name made host
  | some name =>
      exact changeForRef_commits (Book.add_distinct name made host.book)

/-- What only answers leaves the host as it is. -/
theorem answer_commits
    (result : Attempt Value)
    (host : Host) :
    Commits (liftM result : HostChange Value) host fun _ after =>
      host.StaysDistinct after :=
  (Commits.lift result host).mono fun _ _ fact =>
    Host.staysDistinct_of_eq (by rw [fact.2])

theorem readSheet_commits
    (function : String)
    (arity : Arity)
    (arguments : List Value)
    (read : Book → Sheet → Attempt Value)
    (host : Host) :
    Commits (readSheet function arity arguments read) host fun _ after =>
      host.StaysDistinct after :=
  (Commits.lift _ host).read fun _ _ => (Commits.look _ host).read fun _ _ =>
    (Commits.lift _ host).read fun _ _ => answer_commits _ host

theorem newSheet_commits (arguments : List Value) (host : Host) :
    Commits (newSheet arguments) host fun _ after => host.StaysDistinct after :=
  (Commits.lift _ host).read fun _ _ => (Commits.lift _ host).read fun _ _ =>
    (Commits.lift _ host).read fun _ _ => (Commits.lift _ host).read fun _ _ =>
      changeForRef_commits (Book.add_distinct _ _ host.book)

theorem callSheet_commits
    (function : SheetFunction)
    (arguments : List Value)
    (host : Host) :
    Commits (callSheet function arguments) host fun _ after =>
      host.StaysDistinct after := by
  cases function with
  | new =>
      exact newSheet_commits arguments host
  | set =>
      refine (Commits.lift _ host).read fun _ _ => ?_
      exact editSheet_commits (fun sheet => (Commits.ask _ sheet).read fun row _ =>
        (Commits.ask _ sheet).read fun column _ =>
          (Sheet.set_commits row column _ sheet).mapError) _ _ host
  | setAddress =>
      exact (Commits.lift _ host).read fun _ _ =>
        (Commits.lift _ host).read fun address _ =>
          editSheet_commits
            (fun sheet => (Sheet.setAddress_commits address _ sheet).mapError) _ _
            host
  | setByName =>
      refine (Commits.lift _ host).read fun _ _ =>
        (Commits.lift _ host).read fun column _ => ?_
      exact editSheet_commits (fun sheet => (Commits.ask _ sheet).read fun row _ =>
        (Sheet.setByName_commits row column _ sheet).mapError) _ _ host
  | nameColumnsByRow =>
      exact (Commits.lift _ host).read fun _ _ =>
        (Commits.lift _ host).read fun row _ =>
          editSheet_commits
            (fun sheet => (Sheet.nameColumnsByRow_commits row sheet).mapError) _ _
            host
  | nameRowsByColumn =>
      exact (Commits.lift _ host).read fun _ _ =>
        (Commits.lift _ host).read fun column _ =>
          editSheet_commits (fun sheet =>
            (Sheet.nameRowsByColumn_commits column sheet).mapError) _ _
            host
  | appendRow =>
      refine (Commits.lift _ host).read fun _ _ => ?_
      split
      · exact editSheet_commits
          (fun sheet => (Sheet.appendRow_commits _ sheet).mapError) _ _ host
      · exact .throw _ host _
  | transpose =>
      exact (Commits.lift _ host).read fun _ _ => reshapeSheet_commits _ _ _ _ host
  | selectColumns =>
      exact (Commits.lift _ host).read fun _ _ =>
        (Commits.lift _ host).read fun _ _ =>
          reshapeSheet_commits _ _ _ _ host
  | removeColumns =>
      exact (Commits.lift _ host).read fun _ _ =>
        (Commits.lift _ host).read fun _ _ =>
          reshapeSheet_commits _ _ _ _ host
  | removeEmptyRows =>
      have whole (sheet : Sheet) :
          Commits
            (do
              let removed ← changeSheet Sheet.removeEmptyRows
              return Value.int removed)
            sheet fun _ _ => True :=
        (Sheet.removeEmptyRows_commits sheet).mapError.write fun _ _ _ =>
          .pure trivial
      exact (Commits.lift _ host).read fun _ _ => mutateSheet_commits whole _ _ host
  | _ =>
      exact readSheet_commits _ _ _ _ host

/-- A change of the book before a value. -/
theorem editBookThen_commits
    {change : BookChange α}
    {host : Host}
    (v : α → Value)
    (commits :
      Commits change host.book fun _ after => host.book.StaysDistinct after) :
    Commits (editBook change >>= fun a => pure (v a)) host fun _ after =>
      host.StaysDistinct after := by
  refine (editBook_commits commits).write fun a between fact => ?_
  obtain ⟨book, distinct, rfl⟩ := fact
  exact .pure distinct

theorem registeredBook_distinct
    {host : Host}
    (registered : host.DistinctRegistered)
    {name : String}
    {other : Book}
    (found : registeredBook host name = .ok other) :
    other.sheetNames.Nodup := by
  unfold registeredBook at found
  split at found
  · cases found
  · rename_i registry isRegistry
    split at found
    · cases found
    · rename_i held isHeld
      cases found
      exact registered registry isRegistry (name, other) (mem_of_lookup isHeld)

theorem callBook_commits
    (function : BookFunction)
    (arguments : List Value)
    {host : Host}
    (registered : host.DistinctRegistered) :
    Commits (callBook function arguments) host fun _ after =>
      host.StaysDistinct after := by
  refine (Commits.look _ host).read fun book _ => ?_
  have answered (v : Value) :
      Commits (pure v : HostChange Value) host fun _ after =>
        host.StaysDistinct after :=
    .achieves (.pure id)
  cases function with
  | sheetNames =>
      exact (Commits.lift _ host).read fun _ _ => answered _
  | sheetCount =>
      exact (Commits.lift _ host).read fun _ _ => answered _
  | hasSheet =>
      exact (Commits.lift _ host).read fun _ _ =>
        (Commits.lift _ host).read fun _ _ => answered _
  | getSheet =>
      exact (Commits.lift _ host).read fun _ _ =>
        (Commits.lift _ host).read fun _ _ =>
          (Commits.lift _ host).read fun _ _ => answered _
  | removeSheet =>
      exact (Commits.lift _ host).read fun _ _ =>
        (Commits.lift _ host).read fun name _ =>
          editBookThen_commits (fun _ => .null)
            (Book.remove_distinct name host.book)
  | renameSheet =>
      exact (Commits.lift _ host).read fun _ _ =>
        (Commits.lift _ host).read fun old _ =>
          (Commits.lift _ host).read fun new _ =>
            changeForRef_commits (Book.renameSheet_distinct old new host.book)
  | getSheetByIndex =>
      exact (Commits.lift _ host).read fun _ _ =>
        (Commits.lift _ host).read fun _ _ =>
          (Commits.lift _ host).read fun _ _ =>
            (Commits.lift _ host).read fun _ _ => answered _
  | activeSheet =>
      refine (Commits.lift _ host).read fun _ _ => ?_
      split
      · exact (Commits.lift _ host).read fun _ _ => answered _
      · exact answered _
  | setActiveSheet =>
      exact (Commits.lift _ host).read fun _ _ =>
        (Commits.lift _ host).read fun name _ =>
          editBookThen_commits (fun _ => .null)
            (Book.setActive_distinct name host.book)
  | addEmptySheet =>
      exact (Commits.lift _ host).read fun _ _ =>
        (Commits.lift _ host).read fun name _ =>
          changeForRef_commits (Book.add_distinct name (Sheet.empty name) host.book)
  | consolidate =>
      exact (Commits.lift _ host).read fun _ _ =>
        (Commits.lift _ host).read fun _ _ =>
          (Commits.ask _ host).read fun stacked _ =>
            changeForRef_commits (Book.add_distinct _ stacked host.book)
  | merge =>
      exact (Commits.lift _ host).read fun _ _ =>
        (Commits.lift _ host).read fun _ _ =>
          (Commits.ask _ host).read fun other found =>
            editBookThen_commits (fun _ => .int other.sheets.length)
              (Book.merge_distinct (registeredBook_distinct registered found)
                host.book)

theorem addImported_commits
    (site : CallSite)
    (path : String)
    (sheet : Sheet)
    (host : Host) :
    Commits (addImported site path sheet) host fun _ after =>
      host.StaysDistinct after := by
  refine (editBook_commits (Book.add_distinct sheet.name sheet host.book)).write
    fun ref between fact => ?_
  obtain ⟨book, distinct, rfl⟩ := fact
  exact .modify_bind (.pure distinct)

/-- Sheets with free names that differ from each other are added
one after another. -/
theorem addEach_achieves
    {sheets : List Sheet}
    (apart : (sheets.map Sheet.name).Nodup)
    {host : Host}
    (free : ∀ sheet ∈ sheets, host.book.has sheet.name = false) :
    Achieves (sheets.mapM fun sheet => editBook (Book.add sheet.name sheet)) host
      fun _ after =>
        after.book =
          host.book.extended (sheets.map fun sheet => (sheet.name, sheet)) := by
  refine Achieves.mapM
    (fun earlier (between : Host) =>
      between.book =
        host.book.extended (earlier.map fun sheet => (sheet.name, sheet)))
    (by simp) fun earlier sheet later between shape reached => ?_
  have fresh : host.book.has sheet.name = false :=
    free sheet (by simp [← shape])
  have different :
      sheet.name ∉ (earlier.map fun sheet => (sheet.name, sheet)).map Prod.fst := by
    simpa [Function.comp_def] using not_mem_of_nodup apart shape
  have added :
      Achieves (Book.add sheet.name sheet) between.book fun _ after =>
        after =
          host.book.extended
            ((earlier ++ [sheet]).map fun sheet => (sheet.name, sheet)) := by
    rw [reached, List.map_append]
    exact Book.add_extended fresh different
  refine (editBook_achieves added).mono fun _ after fact => ?_
  obtain ⟨book, isBook, rfl⟩ := fact
  exact isBook

/-- Sheets that are imported together are added together. -/
theorem addAllImported_commits
    (site : CallSite)
    (path : String)
    {sheets : List Sheet}
    (apart : (sheets.map Sheet.name).Nodup)
    (host : Host) :
    Commits (addAllImported site path sheets) host fun _ after =>
      host.StaysDistinct after := by
  refine (Commits.look _ host).read fun book isBook => ?_
  subst isBook
  have checks :
      Commits
        (sheets.forM fun sheet =>
          Change.require (host.book.has sheet.name = false)
            (Cause.sheet (.sheetExists sheet.name)))
        host fun _ after =>
          (∀ sheet ∈ sheets, host.book.has sheet.name = false) ∧ after = host :=
    Commits.forM_read sheets fun sheet _ => Commits.require _ _ host
  refine checks.read fun _ free => .achieves ?_
  refine (addEach_achieves apart free).bind fun refs between added => ?_
  have reported :
      Achieves
        (sheets.forM fun sheet =>
          leaveEvent (transferEvent site .sheetImported path sheet))
        between fun _ after => after.book = between.book :=
    Achieves.forM (fun _ (held : Host) => held.book = between.book) rfl
      fun _ _ _ held _ same => .modify same
  refine reported.bind fun _ after same => .pure ?_
  have distinct :
      host.book.StaysDistinct
        (host.book.extended (sheets.map fun sheet => (sheet.name, sheet))) := by
    refine Book.staysDistinct_extended (by simpa [Function.comp_def] using apart) ?_
    simpa using free
  rw [Host.StaysDistinct, same, added]
  exact distinct

theorem exportSheet_commits
    (site : CallSite)
    (function : String)
    (arguments : List Value)
    (write : Files → Sheet → String → Except SheetError Files)
    (host : Host) :
    Commits (exportSheet site function arguments write) host fun _ after =>
      host.StaysDistinct after :=
  (Commits.lift _ host).read fun _ _ => (Commits.lift _ host).read fun _ _ =>
    (Commits.look _ host).read fun _ _ => (Commits.lift _ host).read fun _ _ =>
      (Commits.ask _ host).read fun _ _ =>
        .achieves (.modify_bind (.modify_bind (.pure id)))

/-- The sheets of a document have names that differ from each other,
with any leading text. -/
theorem readDocument_apart
    {files : Files}
    {path : String}
    {sheets : List Sheet}
    (read : readDocument files path = .ok sheets)
    (leading : String) :
    ((sheets.map fun sheet => sheet.rename (leading ++ sheet.name)).map
      Sheet.name).Nodup := by
  unfold readDocument at read
  split at read
  · cases read
  · split at read
    · cases read
    · rename_i held isHeld
      cases read
      have apart := Table.nodup_readMarkdownBytes isHeld
      have leads : Function.Injective (leading ++ ·) := fun first second same =>
        (String.append_right_inj leading).mp same
      simpa [Sheet.rename, Function.comp_def] using apart.map leads

theorem callFile_commits
    (function : FileFunction)
    (site : CallSite)
    (arguments : List Value)
    (host : Host) :
    Commits (callFile function site arguments) host fun _ after =>
      host.StaysDistinct after := by
  cases function with
  | importCsv =>
      exact (Commits.lift _ host).read fun _ _ =>
        (Commits.lift _ host).read fun _ _ =>
          (Commits.lift _ host).read fun _ _ =>
            (Commits.look _ host).read fun _ _ =>
              (Commits.ask _ host).read fun sheet _ =>
                addImported_commits site _ sheet host
  | importParquet =>
      exact (Commits.lift _ host).read fun _ _ =>
        (Commits.lift _ host).read fun _ _ =>
          (Commits.lift _ host).read fun _ _ =>
            (Commits.ask _ host).read fun sheet _ =>
              addImported_commits site _ sheet host
  | importMarkdown =>
      exact (Commits.lift _ host).read fun _ _ =>
        (Commits.lift _ host).read fun _ _ =>
          (Commits.lift _ host).read fun leading _ =>
            (Commits.ask _ host).read fun sheets read =>
              addAllImported_commits site _
                (readDocument_apart read (leading.getD "")) host
  | exportCsv =>
      exact exportSheet_commits _ _ _ _ host
  | exportParquet =>
      exact exportSheet_commits _ _ _ _ host

end Builtin

/-- The books are the same. -/
def Host.SameBook (before after : Host) : Prop :=
  after.book = before.book

instance : IsPreorder Host Host.SameBook where
  refl _ := rfl
  trans _ _ _ first second := Eq.trans second first

theorem Host.reporting_sameBook : Host.Reporting Host.SameBook :=
  ⟨fun _ _ => rfl, fun _ _ => rfl⟩

/-- A call that fails leaves the book as it was, and no call gives
two sheets one name. -/
structure Settles (action : HostChange α) (host : Host) : Prop where
  unchanged :
    ∀ failure after, action host = .error failure after → after.book = host.book
  distinct : host.StaysDistinct (action host).state

theorem Settles.of_commits
    {action : HostChange α}
    {host : Host}
    (commits : Commits action host fun _ after => host.StaysDistinct after) :
    Settles action host where
  unchanged failure after failed := by
    rw [commits.unchanged failed]
  distinct := commits.state id fun _ _ distinct => distinct

/-- Functions of values, printing and the events of what is not supported
leave the book alone. -/
theorem Settles.of_sameBook
    {action : HostChange α}
    {host : Host}
    (same : (action host).state.book = host.book) :
    Settles action host where
  unchanged failure after failed := by
    rw [failed] at same
    exact same
  distinct := Host.staysDistinct_of_eq same

theorem callBuiltin_settles
    (builtin : Builtin)
    (site : CallSite)
    (arguments : List Value)
    {host : Host}
    (registered : host.DistinctRegistered) :
    Settles (callBuiltin builtin site arguments) host := by
  cases builtin with
  | core function =>
      exact .of_sameBook
        (Builtin.callCore_keeps Host.reporting_sameBook function site
          arguments host)
  | sheet function =>
      exact .of_commits (Builtin.callSheet_commits function arguments host)
  | book function =>
      exact .of_commits (Builtin.callBook_commits function arguments registered)
  | file function =>
      exact .of_commits (Builtin.callFile_commits function site arguments host)
  | _ =>
      exact .of_commits (Builtin.answer_commits _ host)

/-!
## Failed calls leave reachable books alone

A book that scripts can reach was made by calls of built-in functions, which may
also take sheets from registered books that scripts can reach. Whatever a script
does on a host with such books, the books stay reachable, and each of its calls
that fails leaves the book as it was.
-/

/-- The books that calls of built-in functions make of an empty book. -/
inductive ReachableBook : Book → Prop where
  | empty (id : Nat) (name : String) : ReachableBook (Book.empty id name)
  | call
      {host : Host}
      (reachable : ReachableBook host.book)
      (registered :
        ∀ registry,
          host.registry = some registry →
            ∀ entry ∈ registry.entries, ReachableBook entry.2)
      (builtin : Builtin)
      (site : CallSite)
      (arguments : List Value) :
      ReachableBook (callBuiltin builtin site arguments host).state.book

/-- Reachable books have distinct names of sheets. -/
theorem ReachableBook.distinct
    {book : Book}
    (reachable : ReachableBook book) :
    book.sheetNames.Nodup := by
  induction reachable with
  | empty id name =>
      exact List.nodup_nil
  | call _ _ builtin site arguments distinct registeredDistinct =>
      exact (callBuiltin_settles builtin site arguments registeredDistinct).distinct
        distinct

namespace Host

/-- All books of a host can be reached. -/
structure Reachable (host : Host) : Prop where
  book : ReachableBook host.book
  registered :
    ∀ registry,
      host.registry = some registry →
        ∀ entry ∈ registry.entries, ReachableBook entry.2

theorem Reachable.distinctRegistered
    {host : Host}
    (reachable : host.Reachable) :
    host.DistinctRegistered :=
  fun registry isRegistry entry member =>
    (reachable.registered registry isRegistry entry member).distinct

/-- A call leaves a reachable host, whether it fails or not. -/
theorem Reachable.call
    {host : Host}
    (reachable : host.Reachable)
    (builtin : Builtin)
    (site : CallSite)
    (arguments : List Value) :
    (callBuiltin builtin site arguments host).state.Reachable := by
  obtain ⟨_, sameRegistry⟩ :=
    sameSurroundings_callBuiltin builtin site arguments host
  refine ⟨.call reachable.book reachable.registered builtin site arguments, ?_⟩
  rw [sameRegistry]
  exact reachable.registered

/-- Events do not touch the books. -/
theorem Reachable.emit
    {host : Host}
    (reachable : host.Reachable)
    (event : Log.Event) :
    (host.emit event).Reachable :=
  ⟨reachable.book, reachable.registered⟩

end Host

/-- The host stays reachable. -/
def Machine.StaysReachable (before after : Machine) : Prop :=
  before.host.Reachable → after.host.Reachable

instance : IsPreorder Machine Machine.StaysReachable where
  refl _ := id
  trans _ _ _ first second := second ∘ first

theorem Machine.steady_staysReachable : Machine.Steady Machine.StaysReachable where
  ofEnv _ _ := id
  ofHost builtin site arguments _ reachable := reachable.call builtin site arguments
  ofDefine _ _ := id
  ofCall _ _ _ inside := inside

/-- Evaluation and execution keep all books reachable, however they end. -/
theorem reachable_evaluate_execute
    (fuel : Nat)
    {machine : Machine}
    (reachable : machine.host.Reachable) :
    (∀ e, (evaluate fuel e machine).state.host.Reachable) ∧
      ∀ statement, (execute fuel statement machine).state.host.Reachable := by
  obtain ⟨evaluates, executes⟩ := runs_keep Machine.steady_staysReachable fuel
  exact ⟨fun e => (evaluates e machine).2 reachable,
    fun statement => (executes statement machine).2 reachable⟩

/-- A run keeps all books reachable. -/
theorem Program.reachable_run
    (program : Program)
    (label : RunLabel)
    {host : Host}
    (reachable : host.Reachable)
    (env : Environment) :
    (program.run label host env).host.Reachable := by
  have started := reachable.emit (startedEvent label.id program host.book)
  have kept :=
    (grows_runProgram Machine.steady_staysReachable nestingBound program
      ⟨env, [], 0, host.emit (startedEvent label.id program host.book),
        label.id⟩).2 started
  simp only [Program.run]
  cases ran :
      runProgram nestingBound program
        ⟨env, [], 0, host.emit (startedEvent label.id program host.book),
          label.id⟩ with
  | ok done after =>
      rw [ran] at kept
      exact kept.emit _
  | error halt after =>
      rw [ran] at kept
      cases halt with
      | error e =>
          exact kept.emit _
      | _ =>
          exact kept

/--
A call of a built-in function that fails leaves the book exactly as it was.

This holds on every host with books that scripts can reach and for all
arguments: a function either fails before its first change of the
book, or it succeeds.
-/
theorem failed_call_keeps_book
    {host after : Host}
    (reachable : host.Reachable)
    (builtin : Builtin)
    (site : CallSite)
    (arguments : List Value)
    {failure : Failure Cause}
    (failed : callBuiltin builtin site arguments host = .error failure after) :
    after.book = host.book :=
  (callBuiltin_settles builtin site arguments
    reachable.distinctRegistered).unchanged failure after
    failed

namespace Host

/-- A host with a book to which empty sheets have been added. -/
def withSheets (names : List String) : Host :=
  names.foldl
    (fun host name =>
      (callBuiltin (.book .addEmptySheet) ⟨1, "run"⟩ [.string name] host).state)
    (.ofSettings (.ofList []))

theorem reachable_withSheets (names : List String) :
    (withSheets names).Reachable := by
  have start : (Host.ofSettings (.ofList [])).Reachable :=
    ⟨.empty _ _, fun _ isRegistry => nomatch isRegistry⟩
  exact List.foldlRecOn names _ start fun host reachable name _ =>
    reachable.call _ _ _

/-- A host with a sheet and a registered book, of which the second sheet
has the same name. -/
def clashing : Host :=
  { withSheets ["b"] with
    registry := some ⟨[("shared", (withSheets ["a", "b"]).book)]⟩ }

theorem reachable_clashing : clashing.Reachable := by
  refine ⟨(reachable_withSheets ["b"]).book,
    fun registry isRegistry entry member => ?_⟩
  cases isRegistry
  cases List.mem_singleton.mp member
  exact (reachable_withSheets ["a", "b"]).book

end Host

/-- A merge that fails at the second sheet does not add the first one. -/
theorem failed_call_keeps_book_clashing :
    Host.clashing.Reachable ∧
      ∃ after,
        callBuiltin (.book .merge) ⟨2, "run"⟩ [.string "shared"] Host.clashing =
            .error (.error (.sheet (.sheetExists "b"))) after ∧
          after.book = Host.clashing.book := by
  have failed :
      callBuiltin (.book .merge) ⟨2, "run"⟩ [.string "shared"] Host.clashing =
        .error (.error (.sheet (.sheetExists "b"))) Host.clashing := rfl
  exact ⟨Host.reachable_clashing, Host.clashing, failed,
    failed_call_keeps_book Host.reachable_clashing _ _ _ failed⟩

end GridScript.Script
