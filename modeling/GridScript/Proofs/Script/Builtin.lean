import GridScript.Proofs.Change
import GridScript.Script.Builtin.Call

namespace GridScript.Script

/-!
# What built-in functions keep

A built-in function changes its host in few ways: it changes the book or the
files, prints, and leaves events. Every relation between hosts that these keep
is kept by all built-in functions.
-/

/-- A relation between hosts that printing and events keep. -/
structure Host.Reporting (R : Host → Host → Prop) : Prop where
  ofPrint : ∀ text host, R host (host.print text)
  ofEvent : ∀ event host, R host (host.emit event)

/-- A relation between hosts that every way to change a host keeps. -/
structure Host.Steady (R : Host → Host → Prop) : Prop extends Host.Reporting R where
  ofBook : ∀ book host, R host { host with book := book }
  ofFiles : ∀ files host, R host { host with files := files }

namespace Builtin

variable {R : Host → Host → Prop} [IsPreorder Host R] (steady : Host.Steady R)

include steady

/-- A change of the book leaves the rest of the host as it is. -/
theorem editBook_keeps (change : BookChange α) : Keeps R (editBook change) :=
  (Keeps.look _).bind fun book => .onPart steady.ofBook book _

theorem editHeld_keeps (key : String) (change : Change Cause Sheet α) :
    Keeps R (editHeld key change) :=
  (Keeps.ask _).bind fun sheet =>
    .onPart (fun after host => steady.ofBook (host.book.store key after) host)
      sheet change

omit [IsPreorder Host R] steady in
theorem leaveEvent_keeps
    (reporting : Host.Reporting R)
    (event : Log.Event) :
    Keeps R (leaveEvent event) :=
  .modify fun host => reporting.ofEvent event host

theorem mutateSheet_keeps
    (function : String)
    (target : Value)
    (change : Change Cause Sheet Value) :
    Keeps R (mutateSheet function target change) :=
  (Keeps.look _).bind fun _ => (Keeps.lift _).bind fun key =>
    editHeld_keeps steady key change

theorem changeForRef_keeps (change : BookChange SheetRef) :
    Keeps R (changeForRef change) :=
  (editBook_keeps steady change).bind fun _ => .pure _

theorem replaceSheet_keeps (name : String) (sheet : Sheet) :
    Keeps R (replaceSheet name sheet) :=
  (editBook_keeps steady _).bind fun _ => (Keeps.ask _).bind fun _ => .pure _

theorem reshapeSheet_keeps
    (function : String)
    (target : Value)
    (newName : Option Value)
    (build : Sheet → Attempt Sheet) :
    Keeps R (reshapeSheet function target newName build) := by
  unfold reshapeSheet
  refine (Keeps.lift _).bind fun name => (Keeps.look _).bind fun book =>
    (Keeps.lift _).bind fun sheet => (Keeps.lift _).bind fun made => ?_
  cases name with
  | none =>
      exact replaceSheet_keeps steady sheet.name made
  | some name =>
      exact changeForRef_keeps steady _

omit steady in
theorem readSheet_keeps
    (function : String)
    (arity : Arity)
    (arguments : List Value)
    (read : Book → Sheet → Attempt Value) :
    Keeps R (readSheet function arity arguments read) :=
  (Keeps.lift _).bind fun _ => (Keeps.look _).bind fun _ =>
    (Keeps.lift _).bind fun _ => .lift _

omit steady in
/-- Functions of values do no more than print and leave events. -/
theorem callCore_keeps
    (reporting : Host.Reporting R)
    (function : CoreFunction)
    (site : CallSite)
    (arguments : List Value) :
    Keeps R (callCore function site arguments) := by
  refine (Keeps.look _).bind fun book => ?_
  cases function with
  | print =>
      have printed (text : String) :
          Keeps R (modify (·.print text) : HostChange PUnit) :=
        .modify fun host => reporting.ofPrint text host
      exact (printed _).bind fun _ => .pure _
  | typeOf =>
      refine (Keeps.lift _).bind fun _ => ?_
      split
      · exact .pure _
      · exact .stop _
  | isNull =>
      exact (Keeps.lift _).bind fun _ => .pure _
  | isArray =>
      exact (Keeps.lift _).bind fun _ => .pure _
  | range =>
      exact .lift _
  | format =>
      exact (Keeps.lift _).bind fun _ => (Keeps.lift _).bind fun _ => .pure _
  | evalFormula =>
      exact .lift _
  | unsupported feature =>
      exact (leaveEvent_keeps reporting _).bind fun _ => .stop _
  | _ =>
      exact (Keeps.lift _).bind fun _ => .lift _

theorem newSheet_keeps (arguments : List Value) : Keeps R (newSheet arguments) :=
  (Keeps.lift _).bind fun _ =>
    (Keeps.lift _).bind fun _ => (Keeps.lift _).bind fun _ =>
      (Keeps.lift _).bind fun _ => changeForRef_keeps steady _

theorem callSheet_keeps (function : SheetFunction) (arguments : List Value) :
    Keeps R (callSheet function arguments) := by
  have edits (name : String) (target : Value) (change : Change Cause Sheet Unit) :
      Keeps R (editSheet name target change) :=
    mutateSheet_keeps steady name target _
  cases function with
  | new =>
      exact newSheet_keeps steady arguments
  | set =>
      exact (Keeps.lift _).bind fun _ => edits _ _ _
  | setAddress =>
      exact (Keeps.lift _).bind fun _ => (Keeps.lift _).bind fun _ => edits _ _ _
  | setByName =>
      exact (Keeps.lift _).bind fun _ => (Keeps.lift _).bind fun _ => edits _ _ _
  | nameColumnsByRow =>
      exact (Keeps.lift _).bind fun _ => (Keeps.lift _).bind fun _ => edits _ _ _
  | nameRowsByColumn =>
      exact (Keeps.lift _).bind fun _ => (Keeps.lift _).bind fun _ => edits _ _ _
  | appendRow =>
      refine (Keeps.lift _).bind fun _ => ?_
      split
      · exact edits _ _ _
      · exact .stop _
  | transpose =>
      exact (Keeps.lift _).bind fun _ => reshapeSheet_keeps steady _ _ _ _
  | selectColumns =>
      exact (Keeps.lift _).bind fun _ => (Keeps.lift _).bind fun _ =>
        reshapeSheet_keeps steady _ _ _ _
  | removeColumns =>
      exact (Keeps.lift _).bind fun _ => (Keeps.lift _).bind fun _ =>
        reshapeSheet_keeps steady _ _ _ _
  | removeEmptyRows =>
      exact (Keeps.lift _).bind fun _ => mutateSheet_keeps steady _ _ _
  | _ =>
      exact readSheet_keeps _ _ _ _

theorem callBook_keeps (function : BookFunction) (arguments : List Value) :
    Keeps R (callBook function arguments) := by
  refine (Keeps.look _).bind fun book => ?_
  cases function with
  | sheetNames =>
      exact (Keeps.lift _).bind fun _ => .pure _
  | sheetCount =>
      exact (Keeps.lift _).bind fun _ => .pure _
  | hasSheet =>
      exact (Keeps.lift _).bind fun _ => (Keeps.lift _).bind fun _ => .pure _
  | getSheet =>
      exact (Keeps.lift _).bind fun _ => (Keeps.lift _).bind fun _ =>
        (Keeps.lift _).bind fun _ => .pure _
  | removeSheet =>
      exact (Keeps.lift _).bind fun _ => (Keeps.lift _).bind fun _ =>
        (editBook_keeps steady _).bind fun _ => .pure _
  | renameSheet =>
      exact (Keeps.lift _).bind fun _ => (Keeps.lift _).bind fun _ =>
        (Keeps.lift _).bind fun _ => changeForRef_keeps steady _
  | getSheetByIndex =>
      exact (Keeps.lift _).bind fun _ => (Keeps.lift _).bind fun _ =>
        (Keeps.lift _).bind fun _ => (Keeps.lift _).bind fun _ => .pure _
  | activeSheet =>
      refine (Keeps.lift _).bind fun _ => ?_
      split
      · exact (Keeps.lift _).bind fun _ => .pure _
      · exact .pure _
  | setActiveSheet =>
      exact (Keeps.lift _).bind fun _ => (Keeps.lift _).bind fun _ =>
        (editBook_keeps steady _).bind fun _ => .pure _
  | addEmptySheet =>
      exact (Keeps.lift _).bind fun _ => (Keeps.lift _).bind fun _ =>
        changeForRef_keeps steady _
  | consolidate =>
      exact (Keeps.lift _).bind fun _ => (Keeps.lift _).bind fun _ =>
        (Keeps.ask _).bind fun _ => changeForRef_keeps steady _
  | merge =>
      exact (Keeps.lift _).bind fun _ => (Keeps.lift _).bind fun _ =>
        (Keeps.ask _).bind fun _ => (editBook_keeps steady _).bind fun _ => .pure _

theorem addImported_keeps (site : CallSite) (path : String) (sheet : Sheet) :
    Keeps R (addImported site path sheet) :=
  (editBook_keeps steady _).bind fun _ =>
    (leaveEvent_keeps steady.toReporting _).bind fun _ => .pure _

theorem addAllImported_keeps
    (site : CallSite)
    (path : String)
    (sheets : List Sheet) :
    Keeps R (addAllImported site path sheets) := by
  refine (Keeps.look _).bind fun book => ?_
  refine (Keeps.forM sheets fun sheet _ => .require _ _).bind fun _ => ?_
  exact (Keeps.mapM sheets fun sheet _ => editBook_keeps steady _).bind fun refs =>
    (Keeps.forM sheets fun sheet _ => leaveEvent_keeps steady.toReporting _).bind
      fun _ => .pure _

theorem exportSheet_keeps
    (site : CallSite)
    (function : String)
    (arguments : List Value)
    (write : Files → Sheet → String → Except SheetError Files) :
    Keeps R (exportSheet site function arguments write) := by
  have stored (files : Files) : Keeps R (storeFiles files) :=
    .modify fun host => steady.ofFiles files host
  exact (Keeps.lift _).bind fun _ =>
    (Keeps.lift _).bind fun _ => (Keeps.look _).bind fun _ =>
      (Keeps.lift _).bind fun _ =>
        (Keeps.ask _).bind fun files => (stored files).bind fun _ =>
          (leaveEvent_keeps steady.toReporting _).bind fun _ => .pure _

theorem callFile_keeps
    (function : FileFunction)
    (site : CallSite)
    (arguments : List Value) :
    Keeps R (callFile function site arguments) := by
  cases function with
  | importCsv =>
      exact (Keeps.lift _).bind fun _ => (Keeps.lift _).bind fun _ =>
        (Keeps.lift _).bind fun _ =>
          (Keeps.look _).bind fun _ => (Keeps.ask _).bind fun _ =>
            addImported_keeps steady _ _ _
  | importParquet =>
      exact (Keeps.lift _).bind fun _ => (Keeps.lift _).bind fun _ =>
        (Keeps.lift _).bind fun _ => (Keeps.ask _).bind fun _ =>
          addImported_keeps steady _ _ _
  | importMarkdown =>
      exact (Keeps.lift _).bind fun _ => (Keeps.lift _).bind fun _ =>
        (Keeps.lift _).bind fun _ => (Keeps.ask _).bind fun _ =>
          addAllImported_keeps steady _ _ _
  | exportCsv =>
      exact exportSheet_keeps steady _ _ _ _
  | exportParquet =>
      exact exportSheet_keeps steady _ _ _ _

end Builtin

/-- Every built-in function keeps what all ways to change a host keep. -/
theorem callBuiltin_keeps
    {R : Host → Host → Prop}
    [IsPreorder Host R]
    (steady : Host.Steady R)
    (builtin : Builtin)
    (site : CallSite)
    (arguments : List Value) :
    Keeps R (callBuiltin builtin site arguments) := by
  cases builtin with
  | core function =>
      exact Builtin.callCore_keeps steady.toReporting function site arguments
  | sheet function =>
      exact Builtin.callSheet_keeps steady function arguments
  | book function =>
      exact Builtin.callBook_keeps steady function arguments
  | file function =>
      exact Builtin.callFile_keeps steady function site arguments
  | _ =>
      exact .lift _

/-- The settings and the registry are the same. -/
def Host.SameSurroundings (before after : Host) : Prop :=
  after.settings = before.settings ∧ after.registry = before.registry

instance : IsPreorder Host Host.SameSurroundings where
  refl _ := ⟨rfl, rfl⟩
  trans _ _ _ first second :=
    ⟨second.1.trans first.1, second.2.trans first.2⟩

/-- No built-in function changes the settings or the registry. -/
theorem sameSurroundings_callBuiltin
    (builtin : Builtin)
    (site : CallSite)
    (arguments : List Value)
    (host : Host) :
    host.SameSurroundings (callBuiltin builtin site arguments host).state := by
  have steady : Host.Steady Host.SameSurroundings :=
    ⟨⟨fun _ _ => ⟨rfl, rfl⟩, fun _ _ => ⟨rfl, rfl⟩⟩, fun _ _ => ⟨rfl, rfl⟩,
      fun _ _ => ⟨rfl, rfl⟩⟩
  exact callBuiltin_keeps steady builtin site arguments host

end GridScript.Script
