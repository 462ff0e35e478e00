import GridScript.Proofs.Formula.Containment
import GridScript.Proofs.Script.Containment.Function
import GridScript.Script.Builtin.Call

namespace GridScript.Script

/-!
# Built-in functions that stay within the number formats

What a built-in function may breach is a property of the function alone:
`Builtin.MayBreach`. Applied to values whose integers fit it gives such a value,
or fails with a cause or a breach of its own.
-/

open GridScript.Number

variable {admits : Breach → Prop}

/-! ## The host -/

theorem operation_contained
    {P : α → Prop}
    {result : Outcome OperationError α}
    (contained : Contained admits P result) :
    Contained admits P (operation result) :=
  contained.mapError _

theorem onSheet_contained
    {P : α → Prop}
    {result : Outcome SheetError α}
    (contained : Contained admits P result) :
    Contained admits P (onSheet result) :=
  contained.mapError _

theorem textArgument_contained (function : String) (v : Value) (what : String) :
    Contained admits (fun _ => True) (textArgument function v what) :=
  operation_contained (stringArgument_contained function v what)

theorem nameArgument_contained (function what : String) (given : Option Value) :
    Contained admits (fun _ => True) (nameArgument function what given) := by
  cases given with
  | none =>
      exact .ok trivial
  | some v =>
      exact (textArgument_contained function v what).map fun _ _ => trivial

theorem checkCount_contained
    (function : String)
    (arity : Arity)
    (arguments : List Value) :
    Contained admits (fun _ => True) (checkCount function arity arguments) :=
  operation_contained (checkArity_contained function arity arguments)

theorem integerArgument_contained (function : String) (v : Value) (what : String) :
    Contained admits (fun _ => True) (operation (intArgument function v what)) :=
  operation_contained (intArgument_contained function v what)

theorem sheetKey_contained (book : Book) (function : String) (v : Value) :
    Contained admits (fun _ => True) (sheetKey book function v) := by
  unfold sheetKey
  split
  · exact (onSheet_contained (book.resolve_contained _)).bind fun _ _ =>
      .pure trivial
  · exact (onSheet_contained (book.get_contained _)).bind fun _ _ => .pure trivial
  · exact .fail _

theorem resolveSheet_contained (book : Book) (function : String) (v : Value) :
    Contained admits (fun _ => True) (resolveSheet book function v) :=
  (sheetKey_contained book function v).bind fun key _ =>
    onSheet_contained (book.get_contained key)

theorem narrow_cells (cells : List Cell) : (arrayOfCells cells).Narrow admits := by
  refine .array fun v member => ?_
  obtain ⟨cell, -, rfl⟩ := List.mem_map.mp member
  exact cell.narrow_toValue

theorem narrow_grid (rows : List (List Cell)) :
    (arrayOfRows rows).Narrow admits := by
  refine .array fun v member => ?_
  obtain ⟨row, -, rfl⟩ := List.mem_map.mp member
  exact narrow_cells row

theorem editBook_contained
    {P : α → Prop}
    {change : BookChange α}
    (contained : Change.Contained admits P change) :
    Change.Contained admits P (editBook change) :=
  (Upholds.look _).bind fun _ _ => (contained.mapError _).onPart _ _

theorem editHeld_contained
    {P : α → Prop}
    {change : Change Cause Sheet α}
    (contained : Change.Contained admits P change)
    (key : String) :
    Change.Contained admits P (editHeld key change) :=
  (Upholds.ask fun host => onSheet_contained (host.book.get_contained key)).bind
    fun _ _ =>
      contained.onPart _ _

theorem leaveEvent_contained (event : Log.Event) :
    Change.Contained admits (fun _ => True) (leaveEvent event) :=
  .modify fun _ _ => trivial

theorem changeForRef_contained
    {change : BookChange SheetRef}
    (contained : Change.Contained admits (fun _ => True) change) :
    Change.Contained admits (Value.Narrow admits) (changeForRef change) :=
  (editBook_contained contained).bind fun ref _ => .pure (.sheet ref)

/-! ## Core functions -/

/-- The breaches that a core function comes to. -/
def CoreFunction.MayBreach : CoreFunction → Breach → Prop
  | .length, b | .keys, b | .range, b => b = .overflow
  | .evalFormula, b => Formula.MayBreach b
  | _, _ => False

theorem evaluateFormula_contained
    (admitted : ∀ b, Formula.MayBreach b → admits b)
    (text : String)
    (sheet : Option Sheet)
    (book : Book) :
    Contained admits (Value.Narrow admits) (evaluateFormula text sheet book) := by
  have resolved : ∀ resolve,
      (sheet.map fun current => Formula.resolverOn current (some book)) =
          some resolve →
        resolve.Contained admits := by
    intro resolve found
    obtain ⟨current, -, rfl⟩ := Option.map_eq_some_iff.mp found
    exact Formula.resolverOn_contained (fun _ _ => admitted _ trivial) current
      (some book)
  exact ((Formula.evaluate_contained admitted [] resolved text).mapError _).mono
    fun v _ =>
      Formula.narrow admitted v

theorem callFormula_contained
    (admitted : ∀ b, Formula.MayBreach b → admits b)
    (book : Book)
    (arguments : List Value) :
    Contained admits (Value.Narrow admits) (callFormula book arguments) := by
  refine (checkCount_contained _ _ _).bind fun _ _ =>
    (textArgument_contained _ _ _).bind fun text _ => ?_
  have evaluates (sheet : Option Sheet) :=
    evaluateFormula_contained admitted text sheet book
  dsimp only
  split
  · exact ((resolveSheet_contained _ _ _).map (Q := fun _ => True) fun _ _ =>
      trivial).bind
      fun sheet _ => evaluates sheet
  · exact evaluates none

theorem makeRange_contained
    (admitted : admits .overflow)
    (arguments : List Value) :
    Contained admits (Value.Narrow admits) (makeRange arguments) := by
  refine (checkArity_contained _ _ _).bind fun _ _ =>
    (Meets.mapM arguments fun v _ => intArgument_contained "range" v "bound").bind
      fun bounds _ => ?_
  dsimp only
  split
  · exact .fail _
  · split
    · exact .breach admitted
    · split
      · exact .fail _
      · exact .pure (Value.narrow_of_admits admitted _)

theorem lengthOf_contained
    (admitted : admits .overflow)
    (book : Book)
    (v : Value) :
    Contained admits (Value.Narrow admits) (lengthOf book v) := by
  have count (n : Nat) : (Value.int n).Narrow admits :=
    Value.narrow_of_admits admitted _
  unfold lengthOf
  split
  · exact .ok (count _)
  · exact .ok (count _)
  · exact (onSheet_contained (book.resolve_contained _)).bind fun _ _ =>
      .pure (count _)
  · exact .fail _

theorem keysOf_contained
    (admitted : admits .overflow)
    (book : Book)
    (v : Value) :
    Contained admits (Value.Narrow admits) (keysOf book v) := by
  unfold keysOf
  split
  next items =>
    exact .pure (Value.narrow_of_admits admitted _)
  next =>
    refine (resolveSheet_contained _ _ _).bind fun sheet _ => ?_
    split
    · exact .pure (narrow_texts _)
    · exact .fail _
  next =>
    refine (resolveSheet_contained _ _ _).bind fun sheet _ => ?_
    split
    · exact .pure (narrow_texts _)
    · exact .fail _
  next =>
    exact .fail _

theorem valuesOf_contained
    {v : Value}
    (narrow : v.Narrow admits)
    (book : Book) :
    Contained admits (Value.Narrow admits) (valuesOf book v) := by
  unfold valuesOf
  split
  · exact .pure narrow
  · exact (resolveSheet_contained _ _ _).bind fun _ _ => .pure (narrow_grid _)
  · exact (resolveSheet_contained _ _ _).bind fun _ _ => .pure (narrow_grid _)
  · exact .fail _

theorem callCore_contained
    {function : CoreFunction}
    (admitted : ∀ b, function.MayBreach b → admits b)
    (site : CallSite)
    {arguments : List Value}
    (narrow : ∀ v ∈ arguments, v.Narrow admits) :
    Change.Contained admits (Value.Narrow admits)
      (callCore function site arguments) := by
  have first := narrow_argument narrow 0
  refine (Upholds.look _).bind fun book _ => ?_
  cases function with
  | print =>
      exact (Upholds.modify fun _ _ => trivial).bind fun _ _ => .pure .null
  | length =>
      exact (Upholds.lift (checkCount_contained _ _ _)).bind fun _ _ =>
        .lift (lengthOf_contained (admitted _ rfl) book _)
  | typeOf =>
      refine (Upholds.lift (checkCount_contained _ _ _)).bind fun _ _ => ?_
      split
      · exact .pure (.string _)
      · exact .stop _
  | isNull | isArray =>
      exact (Upholds.lift (checkCount_contained _ _ _)).bind fun _ _ =>
        .pure (.bool _)
  | keys =>
      exact (Upholds.lift (checkCount_contained _ _ _)).bind fun _ _ =>
        .lift (keysOf_contained (admitted _ rfl) book _)
  | values =>
      exact (Upholds.lift (checkCount_contained _ _ _)).bind fun _ _ =>
        .lift (valuesOf_contained first book)
  | range =>
      exact
        .lift (operation_contained (makeRange_contained (admitted _ rfl) arguments))
  | format =>
      exact (Upholds.lift (checkCount_contained _ _ _)).bind fun _ _ =>
        (Upholds.lift (textArgument_contained _ _ _)).bind fun _ _ =>
          .pure (.string _)
  | evalFormula =>
      exact .lift (callFormula_contained admitted book arguments)
  | unsupported feature =>
      exact (leaveEvent_contained _).bind fun _ _ => .stop _

/-! ## Sheet functions -/

/-- The breaches that a sheet function comes to. -/
def SheetFunction.MayBreach : SheetFunction → Breach → Prop
  | .rows, b | .columns, b | .removeEmptyRows, b => b = .overflow
  | .getAddress, b | .setAddress, b | .getRange,
    b => ∃ digits, b = .longInteger digits
  | .eval, b => Formula.MayBreach b
  | _, _ => False

theorem mutateSheet_contained
    {P : Value → Prop}
    {change : Change Cause Sheet Value}
    (contained : Change.Contained admits P change)
    (function : String)
    (target : Value) :
    Change.Contained admits P (mutateSheet function target change) :=
  (Upholds.look _).bind fun book _ =>
    (Upholds.lift (sheetKey_contained book _ _)).bind
    fun _ _ => editHeld_contained contained _

theorem editSheet_contained
    {change : Change Cause Sheet Unit}
    (contained : Change.Contained admits (fun _ => True) change)
    (function : String)
    (target : Value) :
    Change.Contained admits (Value.Narrow admits)
      (editSheet function target change) :=
  mutateSheet_contained (contained.bind fun _ _ => .pure .null) function target

theorem reshapeSheet_contained
    {build : Sheet → Attempt Sheet}
    (contained : ∀ sheet, Contained admits (fun _ => True) (build sheet))
    (function : String)
    (target : Value)
    (newName : Option Value) :
    Change.Contained admits (Value.Narrow admits)
      (reshapeSheet function target newName build) := by
  refine (Upholds.lift (nameArgument_contained _ _ _)).bind fun name _ =>
    (Upholds.look _).bind fun book _ =>
      (Upholds.lift (resolveSheet_contained book _ _)).bind fun sheet _ =>
        (Upholds.lift (contained sheet)).bind fun made _ => ?_
  split
  · exact (editBook_contained (Book.replace_contained _ _)).bind fun _ _ =>
      (Upholds.ask fun host => onSheet_contained (host.book.ref_contained _)).bind
        fun ref _ =>
          .pure (.sheet ref)
  · exact changeForRef_contained (Book.add_contained _ _)

theorem readSheet_contained
    {read : Book → Sheet → Attempt Value}
    (contained :
      ∀ book sheet, Contained admits (Value.Narrow admits) (read book sheet))
    (function : String)
    (arity : Arity)
    (arguments : List Value) :
    Change.Contained admits (Value.Narrow admits)
      (readSheet function arity arguments read) :=
  (Upholds.lift (checkCount_contained _ _ _)).bind fun _ _ =>
    (Upholds.look _).bind fun book _ =>
      (Upholds.lift (resolveSheet_contained book _ _)).bind fun sheet _ =>
        .lift (contained book sheet)

theorem rowArgument_contained (sheet : Sheet) (function : String) (v : Value) :
    Contained admits (fun _ => True) (rowArgument sheet function v) := by
  unfold rowArgument
  split
  · exact (onSheet_contained (sheet.rowPosition_contained _)).bind fun _ _ =>
      .pure trivial
  · exact integerArgument_contained _ _ _

theorem columnArgument_contained (sheet : Sheet) (function : String) (v : Value) :
    Contained admits (fun _ => True) (columnArgument sheet function v) := by
  unfold columnArgument
  split
  · exact (onSheet_contained (sheet.columnPosition_contained _)).bind fun _ _ =>
      .pure trivial
  · exact integerArgument_contained _ _ _

theorem namesArgument_contained (function : String) (v : Value) :
    Contained admits (fun _ => True) (namesArgument function v) := by
  unfold namesArgument
  dsimp only
  split
  · split
    · exact .ok trivial
    · exact .fail _
  · exact .fail _

theorem gridArgument_contained
    {v : Value}
    (narrow : v.Narrow admits)
    (function : String) :
    Contained admits (fun rows => ∀ row ∈ rows, ∀ w ∈ row, w.Narrow admits)
      (gridArgument function v) := by
  unfold gridArgument
  split
  next items =>
    split
    next rows are =>
      exact .ok (Value.narrow_rows (Value.narrow_array.mp narrow) are)
    next =>
      exact .fail _
  next =>
    exact .fail _

theorem newSheet_contained
    {arguments : List Value}
    (narrow : ∀ v ∈ arguments, v.Narrow admits) :
    Change.Contained admits (Value.Narrow admits) (newSheet arguments) := by
  have grid :
      Contained admits (fun rows => ∀ row ∈ rows, ∀ w ∈ row, w.Narrow admits)
      (optionalGrid "sheet_new" arguments[1]?) := by
    cases given : arguments[1]? with
    | none =>
        exact .ok nofun
    | some v =>
        exact gridArgument_contained (narrow v (List.mem_of_getElem? given)) _
  exact (Upholds.lift (checkCount_contained _ _ _)).bind fun _ _ =>
    (Upholds.lift (textArgument_contained _ _ _)).bind fun name _ =>
      (Upholds.lift grid).bind fun rows each =>
        (Upholds.lift (onSheet_contained (Sheet.ofGrid_contained each _ _ _))).bind
          fun sheet _ =>
            changeForRef_contained (Book.add_contained name sheet)

theorem callSheet_contained
    {function : SheetFunction}
    (admitted : ∀ b, function.MayBreach b → admits b)
    {arguments : List Value}
    (narrow : ∀ v ∈ arguments, v.Narrow admits) :
    Change.Contained admits (Value.Narrow admits)
      (callSheet function arguments) := by
  have third := narrow_argument narrow 2
  have fourth := narrow_argument narrow 3
  have countOf (overflows : admits .overflow) (n : Nat) :
      (Value.int n).Narrow admits :=
    .int (.inr overflows)
  cases function with
  | new =>
      exact newSheet_contained narrow
  | rows | columns =>
      exact readSheet_contained
        (fun _ sheet => .ok (countOf (admitted _ rfl) _)) _ _ _
  | get =>
      exact readSheet_contained (fun _ sheet =>
        (rowArgument_contained _ _ _).bind fun _ _ =>
          (columnArgument_contained _ _ _).bind
          fun _ _ =>
            (onSheet_contained (sheet.get_contained _ _)).bind fun cell _ =>
              .pure cell.narrow_toValue) _ _ _
  | set =>
      refine (Upholds.lift (checkCount_contained _ _ _)).bind fun _ _ =>
        editSheet_contained ?_ _ _
      exact (Upholds.ask fun sheet => rowArgument_contained sheet _ _).bind
        fun _ _ =>
          (Upholds.ask fun sheet => columnArgument_contained sheet _ _).bind
            fun _ _ =>
              (Sheet.set_contained fourth _ _).mapError _
  | getAddress =>
      exact readSheet_contained (fun _ sheet =>
        (textArgument_contained _ _ _).bind fun _ _ =>
          (onSheet_contained
            (sheet.getAddress_contained (fun n _ => admitted _ ⟨n, rfl⟩) _)).bind
            fun cell _ => .pure cell.narrow_toValue) _ _ _
  | setAddress =>
      exact (Upholds.lift (checkCount_contained _ _ _)).bind fun _ _ =>
        (Upholds.lift (textArgument_contained _ _ _)).bind fun _ _ =>
          editSheet_contained
            ((Sheet.setAddress_contained (fun n _ => admitted _ ⟨n, rfl⟩) third
              _).mapError _) _ _
  | getByName =>
      exact readSheet_contained (fun _ sheet =>
        (rowArgument_contained _ _ _).bind fun _ _ =>
          (textArgument_contained _ _ _).bind
          fun _ _ =>
            (onSheet_contained (sheet.getByName_contained _ _)).bind fun cell _ =>
              .pure cell.narrow_toValue) _ _ _
  | setByName =>
      refine (Upholds.lift (checkCount_contained _ _ _)).bind fun _ _ =>
        (Upholds.lift (textArgument_contained _ _ _)).bind fun _ _ =>
          editSheet_contained ?_ _ _
      exact (Upholds.ask fun sheet => rowArgument_contained sheet _ _).bind
        fun _ _ =>
          (Sheet.setByName_contained fourth _ _).mapError _
  | getRange =>
      exact readSheet_contained (fun _ sheet =>
        (textArgument_contained _ _ _).bind fun _ _ =>
          (onSheet_contained
            (sheet.getRange_contained (fun n _ => admitted _ ⟨n, rfl⟩) _)).bind
            fun _ _ => .pure (narrow_grid _)) _ _ _
  | nameColumnsByRow =>
      exact (Upholds.lift (checkCount_contained _ _ _)).bind fun _ _ =>
        (Upholds.lift (integerArgument_contained _ _ _)).bind fun _ _ =>
          editSheet_contained ((Sheet.nameColumnsByRow_contained _).mapError _) _ _
  | nameRowsByColumn =>
      exact (Upholds.lift (checkCount_contained _ _ _)).bind fun _ _ =>
        (Upholds.lift (integerArgument_contained _ _ _)).bind fun _ _ =>
          editSheet_contained ((Sheet.nameRowsByColumn_contained _).mapError _) _ _
  | columnNames =>
      refine readSheet_contained (fun _ sheet => .ok ?_) _ _ _
      cases sheet.columnNames with
      | none =>
          exact .null
      | some names =>
          exact narrow_texts names
  | column =>
      exact readSheet_contained (fun _ sheet =>
        (columnArgument_contained _ _ _).bind fun _ _ =>
          (onSheet_contained (sheet.column_contained _)).bind fun _ _ =>
            .pure (narrow_cells _)) _ _ _
  | row =>
      exact readSheet_contained (fun _ sheet =>
        (rowArgument_contained _ _ _).bind fun _ _ =>
          (onSheet_contained (sheet.row_contained _)).bind fun _ _ =>
            .pure (narrow_cells _)) _ _ _
  | toArray =>
      exact readSheet_contained (fun _ sheet => .ok (narrow_grid _)) _ _ _
  | appendRow =>
      refine (Upholds.lift (checkCount_contained _ _ _)).bind fun _ _ => ?_
      have second := narrow_argument narrow 1
      split
      next values isArray =>
        rw [isArray] at second
        exact editSheet_contained
          ((Sheet.appendRow_contained (Value.narrow_array.mp second)).mapError _) _
          _
      next =>
        exact .stop _
  | transpose =>
      exact (Upholds.lift (checkCount_contained _ _ _)).bind fun _ _ =>
        reshapeSheet_contained (fun _ => .ok trivial) _ _ _
  | selectColumns =>
      exact (Upholds.lift (checkCount_contained _ _ _)).bind fun _ _ =>
        (Upholds.lift (namesArgument_contained _ _)).bind fun _ _ =>
          reshapeSheet_contained
            (fun sheet => onSheet_contained (sheet.selectColumns_contained _)) _ _ _
  | removeColumns =>
      exact (Upholds.lift (checkCount_contained _ _ _)).bind fun _ _ =>
        (Upholds.lift (namesArgument_contained _ _)).bind fun _ _ =>
          reshapeSheet_contained
            (fun sheet => onSheet_contained (sheet.removeColumns_contained _)) _ _ _
  | removeEmptyRows =>
      exact (Upholds.lift (checkCount_contained _ _ _)).bind fun _ _ =>
        mutateSheet_contained
          ((Sheet.removeEmptyRows_contained.mapError _).bind fun _ _ =>
            .pure (countOf (admitted _ rfl) _)) _ _
  | eval =>
      exact readSheet_contained (fun book sheet =>
        (textArgument_contained _ _ _).bind fun text _ =>
          evaluateFormula_contained admitted text (some sheet) book) _ _ _

/-! ## Book functions -/

/-- The breaches that a book function comes to. -/
def BookFunction.MayBreach : BookFunction → Breach → Prop
  | .sheetCount, b | .merge, b => b = .overflow
  | _, _ => False

theorem registeredBook_contained (host : Host) (name : String) :
    Contained admits (fun _ => True) (registeredBook host name) := by
  unfold registeredBook
  split
  · exact .fail _
  · split
    · exact .fail _
    · exact .ok trivial

theorem callBook_contained
    {function : BookFunction}
    (admitted : ∀ b, function.MayBreach b → admits b)
    (arguments : List Value) :
    Change.Contained admits (Value.Narrow admits)
      (callBook function arguments) := by
  have countOf (overflows : admits .overflow) (n : Nat) :
      (Value.int n).Narrow admits :=
    .int (.inr overflows)
  refine (Upholds.look _).bind fun book _ => ?_
  cases function with
  | sheetNames =>
      exact (Upholds.lift (checkCount_contained _ _ _)).bind fun _ _ =>
        .pure (narrow_texts _)
  | sheetCount =>
      exact (Upholds.lift (checkCount_contained _ _ _)).bind fun _ _ =>
        .pure (countOf (admitted _ rfl) _)
  | hasSheet =>
      exact (Upholds.lift (checkCount_contained _ _ _)).bind fun _ _ =>
        (Upholds.lift (textArgument_contained _ _ _)).bind fun _ _ =>
          .pure (.bool _)
  | getSheet =>
      exact (Upholds.lift (checkCount_contained _ _ _)).bind fun _ _ =>
        (Upholds.lift (textArgument_contained _ _ _)).bind fun _ _ =>
          (Upholds.lift (onSheet_contained (book.ref_contained _))).bind fun _ _ =>
            .pure (.sheet _)
  | removeSheet =>
      exact (Upholds.lift (checkCount_contained _ _ _)).bind fun _ _ =>
        (Upholds.lift (textArgument_contained _ _ _)).bind fun _ _ =>
          (editBook_contained (Book.remove_contained _)).bind fun _ _ => .pure .null
  | renameSheet =>
      exact (Upholds.lift (checkCount_contained _ _ _)).bind fun _ _ =>
        (Upholds.lift (textArgument_contained _ _ _)).bind fun _ _ =>
          (Upholds.lift (textArgument_contained _ _ _)).bind fun _ _ =>
            changeForRef_contained (Book.renameSheet_contained _ _)
  | getSheetByIndex =>
      exact (Upholds.lift (checkCount_contained _ _ _)).bind fun _ _ =>
        (Upholds.lift (integerArgument_contained _ _ _)).bind fun _ _ =>
          (Upholds.lift (onSheet_contained (book.getByIndex_contained _))).bind
            fun _ _ =>
              (Upholds.lift (onSheet_contained (book.ref_contained _))).bind
                fun _ _ =>
                  .pure (.sheet _)
  | activeSheet =>
      refine (Upholds.lift (checkCount_contained _ _ _)).bind fun _ _ => ?_
      split
      · exact (Upholds.lift (onSheet_contained (book.ref_contained _))).bind
          fun _ _ =>
            .pure (.sheet _)
      · exact .pure .null
  | setActiveSheet =>
      exact (Upholds.lift (checkCount_contained _ _ _)).bind fun _ _ =>
        (Upholds.lift (textArgument_contained _ _ _)).bind fun _ _ =>
          (editBook_contained (Book.setActive_contained _)).bind fun _ _ =>
            .pure .null
  | addEmptySheet =>
      exact (Upholds.lift (checkCount_contained _ _ _)).bind fun _ _ =>
        (Upholds.lift (textArgument_contained _ _ _)).bind fun _ _ =>
          changeForRef_contained (Book.add_contained _ _)
  | consolidate =>
      exact (Upholds.lift (checkCount_contained _ _ _)).bind fun _ _ =>
        (Upholds.lift (nameArgument_contained _ _ _)).bind fun _ _ =>
          (Upholds.ask fun host =>
            onSheet_contained (host.book.consolidate_contained _)).bind
            fun _ _ => changeForRef_contained (Book.add_contained _ _)
  | merge =>
      exact (Upholds.lift (checkCount_contained _ _ _)).bind fun _ _ =>
        (Upholds.lift (textArgument_contained _ _ _)).bind fun _ _ =>
          (Upholds.ask fun host => registeredBook_contained host _).bind fun _ _ =>
            (editBook_contained (Book.merge_contained _)).bind fun _ _ =>
              .pure (countOf (admitted _ rfl) _)

/-! ## File functions -/

theorem addImported_contained (site : CallSite) (path : String) (sheet : Sheet) :
    Change.Contained admits (Value.Narrow admits) (addImported site path sheet) :=
  (editBook_contained (Book.add_contained _ _)).bind fun _ _ =>
    (leaveEvent_contained _).bind fun _ _ => .pure (.sheet _)

theorem addAllImported_contained
    (site : CallSite)
    (path : String)
    (sheets : List Sheet) :
    Change.Contained admits (Value.Narrow admits)
      (addAllImported site path sheets) := by
  refine (Upholds.look _).bind fun book _ =>
    (Upholds.forM sheets fun sheet _ => .require _ _).bind fun _ _ =>
      (Upholds.mapM sheets fun sheet _ =>
        editBook_contained (Book.add_contained _ sheet)).bind
        fun refs _ =>
          (Upholds.forM sheets fun sheet _ => leaveEvent_contained _).bind
          fun _ _ => .pure (.array fun v member => ?_)
  obtain ⟨ref, -, rfl⟩ := List.mem_map.mp member
  exact .sheet ref

theorem exportSheet_contained
    (site : CallSite)
    (function : String)
    (arguments : List Value)
    (write : Files → Sheet → String → Except SheetError Files) :
    Change.Contained admits (Value.Narrow admits)
      (exportSheet site function arguments write) :=
  (Upholds.lift (checkCount_contained _ _ _)).bind fun _ _ =>
    (Upholds.lift (textArgument_contained _ _ _)).bind fun _ _ =>
      (Upholds.look _).bind
      fun book _ => (Upholds.lift (resolveSheet_contained book _ _)).bind fun _ _ =>
        (Upholds.ask fun _ => onSheet_contained (.liftError (Meets.any _))).bind
          fun _ _ =>
            (Upholds.modify fun _ _ => trivial).bind fun _ _ =>
              (leaveEvent_contained _).bind fun _ _ => .pure .null

theorem readDocument_contained (files : Files) (path : String) :
    Contained admits (fun _ => True) (readDocument files path) := by
  unfold readDocument
  split
  · exact .fail _
  · split
    · exact .fail _
    · exact .ok trivial

theorem callFile_contained
    (function : FileFunction)
    (site : CallSite)
    (arguments : List Value) :
    Change.Contained admits (Value.Narrow admits)
      (callFile function site arguments) := by
  cases function with
  | importCsv =>
      exact (Upholds.lift (checkCount_contained _ _ _)).bind fun _ _ =>
        (Upholds.lift (textArgument_contained _ _ _)).bind fun _ _ =>
          (Upholds.lift (nameArgument_contained _ _ _)).bind fun _ _ =>
            (Upholds.look _).bind fun _ _ =>
              (Upholds.ask fun _ =>
                onSheet_contained (.liftError (Meets.any _))).bind
                fun _ _ => addImported_contained _ _ _
  | importParquet =>
      exact (Upholds.lift (checkCount_contained _ _ _)).bind fun _ _ =>
        (Upholds.lift (textArgument_contained _ _ _)).bind fun _ _ =>
          (Upholds.lift (nameArgument_contained _ _ _)).bind fun _ _ =>
            (Upholds.ask fun host =>
              onSheet_contained (host.files.readFrame_contained _ _)).bind
              fun _ _ => addImported_contained _ _ _
  | importMarkdown =>
      exact (Upholds.lift (checkCount_contained _ _ _)).bind fun _ _ =>
        (Upholds.lift (textArgument_contained _ _ _)).bind fun _ _ =>
          (Upholds.lift (nameArgument_contained _ _ _)).bind fun _ _ =>
            (Upholds.ask fun host => readDocument_contained host.files _).bind
              fun _ _ => addAllImported_contained _ _ _
  | exportCsv | exportParquet =>
      exact exportSheet_contained _ _ _ _

/-! ## All functions -/

/-- The breaches that a built-in function comes to. -/
def Builtin.MayBreach : Builtin → Breach → Prop
  | .core function => function.MayBreach
  | .math function => function.MayBreach
  | .text function => function.MayBreach
  | .lookup function => function.MayBreach
  | .sheet function => function.MayBreach
  | .book function => function.MayBreach
  | .file _ => fun _ => False

/-- A built-in function whose breaches are admitted is contained. -/
theorem callBuiltin_contained
    {builtin : Builtin}
    (admitted : ∀ b, builtin.MayBreach b → admits b)
    (site : CallSite)
    {arguments : List Value}
    (narrow : ∀ v ∈ arguments, v.Narrow admits) :
    Change.Contained admits (Value.Narrow admits)
      (callBuiltin builtin site arguments) := by
  cases builtin with
  | core function =>
      exact callCore_contained admitted site narrow
  | math function =>
      exact .lift (operation_contained (callMath_contained narrow admitted))
  | text function =>
      exact .lift (operation_contained (callText_contained narrow admitted))
  | lookup function =>
      exact .lift (operation_contained (callLookup_contained narrow admitted))
  | sheet function =>
      exact callSheet_contained admitted narrow
  | book function =>
      exact callBook_contained admitted arguments
  | file function =>
      exact callFile_contained function site arguments

end GridScript.Script
