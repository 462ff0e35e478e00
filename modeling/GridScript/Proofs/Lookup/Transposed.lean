import GridScript.Proofs.Change
import GridScript.Proofs.Formula.Reads
import GridScript.Proofs.Lookup
import GridScript.Script.Builtin.Call

namespace GridScript.Lookup

/-!
# Lookups in transposed tables

A horizontal lookup searches the first row of a table and a vertical one its
first column. They do the same on a table and on its columns taken as rows:
the same value is found, or both fail with errors of one class, in scripts
as in formulas. No values are too disparate to be searched, not even
undefined numbers.
-/

variable {side : Side} {key : Value} {values : List Value}

/-! ## Offsets that are found -/

/-- The best candidate so far stands before a bound and lies on
the side of the key. -/
def Within (side : Side) (key : Value) (bound : Nat) : Option (Nat × Value) → Prop
  | none => True
  | some (i, v) => i < bound ∧ side.Reaches v key

/-- One step keeps the best candidate or takes the next one. -/
theorem Within.better
    {best : Option (Nat × Value)}
    {bound : Nat}
    (within : Within side key bound best)
    {i : Nat}
    (inside : i < bound)
    (v : Value) :
    ∃ next, better side key best (i, v) = .ok next ∧
      Within side key bound next := by
  unfold Lookup.better candidateOrder?
  cases ordered : v.order? key with
  | none =>
      exact ⟨best, rfl, within⟩
  | some o =>
      by_cases admitted : side.admits o = true
      · have reaches : side.Reaches v key := ⟨o, ordered, admitted⟩
        simp only [admitted, Bool.not_true, Bool.false_eq_true, if_false]
        cases best with
        | none =>
            exact ⟨_, rfl, inside, reaches⟩
        | some held =>
            obtain ⟨p, compared⟩ := reaches.exists_order within.2
            simp only [Value.compareValues, compared, Except.map]
            refine ⟨_, rfl, ?_⟩
            split
            · exact ⟨inside, reaches⟩
            · exact within
      · simp only [admitted, Bool.not_false, if_true]
        exact ⟨best, rfl, within⟩

theorem Within.foldlM
    {best : Option (Nat × Value)}
    {bound start : Nat}
    (within : Within side key bound best)
    (inside : start + values.length ≤ bound) :
    ∃ last,
      (numbered start values).foldlM (Lookup.better side key) best = .ok last ∧
      Within side key bound last := by
  induction values generalizing start best with
  | nil =>
      exact ⟨best, rfl, within⟩
  | cons v rest inductionHypothesis =>
      rw [List.length_cons] at inside
      have first : start < bound := by omega
      have later : start + 1 + rest.length ≤ bound := by omega
      obtain ⟨next, stepped, within⟩ := within.better first v
      obtain ⟨last, ran, within⟩ := inductionHypothesis within later
      refine ⟨last, ?_, within⟩
      rw [numbered, List.foldlM_cons, stepped]
      exact ran

/-- A search comes to an end, and what it finds is one of the values. -/
theorem find_within
    (key : Value)
    (exact : Bool)
    (values : List Value) :
    ∃ hit, find key exact values = .ok hit ∧ ∀ i ∈ hit, i < values.length := by
  cases exact with
  | true =>
      refine ⟨_, rfl, fun i isHit => ?_⟩
      exact (List.findIdx?_eq_some_iff_getElem.mp isHit).1
  | false =>
      have start : Within .below key values.length none := trivial
      obtain ⟨last, ran, within⟩ := start.foldlM (Nat.zero_add _).le
      refine ⟨last.map Prod.fst, ?_, fun i isHit => ?_⟩
      · exact congrArg (· >>= fun best => pure (best.map Prod.fst)) ran
      · obtain ⟨⟨j, v⟩, rfl, rfl⟩ := Option.map_eq_some_iff.mp isHit
        exact within.1

/-! ## Transposed tables -/

variable {rows : List (List Value)}

/-- The columns of a table, as rows. -/
def transposed (rows : List (List Value)) : List (List Value) :=
  (List.range (width rows)).map fun j => rows.map fun row => element row j

/-- The table of some rows. -/
def tableOf (rows : List (List Value)) : Value :=
  .array (rows.map .array)

theorem width_cons (first : List Value) (rest : List (List Value)) :
    width (first :: rest) = first.length :=
  rfl

/-- A table has rows, and they are equally long. -/
theorem table?_eq_some
    {table : Value}
    (isTable : table.table? = some rows) :
    rows ≠ [] ∧ ∀ row ∈ rows, row.length = width rows := by
  unfold Value.table? at isTable
  split at isTable
  next =>
    split at isTable
    next first rest are =>
      split at isTable
      next equal =>
        obtain rfl : first :: rest = rows := Option.some.inj isTable
        refine ⟨List.cons_ne_nil first rest, fun row member => ?_⟩
        rcases List.mem_cons.mp member with rfl | later
        · rfl
        · simpa [width_cons] using List.all_eq_true.mp equal row later
      next =>
        cases isTable
    next =>
      cases isTable
  next =>
    cases isTable

theorem table?_tableOf
    (someRow : rows ≠ [])
    (lengths : ∀ row ∈ rows, row.length = width rows) :
    (tableOf rows).table? = some rows := by
  obtain ⟨first, rest, rfl⟩ := List.exists_cons_of_ne_nil someRow
  have equal : (rest.all fun row => row.length == first.length) = true := by
    refine List.all_eq_true.mpr fun row later => ?_
    simpa [width_cons] using lengths row (List.mem_cons_of_mem first later)
  simp only [tableOf, Value.table?, rows?_map_array, equal, if_true]

theorem rowAt_transposed
    {j : Nat}
    (inColumns : j < width rows) :
    rowAt (transposed rows) j = rows.map fun row => element row j := by
  simp [rowAt, transposed, inColumns]

theorem element_transposed
    {i j : Nat}
    (inRows : i < rows.length)
    (inColumns : j < width rows) :
    element (rowAt (transposed rows) j) i = element (rowAt rows i) j := by
  rw [rowAt_transposed inColumns]
  simp [element, rowAt, inRows]

section Transposed

variable (someColumn : 1 ≤ width rows)

include someColumn

theorem transposed_ne_nil : transposed rows ≠ [] := by
  simp only [transposed, ne_eq, List.map_eq_nil_iff, List.range_eq_nil]
  omega

/-- The rows of the transposed table are as long as there were rows. -/
theorem width_transposed : width (transposed rows) = rows.length := by
  rw [width, rowAt_transposed someColumn, List.length_map]

theorem table?_transposed :
    (tableOf (transposed rows)).table? = some (transposed rows) := by
  refine table?_tableOf (transposed_ne_nil someColumn) fun row member => ?_
  obtain ⟨j, -, rfl⟩ := List.mem_map.mp member
  rw [width_transposed someColumn, List.length_map]

end Transposed

/-- The first row is the first column of the transposed table. -/
theorem firstColumn_transposed
    (someRow : rows ≠ []) :
    ((transposed rows).map fun row => element row 0) = rowAt rows 0 := by
  obtain ⟨first, rest, rfl⟩ := List.exists_cons_of_ne_nil someRow
  refine List.ext_getElem (by simp [transposed, width]) fun j _ inFirst => ?_
  have inRow : j < first.length := inFirst
  simp [transposed, element, rowAt, inRow]

/-! ## Lookups that do the same -/

/-- Errors of one class: about an argument, about a position outside the table,
or about a key that is not found. -/
inductive SameClass : OperationError → OperationError → Prop
  | arguments
      {function function' : String}
      {expected expected' : Expectation}
      {found found' : Option Finding} :
      SameClass (.arguments function expected found)
        (.arguments function' expected' found')
  | bounds {error error' : BoundsError} :
      SameClass (.bounds error) (.bounds error')
  | notFound {function function' key key' : String} :
      SameClass (.notFound function key) (.notFound function' key')

/-- The same value, or related failures. -/
inductive Alike (R : ε → ε → Prop) : Except ε α → Except ε α → Prop
  | value (a : α) : Alike R (.ok a) (.ok a)
  | failure {e e' : ε} (related : R e e') : Alike R (.error e) (.error e')

/-- Failures with related errors. -/
inductive Lifted (R : E → E → Prop) : Failure E → Failure E → Prop
  | error {e e' : E} (related : R e e') : Lifted R (.error e) (.error e')

theorem SameClass.lookupTag
    {error error' : OperationError}
    (same : SameClass error error') :
    Formula.lookupTag error = Formula.lookupTag error' := by
  cases same <;> rfl

/-- Failures of one kind that show the same tag in a cell. -/
def SameFault (error error' : Formula.EvalError) : Prop :=
  error.kindText = error'.kindText ∧ error.tag = error'.tag

theorem Alike.lift
    {R : E → E → Prop}
    {result result' : Except E α}
    (alike : Alike R result result') :
    Alike (Lifted R) (liftError result) (liftError result') := by
  cases alike with
  | value a =>
      exact .value a
  | failure related =>
      exact .failure (.error related)

/-- Lookups that are alike are alike in formulas. -/
theorem Alike.looked
    {function function' : Formula.Function}
    {result result' : Except OperationError Value}
    (alike : Alike SameClass result result') :
    Alike (Lifted SameFault)
      (Formula.looked function result) (Formula.looked function' result') := by
  cases alike with
  | value v =>
      exact .value v
  | failure same =>
      exact .failure (.error ⟨rfl, same.lookupTag⟩)

/-- Whether a position is an integer does not depend on who asks. -/
theorem requirePosition_cases (v : Value) :
    (∃ position, ∀ function what, requirePosition function v what = .ok position) ∨
      ∀ function what,
        requirePosition function v what =
          .error (.arguments function (.integer what) none) := by
  cases v with
  | int i =>
      exact .inl ⟨i, fun _ _ => rfl⟩
  | float x =>
      cases whole : Number.whole? x with
      | some i =>
          exact .inl ⟨i, fun _ _ => by simp only [requirePosition, whole]⟩
      | none =>
          exact .inr fun _ _ => by simp only [requirePosition, whole]
  | _ =>
      exact .inr fun _ _ => rfl

theorem offset_eq_error
    {function what : String}
    {position : Int}
    {extent : Nat}
    (outside : ¬(1 ≤ position ∧ position ≤ extent)) :
    offset function what position extent =
      .error (.bounds (.lookup function what position extent)) :=
  if_neg outside

section Tables

variable
  {table : Value}
  (isTable : table.table? = some rows)
  (someColumn : 1 ≤ width rows)

include isTable someColumn

/-- A horizontal lookup does what a vertical one does in the transposed table. -/
theorem hlookup_alike_vlookup (key place exact : Value) :
    Alike SameClass
      (hlookup key table place exact)
      (vlookup key (tableOf (transposed rows)) place exact) := by
  obtain ⟨someRow, -⟩ := table?_eq_some isTable
  rw [hlookup, vlookup, requireTable_eq_ok isTable,
    requireTable_eq_ok (table?_transposed someColumn), Except.ok_bind,
    Except.ok_bind]
  rcases requirePosition_cases place with ⟨position, isPosition⟩ | notInteger
  case inr =>
    rw [notInteger, notInteger]
    exact .failure .arguments
  rw [isPosition, isPosition, Except.ok_bind, Except.ok_bind,
    width_transposed someColumn, firstColumn_transposed someRow]
  by_cases inside : 1 ≤ position ∧ position ≤ rows.length
  case neg =>
    rw [offset_eq_error inside, offset_eq_error inside]
    exact .failure .bounds
  obtain ⟨hit, ran, within⟩ := find_within key exact.isTruthy (rowAt rows 0)
  rw [offset_eq_ok inside, offset_eq_ok inside, ran]
  cases hit with
  | none =>
      exact .failure .notFound
  | some j =>
      have inRows : (position - 1).toNat < rows.length := by omega
      have same := element_transposed inRows (within j rfl)
      show Alike _ (.ok _) (.ok (element _ _))
      rw [same]
      exact .value _

/-- The functions of scripts are alike with any number of further arguments. -/
theorem callLookup_alike
    (key place : Value)
    (rest : List Value) :
    Alike (Lifted SameClass)
      (Script.callLookup .hlookup (key :: table :: place :: rest))
      (Script.callLookup .vlookup
        (key :: tableOf (transposed rows) :: place :: rest)) := by
  have alike := hlookup_alike_vlookup isTable someColumn key place
  unfold Script.callLookup Script.checkArity
  by_cases accepted :
    Script.Arity.accepts (.between 3 4) (rest.length + 1 + 1 + 1) = true
  · simp only [List.length_cons, if_pos accepted]
    exact (alike _).lift
  · simp only [List.length_cons, if_neg accepted]
    exact .failure (.error .arguments)

/-- The functions of formulas are alike with and without a last argument. -/
theorem evaluate_call_alike
    {context : Formula.Context}
    {resolve : Formula.Resolver}
    {arguments arguments' : List Formula.Expression}
    {key place : Value}
    {sorted : Option Value}
    (given :
      List.Forall₂ (fun e v => e.evaluate context resolve = .ok v) arguments
        (key :: table :: place :: sorted.toList))
    (given' :
      List.Forall₂ (fun e v => e.evaluate context resolve = .ok v) arguments'
        (key :: tableOf (transposed rows) :: place :: sorted.toList)) :
    Alike (Lifted SameFault)
      ((Formula.Expression.call "HLOOKUP" arguments).evaluate context resolve)
      ((Formula.Expression.call "VLOOKUP" arguments').evaluate context
        resolve) := by
  have alike :=
    hlookup_alike_vlookup isTable someColumn key place (Formula.isExact sorted)
  have accepted (table : Value) :
      (Formula.Arity.between 3 4).accepts
        (key :: table :: place :: sorted.toList).length = true := by
    cases sorted <;> rfl
  rw [Formula.evaluate_call_eager .hlookup rfl rfl rfl (accepted _) given,
    Formula.evaluate_call_eager .vlookup rfl rfl rfl (accepted _) given']
  cases sorted with
  | none =>
      exact alike.looked
  | some flag =>
      exact alike.looked

/--
A horizontal lookup in a table is a vertical one in the transposed table, for
every key, position and flag: both give the same value, or both fail with errors
of one class. So are the functions of scripts with any number of further
arguments and the functions of formulas, whose failures have the same tag.
-/
theorem lookups_transposed :
    (∀ key place exact,
      Alike SameClass
        (hlookup key table place exact)
        (vlookup key (tableOf (transposed rows)) place exact)) ∧
      (∀ key place rest,
        Alike (Lifted SameClass)
          (Script.callLookup .hlookup (key :: table :: place :: rest))
          (Script.callLookup .vlookup
            (key :: tableOf (transposed rows) :: place :: rest))) ∧
      ∀ context resolve arguments arguments' key place (sorted : Option Value),
        List.Forall₂ (fun e v => e.evaluate context resolve = .ok v) arguments
            (key :: table :: place :: sorted.toList) →
          List.Forall₂ (fun e v => e.evaluate context resolve = .ok v) arguments'
              (key :: tableOf (transposed rows) :: place :: sorted.toList) →
            Alike (Lifted SameFault)
              ((Formula.Expression.call "HLOOKUP" arguments).evaluate context
                resolve)
              ((Formula.Expression.call "VLOOKUP" arguments').evaluate context
                resolve) := by
  refine ⟨hlookup_alike_vlookup isTable someColumn,
    callLookup_alike isTable someColumn, ?_⟩
  intro context resolve arguments arguments' key place sorted given given'
  exact evaluate_call_alike isTable someColumn given given'

end Tables

/-- Parts, how many there are, and where they lie. -/
def stock : List (List Value) :=
  [[.string "nut", .string "bolt"], [.int 4, .int 7],
    [.string "left", .string "right"]]

/-- The table and its transpose under names. -/
def stockNames : Formula.Context :=
  [("STOCK", tableOf stock), ("PARTS", tableOf (transposed stock))]

/-- The arguments of an exact lookup of bolts in a named table. -/
def boltsIn (name : String) (place : Int) : List Formula.Expression :=
  [.literal (.string "bolt"), .name name, .literal (.int place),
    .literal (.bool false)]

/-- Bolts are found across the table and down the transposed one, and neither
has a fourth place. -/
theorem lookups_transposed_stock :
    (tableOf stock).table? = some stock ∧
      hlookup (.string "bolt") (tableOf stock) (.int 2) (.bool true) =
        .ok (.int 7) ∧
      Alike SameClass
        (hlookup (.string "bolt") (tableOf stock) (.int 2) (.bool true))
        (vlookup (.string "bolt") (tableOf (transposed stock)) (.int 2)
          (.bool true)) ∧
      (Formula.Expression.call "HLOOKUP" (boltsIn "STOCK" 4)).evaluate stockNames
          (Formula.noResolver stockNames) =
        Formula.faultIn .hlookup (.lookup (.bounds (.lookup "hlookup" "row" 4 3))) ∧
      Alike (Lifted SameFault)
        ((Formula.Expression.call "HLOOKUP" (boltsIn "STOCK" 4)).evaluate stockNames
          (Formula.noResolver stockNames))
        ((Formula.Expression.call "VLOOKUP" (boltsIn "PARTS" 4)).evaluate stockNames
          (Formula.noResolver stockNames)) := by
  have isTable : (tableOf stock).table? = some stock := rfl
  obtain ⟨alike, -, inFormulas⟩ := lookups_transposed isTable (by decide)
  refine ⟨isTable, rfl, alike _ _ _, rfl, ?_⟩
  exact inFormulas _ _ _ _ (.string "bolt") (.int 4) (some (.bool false))
    (.cons rfl (.cons rfl (.cons rfl (.cons rfl .nil))))
    (.cons rfl (.cons rfl (.cons rfl (.cons rfl .nil))))

end GridScript.Lookup
