import GridScript.Proofs.Script.Guards
import GridScript.Proofs.Script.Places

namespace GridScript.Script

/-!
# The values of arguments

An argument by value is evaluated like any expression. An argument by reference
that has the form of a place is read in another way: its indexes are evaluated
first, and then the value of the variable is walked down. The two ways agree on
elements of arrays, however deep, but the second one knows no characters of
texts, no rows of sheets and nothing that is not in a variable.
-/

namespace Expression

/-- What is indexed in the end. -/
def root : Expression → Expression
  | index target _ _ => target.root
  | e => e

/-- The indexes, from the inside out. -/
def indexes : Expression → List Expression
  | index target i _ => target.indexes ++ [i]
  | _ => []

theorem spine_eq (e : Expression) (outer : List Expression) :
    e.spine outer = (e.root, e.indexes ++ outer) := by
  fun_induction spine e outer with
  | case1 target i line outer inductionHypothesis =>
      simp [root, indexes, inductionHypothesis]
  | case2 e outer notIndex =>
      cases e with
      | index target i line =>
          exact (notIndex target i line rfl).elim
      | _ =>
          rfl

end Expression

/-- An expression names a place: a variable, or an element of an array at a
place. -/
inductive Machine.HasPlace
    (machine : Machine)
    (fuel : Nat) : Expression → Prop where
  | name
      (variableName : String)
      (line : Nat) :
      HasPlace machine fuel (.name variableName line)
  | element
      {target i : Expression}
      {line : Nat}
      {items : List Value}
      {between : Machine}
      (inside : HasPlace machine fuel target)
      (isArray : evaluate fuel target machine = .ok (.array items) between) :
      HasPlace machine fuel (.index target i line)

section Reading

variable
  {machine after : Machine}
  {fuel line : Nat}
  {e target i : Expression}
  {v : Value}

/-- An action at a line succeeds if the action does. -/
theorem atLine_eq_ok
    {action : Action α}
    {a : α}
    (ran : Action.atLine line action machine = .ok a after) :
    action machine = .ok a after := by
  unfold Action.atLine at ran
  cases inside : action machine with
  | ok b between =>
      rw [inside] at ran
      cases ran
      rfl
  | error halt between =>
      rw [inside] at ran
      cases ran

/-- An index into something has a value if its parts have, and the one
has an element there. -/
theorem evaluate_index_eq_ok
    (ran : evaluate fuel (.index target i line) machine = .ok v after) :
    ∃ container between index,
      evaluate fuel target machine = .ok container between ∧
        evaluate fuel i between = .ok index after ∧
          elementOf after.host.book container index = .ok v := by
  cases fuel with
  | zero =>
      cases ran
  | succ fuel =>
      have stepped :
          (evaluate fuel target >>= fun container =>
            evaluate fuel i >>= fun index =>
              get >>= fun machine : Machine =>
                Action.ofAttempt (some line)
                  (elementOf machine.host.book container index))
              machine =
            .ok v after :=
        atLine_eq_ok ran
      have bounded := Nat.le_succ fuel
      obtain ⟨container, between, targetRan, stepped⟩ := Change.bind_eq_ok stepped
      obtain ⟨index, last, indexRan, stepped⟩ := Change.bind_eq_ok stepped
      rw [Change.get_bind] at stepped
      refine ⟨container, between, index, evaluate_of_le bounded targetRan, ?_⟩
      cases found : elementOf last.host.book container index with
      | ok w =>
          rw [found] at stepped
          cases stepped
          exact ⟨evaluate_of_le bounded indexRan, found⟩
      | error failure =>
          rw [found] at stepped
          cases stepped

/-- A variable that has a value is visible. -/
theorem evaluate_name_eq_ok
    {name : String}
    (ran : evaluate fuel (.name name line) machine = .ok v after) :
    machine.env.find? name = some v ∧ after = machine := by
  cases fuel with
  | zero =>
      cases ran
  | succ fuel =>
      have read : Action.readVariable name line machine = .ok v after :=
        atLine_eq_ok ran
      cases found : machine.env.find? name with
      | some held =>
          rw [Action.readVariable_of_find? found] at read
          cases read
          exact ⟨rfl, rfl⟩
      | none =>
          rw [Action.readVariable_of_hidden found] at read
          cases read

/-- An index into an array is a path of one step. -/
theorem readAt_of_elementOf
    {book : Book}
    {items : List Value}
    {index : Value}
    (found : elementOf book (.array items) index = .ok v) :
    readAt (.array items) [index] = .ok v := by
  cases named : position items.length index with
  | ok j =>
      simp only [elementOf, named] at found
      cases found
      exact readAt_array named []
  | error failure =>
      simp only [elementOf, named] at found
      cases found

/-- No path goes into what is no array. -/
theorem readAt_of_not_array
    (notArray : ∀ items, v ≠ .array items)
    (index : Value)
    (path : List Value) :
    readAt v (index :: path) = fail (kindError .indexInto v) := by
  cases v with
  | array items =>
      exact (notArray items rfl).elim
  | _ =>
      rfl

/-- An expression over a variable that has a value is read along its
indexes if it names a place, and else a step of the way goes into
something that is no array. -/
theorem readAt_indexes
    {name : String}
    {rootLine : Nat}
    (isRoot : e.root = .name name rootLine)
    (ran : evaluate fuel e machine = .ok v after) :
    ∃ path held,
      e.indexes.mapM (evaluate fuel) machine = .ok path after ∧
        machine.env.find? name = some held ∧
          (machine.HasPlace fuel e → readAt held path = .ok v) ∧
            (¬ machine.HasPlace fuel e →
              ∃ w, (∀ items, w ≠ .array items) ∧
                readAt held path = fail (kindError .indexInto w)) := by
  fun_induction Expression.root e generalizing v after with
  | case1 target i line inductionHypothesis =>
      obtain ⟨container, between, index, targetRan, indexRan, found⟩ :=
        evaluate_index_eq_ok ran
      -- Both ways evaluate the indexes in one order: the last index is the last
      -- step of the path.
      obtain ⟨path, held, indexesRan, holds, reads, stops⟩ :=
        inductionHypothesis isRoot targetRan
      refine ⟨path ++ [index], held, ?_, holds, fun hasPlace => ?_,
        fun noPlace => ?_⟩
      · rw [Expression.indexes, List.mapM_append, Change.bind_of_ok indexesRan,
          List.mapM_cons]
        exact Change.bind_of_ok ((Change.bind_of_ok indexRan).trans rfl)
      · cases hasPlace with
        | element inside isArray =>
            cases targetRan.symm.trans isArray
            rw [readAt_append, reads inside]
            exact readAt_of_elementOf found
      · by_cases inside : machine.HasPlace fuel target
        · have notArray : ∀ items, container ≠ .array items := by
            rintro items rfl
            exact noPlace (.element inside targetRan)
          refine ⟨container, notArray, ?_⟩
          rw [readAt_append, reads inside]
          exact readAt_of_not_array notArray index []
        · obtain ⟨w, notArray, stopped⟩ := stops inside
          refine ⟨w, notArray, ?_⟩
          rw [readAt_append, stopped]
          rfl
  | case2 e notIndex =>
      subst isRoot
      obtain ⟨holds, rfl⟩ := evaluate_name_eq_ok ran
      exact ⟨[], v, rfl, holds, fun _ => rfl,
        fun noPlace => (noPlace (.name name rootLine)).elim⟩

/-- A place is in a variable. -/
theorem Machine.HasPlace.exists_root (hasPlace : machine.HasPlace fuel e) :
    ∃ name line, e.root = .name name line := by
  induction hasPlace with
  | name name line =>
      exact ⟨name, line, rfl⟩
  | element inside isArray inductionHypothesis =>
      exact inductionHypothesis

/-- What is over a variable has the form of a place. -/
theorem Expression.isPlace_of_root
    {name : String}
    {rootLine : Nat}
    (isRoot : e.root = .name name rootLine) :
    e.isPlace = true := by
  cases e with
  | name held line =>
      rfl
  | index target i line =>
      rfl
  | _ =>
      cases isRoot

end Reading

namespace Action

variable
  {machine after : Machine}
  {fuel : Nat}
  {parameter : Parameter}
  {argument : Expression}
  {v : Value}

/-- An argument whose form does not matter is evaluated. -/
theorem bindArgument_of_value
    (evaluated : evaluate fuel argument machine = .ok v after)
    (apart : ¬ (parameter.mode = .byReference ∧ argument.isPlace = true))
    (binding : Binding) :
    bindArgument (evaluate fuel) parameter argument binding machine =
      .ok (binding.bind parameter v) after := by
  rw [bindArgument, if_neg apart]
  exact Change.bind_of_ok evaluated

/-- An argument over a variable is read at the path of its indexes. -/
theorem bindArgument_of_root
    {name : String}
    {rootLine : Nat}
    {path : List Value}
    {held : Value}
    (byReference : parameter.mode = .byReference)
    (isRoot : argument.root = .name name rootLine)
    (indexesRan : argument.indexes.mapM (evaluate fuel) machine = .ok path after)
    (holds : after.env.find? name = some held)
    (binding : Binding) :
    bindArgument (evaluate fuel) parameter argument binding machine =
      match readAt held path with
      | .ok v => .ok (binding.bindPlace parameter name path v) after
      | .error failure =>
          .error (.ofFailure (some argument.line) (failure.map .operation))
            after := by
  have placed :
      evaluatePlace (evaluate fuel) argument machine = .ok (name, path) after := by
    rw [evaluatePlace, Expression.spine_eq, isRoot, List.append_nil]
    exact Change.bind_of_ok indexesRan
  rw [bindArgument, if_pos ⟨byReference, Expression.isPlace_of_root isRoot⟩,
    Change.bind_of_ok placed]
  have read := readPlace_of_find? holds path argument.line
  cases found : readAt held path with
  | ok v =>
      rw [found] at read
      exact Change.bind_of_ok read
  | error failure =>
      rw [found] at read
      exact Change.bind_of_error read

/-- An argument in the form of a place that is in no variable is refused
before anything runs. -/
theorem bindArgument_of_no_root
    (byReference : parameter.mode = .byReference)
    (isPlace : argument.isPlace = true)
    (noRoot : ∀ name line, argument.root ≠ .name name line)
    (evaluate : Expression → Action Value)
    (binding : Binding)
    (machine : Machine) :
    bindArgument evaluate parameter argument binding machine =
      .error (.error ⟨.runtime .assignmentTarget, some argument.line⟩) machine := by
  have refused :
      evaluatePlace evaluate argument machine =
        .error (.error ⟨.runtime .assignmentTarget, some argument.line⟩)
          machine := by
    rw [evaluatePlace, Expression.spine_eq]
    cases isRoot : argument.root with
    | name name line =>
        exact (noRoot name line isRoot).elim
    | _ =>
        rfl
  rw [bindArgument, if_pos ⟨byReference, isPlace⟩]
  exact Change.bind_of_error refused

end Action

/-- What a parameter by reference makes of an argument that has a value: in
which cases it gets the value, and why it does not get it in the others. -/
structure Machine.BindsByReference
    (machine : Machine)
    (fuel : Nat)
    (parameter : Parameter)
    (argument : Expression)
    (binding : Binding)
    (v : Value) : Prop where
  /-- Other parameters get the value. -/
  byValue :
    ∀ other : Parameter, other.mode ≠ .byReference →
      Action.bindArgument (evaluate fuel) other argument binding machine =
        .ok (binding.bind other v) machine
  /-- So does this one, unless the argument has the form of a
  place and names none. -/
  binds :
    (argument.isPlace = true → machine.HasPlace fuel argument) →
      ∃ bound,
        Action.bindArgument (evaluate fuel) parameter argument binding machine =
            .ok bound machine ∧
          bound.scope = (binding.bind parameter v).scope
  /-- An index into what is no variable in the end is an error. -/
  noVariable :
    argument.isPlace = true → (∀ name line, argument.root ≠ .name name line) →
      Action.bindArgument (evaluate fuel) parameter argument binding machine =
        .error (.error ⟨.runtime .assignmentTarget, some argument.line⟩) machine
  /-- An index over a variable into what is no array is an error. -/
  noArray :
    ∀ name line, argument.root = .name name line →
      ¬ machine.HasPlace fuel argument → ∃ w, (∀ items, w ≠ .array items) ∧
        Action.bindArgument (evaluate fuel) parameter argument binding machine =
          .error (.error ⟨.operation (kindError .indexInto w), some argument.line⟩)
            machine

/--
A parameter by reference gets the value of its argument if the
argument names a place.

An argument that has a value and whose evaluation changes nothing is bound to a
parameter by reference like to any other one if it does not have the form of a
place, or if it names a variable or an element of an array at a place. Every
other index is refused, although it has a value.
-/
theorem bindsByReference
    {machine : Machine}
    {fuel : Nat}
    {parameter : Parameter}
    {argument : Expression}
    {v : Value}
    (byReference : parameter.mode = .byReference)
    (evaluated : evaluate fuel argument machine = .ok v machine)
    (binding : Binding) :
    machine.BindsByReference fuel parameter argument binding v where
  byValue other mode :=
    Action.bindArgument_of_value evaluated (fun both => mode both.1) binding
  binds named := by
    by_cases isPlace : argument.isPlace = true
    · obtain ⟨name, line, isRoot⟩ := (named isPlace).exists_root
      obtain ⟨path, held, indexesRan, holds, reads, -⟩ :=
        readAt_indexes isRoot evaluated
      have bound :=
        Action.bindArgument_of_root byReference isRoot indexesRan holds binding
      rw [reads (named isPlace)] at bound
      exact ⟨_, bound, rfl⟩
    · exact ⟨_,
        Action.bindArgument_of_value evaluated (fun both => isPlace both.2) binding,
        rfl⟩
  noVariable isPlace noRoot :=
    Action.bindArgument_of_no_root byReference isPlace noRoot (evaluate fuel)
      binding machine
  noArray name line isRoot noPlace := by
    obtain ⟨path, held, indexesRan, holds, -, stops⟩ :=
      readAt_indexes isRoot evaluated
    obtain ⟨w, notArray, stopped⟩ := stops noPlace
    have refused :=
      Action.bindArgument_of_root byReference isRoot indexesRan holds binding
    rw [stopped] at refused
    exact ⟨w, notArray, refused⟩

/-- A parameter by reference. -/
def Parameter.shared : Parameter :=
  ⟨"a", .byReference, none, 1⟩

/-- A machine with an array in an array. -/
def Machine.withNested : Machine :=
  (Machine.start (Settings.ofList [])).mapEnv
    (·.declare "xs" (.array [.int 1, .array [.int 2, .int 3]]))

/-- An element of the inner array gets to the parameter. -/
theorem bindsByReference_inner :
    ∃ bound,
      Action.bindArgument (evaluate 4) .shared
          (.index (.index (.name "xs" 3) (.literal (.int 1) 3) 3)
            (.literal (.int 0) 3) 3) .empty
          .withNested =
        .ok bound .withNested ∧
      bound.scope = [("a", .int 2)] := by
  have outer :
      evaluate 4 (.name "xs" 3) .withNested =
        .ok (.array [.int 1, .array [.int 2, .int 3]]) .withNested :=
    rfl
  have inner :
      evaluate 4 (.index (.name "xs" 3) (.literal (.int 1) 3) 3) .withNested =
        .ok (.array [.int 2, .int 3]) .withNested :=
    rfl
  exact (bindsByReference rfl rfl .empty).binds fun _ =>
    .element (.element (.name "xs" 3) outer) inner

/-- A function with a parameter by reference that gives it back, and one that
gives back an array. -/
def Machine.withArrayFunction : Machine :=
  ((Machine.start (Settings.ofList [])).define
      ⟨"f", [.shared], [.giveBack (some (.name "a" 2)) 2]⟩).define
    ⟨"g", [],
      [.giveBack (some (.array [.literal (.int 1) 5, .literal (.int 2) 5] 5)) 5]⟩

/-- An element of the array that a call gives back is a value, and
still no argument. -/
theorem element_of_call_is_refused :
    evaluate 6 (.index (.call "g" [] 7) (.literal (.int 0) 7) 7)
      .withArrayFunction =
        .ok (.int 1) .withArrayFunction ∧
      Action.bindArgument (evaluate 6) .shared
          (.index (.call "g" [] 7) (.literal (.int 0) 7) 7) .empty
          .withArrayFunction =
        .error (.error ⟨.runtime .assignmentTarget, some 7⟩) .withArrayFunction ∧
      evaluate 7 (.call "f" [.index (.call "g" [] 7) (.literal (.int 0) 7) 7] 7)
          .withArrayFunction =
        .error (.error ⟨.runtime .assignmentTarget, some 7⟩) .withArrayFunction :=
  ⟨rfl, rfl, rfl⟩

end GridScript.Script
