import GridScript.Proofs.Script.Bindings
import GridScript.Proofs.Script.Steps

namespace GridScript.Script

/-!
# Reading and writing at places

Reading walks down a path of indexes, and writing builds new arrays along it.
Both succeed on the same paths. What is written at a path is read at every path
that names the same positions, and a path that leaves it at some position does
not notice the write.
-/

/-- The positions that a path names in a value, from the outside in; none
where it leads nowhere. -/
def positions? : Value → List Value → Option (List Nat)
  | _, [] => some []
  | .array items, index :: path =>
      match position items.length index with
      | .ok i => (positions? (items.getD i .null) path).map (i :: ·)
      | .error _ => none
  | _, _ :: _ => none

/-- Another path leaves a path in a value: at some level, with the same
positions before it, it does not name the position that the path names there. -/
inductive Leaves : Value → List Value → List Value → Prop where
  | here
      {items : List Value}
      {index other : Value}
      {path rest : List Value}
      {i : Nat}
      (names : position items.length index = .ok i)
      (differs : position items.length other ≠ .ok i) :
      Leaves (.array items) (index :: path) (other :: rest)
  | deeper
      {items : List Value}
      {index other : Value}
      {path rest : List Value}
      {i : Nat}
      (names : position items.length index = .ok i)
      (same : position items.length other = .ok i)
      (leaves : Leaves (items.getD i .null) path rest) :
      Leaves (.array items) (index :: path) (other :: rest)

/-- A position in a list is within its length. -/
theorem position_lt
    {length i : Nat}
    {index : Value}
    (names : position length index = .ok i) :
    i < length := by
  cases index with
  | int j =>
      simp only [position] at names
      generalize (if j < 0 then j + (length : Int) else j) = place at names
      by_cases inside : 0 ≤ place ∧ place < length
      · rw [if_pos inside] at names
        cases names
        omega
      · rw [if_neg inside] at names
        cases names
  | _ =>
      cases names

section Paths

variable {v w new old : Value} {items path other : List Value} {index : Value}

/-- Reading at a path is reading at its beginning and then at its rest. -/
theorem readAt_append (v : Value) (path rest : List Value) :
    readAt v (path ++ rest) = readAt v path >>= fun inner => readAt inner rest := by
  induction path generalizing v with
  | nil =>
      rfl
  | cons index path inductionHypothesis =>
      cases v with
      | array items =>
          show (position items.length index >>= fun i =>
              readAt (items.getD i .null) (path ++ rest)) =
            (position items.length index >>= fun i =>
              readAt (items.getD i .null) path) >>= _
          cases position items.length index with
          | ok i =>
              exact inductionHypothesis (items.getD i .null)
          | error failure =>
              rfl
      | _ =>
          rfl

/-- What is read below an index is read in an element of an array. -/
theorem readAt_cons_eq_ok
    (read : readAt v (index :: path) = .ok old) :
    ∃ items i, v = .array items ∧ position items.length index = .ok i ∧
      readAt (items.getD i .null) path = .ok old := by
  cases v with
  | array items =>
      obtain ⟨i, names, inner⟩ := Except.bind_eq_ok read
      exact ⟨items, i, rfl, names, inner⟩
  | _ =>
      cases read

/-- What is written below an index is written in an element of an array. -/
theorem writeAt_cons_eq_ok
    (written : writeAt v (index :: path) new = .ok w) :
    ∃ items i inner, v = .array items ∧ position items.length index = .ok i ∧
      writeAt (items.getD i .null) path new = .ok inner ∧
        w = .array (items.set i inner) := by
  cases v with
  | array items =>
      obtain ⟨i, names, written⟩ := Except.bind_eq_ok written
      obtain ⟨inner, inside, written⟩ := Except.bind_eq_ok written
      cases written
      exact ⟨items, i, inner, rfl, names, inside, rfl⟩
  | _ =>
      cases written

theorem readAt_array
    {i : Nat}
    (names : position items.length index = .ok i)
    (path : List Value) :
    readAt (.array items) (index :: path) = readAt (items.getD i .null) path := by
  rw [readAt, names]
  rfl

theorem writeAt_array
    {i : Nat}
    {inner : Value}
    (names : position items.length index = .ok i)
    (written : writeAt (items.getD i .null) path new = .ok inner) :
    writeAt (.array items) (index :: path) new =
      .ok (.array (items.set i inner)) := by
  rw [writeAt, names]
  show (writeAt (items.getD i .null) path new >>= _) = _
  rw [written]
  rfl

/-- Where there is something to read a new value can be written. -/
theorem writeAt_of_readAt
    (read : readAt v path = .ok old)
    (new : Value) :
    ∃ w, writeAt v path new = .ok w := by
  induction path generalizing v with
  | nil =>
      exact ⟨new, rfl⟩
  | cons index path inductionHypothesis =>
      obtain ⟨items, i, rfl, names, inner⟩ := readAt_cons_eq_ok read
      obtain ⟨changed, written⟩ := inductionHypothesis inner
      exact ⟨_, writeAt_array names written⟩

/-- Where something has been written there was something to read. -/
theorem readAt_of_writeAt
    (written : writeAt v path new = .ok w) :
    ∃ old, readAt v path = .ok old := by
  induction path generalizing v w with
  | nil =>
      exact ⟨v, rfl⟩
  | cons index path inductionHypothesis =>
      obtain ⟨items, i, inner, rfl, names, inside, rfl⟩ :=
        writeAt_cons_eq_ok written
      obtain ⟨old, read⟩ := inductionHypothesis inside
      exact ⟨old, by rw [readAt_array names, read]⟩

/-- Writing what is read changes nothing. -/
theorem writeAt_readAt
    (read : readAt v path = .ok old) :
    writeAt v path old = .ok v := by
  induction path generalizing v with
  | nil =>
      exact read.symm
  | cons index path inductionHypothesis =>
      obtain ⟨items, i, rfl, names, inner⟩ := readAt_cons_eq_ok read
      have inside := position_lt names
      rw [writeAt_array names (inductionHypothesis inner),
        List.getD_eq_getElem?_getD, List.getElem?_eq_getElem inside,
        Option.getD_some, List.set_getElem_self]

/-- The element at a position that was written is what was written there. -/
theorem getD_set_self
    {i : Nat}
    (inside : i < items.length)
    (v : Value) :
    (items.set i v).getD i .null = v := by
  simp [List.getD_eq_getElem?_getD, inside]

theorem getD_set_of_ne
    {i j : Nat}
    (different : j ≠ i)
    (v : Value) :
    (items.set i v).getD j .null = items.getD j .null := by
  simp [List.getD_eq_getElem?_getD, List.getElem?_set_ne different.symm]

/-- A path without positions is empty. -/
theorem path_of_positions_nil
    (names : positions? v path = some []) :
    path = [] := by
  cases path with
  | nil =>
      rfl
  | cons index rest =>
      cases v with
      | array items =>
          simp only [positions?] at names
          split at names
          · obtain ⟨_, _, absurdity⟩ := Option.map_eq_some_iff.mp names
            cases absurdity
          · cases names
      | _ =>
          cases names

/-- The first position of a path is the one that its first index
names in an array. -/
theorem path_of_positions_cons
    {i : Nat}
    {positions : List Nat}
    (names : positions? v path = some (i :: positions)) :
    ∃ items index rest, v = .array items ∧ path = index :: rest ∧
      position items.length index = .ok i ∧
      positions? (items.getD i .null) rest = some positions := by
  cases path with
  | nil =>
      simp [positions?] at names
  | cons index rest =>
      cases v with
      | array items =>
          simp only [positions?] at names
          split at names
          next j named =>
            obtain ⟨_, inner, shape⟩ := Option.map_eq_some_iff.mp names
            cases shape
            exact ⟨items, index, rest, rfl, rfl, named, inner⟩
          next =>
            cases names
      | _ =>
          cases names

/-- A path at which there is something to read names positions. -/
theorem positions?_of_readAt
    (read : readAt v path = .ok old) :
    ∃ positions, positions? v path = some positions := by
  induction path generalizing v with
  | nil =>
      exact ⟨[], by cases v <;> rfl⟩
  | cons index path inductionHypothesis =>
      obtain ⟨items, i, rfl, names, inner⟩ := readAt_cons_eq_ok read
      obtain ⟨positions, inside⟩ := inductionHypothesis inner
      exact
        ⟨i :: positions, by simp only [positions?, names, inside, Option.map_some]⟩

/-- What is written at a path is read wherever the same positions are named. -/
theorem readAt_writeAt_of_positions
    {positions : List Nat}
    (written : writeAt v path new = .ok w)
    (names : positions? v path = some positions)
    (same : positions? v other = some positions) :
    readAt w other = .ok new := by
  induction positions generalizing v w path other with
  | nil =>
      obtain rfl := path_of_positions_nil names
      obtain rfl := path_of_positions_nil same
      exact written.symm
  | cons i positions inductionHypothesis =>
      obtain ⟨items, index, rest, rfl, rfl, named, inner⟩ :=
        path_of_positions_cons names
      obtain ⟨_, otherIndex, otherRest, shape, rfl, otherNamed, otherInner⟩ :=
        path_of_positions_cons same
      cases shape
      obtain ⟨_, j, changed, shape, named', inside, rfl⟩ :=
        writeAt_cons_eq_ok written
      cases shape
      obtain rfl : i = j := Except.ok.inj (named.symm.trans named')
      have bound := position_lt named
      rw [readAt_array (by simpa using otherNamed), getD_set_self bound]
      exact inductionHypothesis inside inner otherInner

example :
    writeAt (.array [.int 1, .array [.int 2, .int 3]]) [.int 1, .int (-1)]
        (.int 9) =
      .ok (.array [.int 1, .array [.int 2, .int 9]]) :=
  rfl

/-- A path that leaves the path of a write reads what it read before,
or fails as before. -/
theorem readAt_writeAt_of_leaves
    (written : writeAt v path new = .ok w)
    (leaves : Leaves v path other) :
    readAt w other = readAt v other := by
  induction leaves generalizing w with
  | @here items index other path rest i names differs =>
      obtain ⟨_, j, inner, shape, named, _, rfl⟩ := writeAt_cons_eq_ok written
      cases shape
      obtain rfl : i = j := Except.ok.inj (names.symm.trans named)
      rw [readAt, readAt, List.length_set]
      cases otherNamed : position items.length other with
      | ok j =>
          have different : j ≠ i :=
            fun isSame => differs (by rw [otherNamed, isSame])
          show readAt ((items.set i inner).getD j .null) rest =
            readAt (items.getD j .null) rest
          rw [getD_set_of_ne different]
      | error failure =>
          rfl
  | @deeper items index other path rest i names same leaves inductionHypothesis =>
      obtain ⟨_, j, inner, shape, named, inside, rfl⟩ := writeAt_cons_eq_ok written
      cases shape
      obtain rfl : i = j := Except.ok.inj (names.symm.trans named)
      rw [readAt_array (by simpa using same), getD_set_self (position_lt names),
        readAt_array same]
      exact inductionHypothesis inside

/-- The arrays along the path of a write keep their lengths. -/
theorem length_writeAt
    {before rest : List Value}
    (written : writeAt v (before ++ index :: rest) new = .ok w) :
    ∃ items changed, readAt v before = .ok (.array items) ∧
      readAt w before = .ok (.array changed) ∧ changed.length = items.length := by
  induction before generalizing v w with
  | nil =>
      obtain ⟨items, i, inner, rfl, _, _, rfl⟩ := writeAt_cons_eq_ok written
      exact ⟨items, _, rfl, rfl, List.length_set⟩
  | cons first before inductionHypothesis =>
      obtain ⟨items, i, inner, rfl, named, inside, rfl⟩ :=
        writeAt_cons_eq_ok written
      obtain ⟨held, changed, readHeld, readChanged, same⟩ :=
        inductionHypothesis inside
      refine ⟨held, changed, ?_, ?_, same⟩
      · rw [readAt_array named, readHeld]
      · rw [readAt_array (by simpa using named), getD_set_self (position_lt named),
          readChanged]

end Paths

/-- What a place of a variable gives to a reader: its value, or
why there is none. -/
def Machine.reading
    (machine : Machine)
    (name : String)
    (path : List Value)
    (line : Nat) : Except Halt Value :=
  match Action.readPlace name path line machine with
  | .ok v _ => .ok v
  | .error halt _ => .error halt

namespace Action

variable
  {machine after : Machine}
  {name : String}
  {path : List Value}
  {v held w : Value}

/-- A visible variable has a value, and reading it changes nothing. -/
theorem readVariable_of_find?
    (found : machine.env.find? name = some v)
    (line : Nat) :
    readVariable name line machine = .ok v machine := by
  unfold readVariable
  rw [Change.get_bind]
  simp only [found]
  rfl

/-- Reading a variable that is not visible halts and changes nothing. -/
theorem readVariable_of_hidden
    (hidden : machine.env.find? name = none)
    (line : Nat) :
    readVariable name line machine =
      .error (.error ⟨.unknownName .variableName name, some line⟩) machine := by
  unfold readVariable
  rw [Change.get_bind]
  simp only [hidden]
  rfl

/-- A place inside a visible variable is read in the value of the variable. -/
theorem readPlace_of_find?
    (found : machine.env.find? name = some held)
    (path : List Value)
    (line : Nat) :
    readPlace name path line machine =
      ofOperation (some line) (readAt held path) machine :=
  Change.bind_of_ok (readVariable_of_find? found line)

/-- A place inside a visible variable is written in the value of the variable. -/
theorem writePlace_of_find?
    (found : machine.env.find? name = some held)
    (written : writeAt held path v = .ok w)
    (line : Nat) :
    writePlace name path v line machine =
      .ok () (machine.mapEnv (·.assign name w)) := by
  have holds : heldAfterWrite name path v line machine = .ok w machine := by
    cases path with
    | nil =>
        cases written
        rfl
    | cons index path =>
        refine (Change.bind_of_ok (readVariable_of_find? found line)).trans ?_
        rw [written]
        rfl
  exact (Change.bind_of_ok holds).trans rfl

/-- A write below an index that succeeds is a write in the value of
a visible variable. -/
theorem writePlace_eq_ok
    {index : Value}
    {line : Nat}
    (ran : writePlace name (index :: path) v line machine = .ok () after) :
    ∃ held w, machine.env.find? name = some held ∧
      writeAt held (index :: path) v = .ok w ∧
      after = machine.mapEnv (·.assign name w) := by
  cases found : machine.env.find? name with
  | none =>
      have stopped := readVariable_of_hidden found line
      have halts : heldAfterWrite name (index :: path) v line machine = _ :=
        Change.bind_of_error stopped
      rw [writePlace, Change.bind_of_error halts] at ran
      cases ran
  | some held =>
      cases written : writeAt held (index :: path) v with
      | ok w =>
          rw [writePlace_of_find? found written line] at ran
          cases ran
          exact ⟨held, w, rfl, written, rfl⟩
      | error failure =>
          have halts :
              heldAfterWrite name (index :: path) v line machine =
                .error (.ofFailure (some line) (failure.map .operation))
                  machine := by
            refine (Change.bind_of_ok (readVariable_of_find? found line)).trans ?_
            rw [written]
            rfl
          rw [writePlace, Change.bind_of_error halts] at ran
          cases ran

/-- A write that fails changes nothing. -/
theorem writePlace_eq_error
    {halt : Halt}
    {line : Nat}
    (ran : writePlace name path v line machine = .error halt after) :
    after = machine := by
  have reading : Reads (heldAfterWrite name path v line) :=
    (compositional_keeping Eq).heldAfterWrite name path v line
  have unchanged := reading machine
  cases holds : heldAfterWrite name path v line machine with
  | ok w between =>
      rw [writePlace, Change.bind_of_ok holds] at ran
      cases ran
  | error failed between =>
      rw [writePlace, Change.bind_of_error holds] at ran
      rw [holds] at unchanged
      cases ran
      exact unchanged.symm

end Action

namespace Machine

variable {machine : Machine} {name : String} {held old : Value}

theorem reading_of_find?
    (found : machine.env.find? name = some held)
    (path : List Value)
    (line : Nat) :
    machine.reading name path line =
      match readAt held path with
      | .ok v => .ok v
      | .error failure =>
          .error (.ofFailure (some line) (failure.map .operation)) := by
  rw [reading, Action.readPlace_of_find? found]
  cases readAt held path <;> rfl

/-- Whoever reads a value reads it in the value of a visible variable. -/
theorem reading_eq_ok
    {path : List Value}
    {line : Nat}
    (read : machine.reading name path line = .ok old) :
    ∃ held, machine.env.find? name = some held ∧ readAt held path = .ok old := by
  cases found : machine.env.find? name with
  | none =>
      have stopped : Action.readPlace name path line machine = _ :=
        Change.bind_of_error (Action.readVariable_of_hidden found line)
      rw [reading, stopped] at read
      cases read
  | some held =>
      rw [reading_of_find? found] at read
      cases inner : readAt held path with
      | ok v =>
          rw [inner] at read
          exact ⟨held, rfl, by rw [inner, Except.ok.inj read]⟩
      | error failure =>
          rw [inner] at read
          cases read

/-- A value was written at a place inside a variable, and nothing else has
changed. -/
structure Wrote
    (machine : Machine)
    (name : String)
    (path : List Value)
    (v : Value)
    (after : Machine) : Prop where
  /-- The value is read at every path that names the positions of the place. -/
  reads :
    ∀ held, machine.env.find? name = some held → ∀ other,
      positions? held other = positions? held path →
        ∀ line, after.reading name other line = .ok v
  /-- A path that leaves the one of the place reads what it read before. -/
  apart :
    ∀ held, machine.env.find? name = some held → ∀ other, Leaves held path other →
      ∀ line, after.reading name other line = machine.reading name other line
  /-- The arrays along the path have their lengths. -/
  lengths :
    ∀ outer index inner, path = outer ++ index :: inner → ∀ line,
      ∃ items changed, machine.reading name outer line = .ok (.array items) ∧
        after.reading name outer line = .ok (.array changed) ∧
          changed.length = items.length
  /-- No other variable has changed, in whatever scope. -/
  others :
    machine.env.ChangesWithin
      (fun level other => level = machine.env.holder name ∧ other = name) after.env
  rest : after = { machine with env := after.env }

/-- Writing at a place inside a variable is a lawful update. -/
structure LawfulWrite
    (machine : Machine)
    (name : String)
    (path : List Value)
    (v : Value)
    (line : Nat) : Prop where
  succeeds :
    (∃ after, Action.writePlace name path v line machine = .ok () after) ↔
      ∃ old, machine.reading name path line = .ok old
  fails :
    ∀ halt after, Action.writePlace name path v line machine = .error halt after →
      after = machine
  restores :
    ∀ old, machine.reading name path line = .ok old →
      Action.writePlace name path old line machine = .ok () machine
  wrote :
    ∀ after, Action.writePlace name path v line machine = .ok () after →
      machine.Wrote name path v after

end Machine

/-- What a successful write does. -/
theorem wrote_writePlace
    {machine after : Machine}
    {name : String}
    {index v : Value}
    {path : List Value}
    {line : Nat}
    (ran : Action.writePlace name (index :: path) v line machine = .ok () after) :
    machine.Wrote name (index :: path) v after := by
  obtain ⟨held, w, found, written, rfl⟩ := Action.writePlace_eq_ok ran
  have visible :
      machine.env.contains name = true := by simp [Environment.contains, found]
  have finds : (machine.mapEnv (·.assign name w)).env.find? name = some w :=
    Environment.find?_assign_self visible w
  obtain ⟨old, read⟩ := readAt_of_writeAt written
  obtain ⟨positions, names⟩ := positions?_of_readAt read
  constructor
  case reads =>
    intro held' found' other same line
    cases found.symm.trans found'
    rw [Machine.reading_of_find? finds,
      readAt_writeAt_of_positions written names (same.trans names)]
  case apart =>
    intro held' found' other leaves line
    cases found.symm.trans found'
    rw [Machine.reading_of_find? finds, Machine.reading_of_find? found,
      readAt_writeAt_of_leaves written leaves]
  case lengths =>
    intro outer first inner shape line
    rw [shape] at written
    obtain ⟨items, changed, readItems, readChanged, same⟩ := length_writeAt written
    refine ⟨items, changed, ?_, ?_, same⟩
    · rw [Machine.reading_of_find? found, readItems]
    · rw [Machine.reading_of_find? finds, readChanged]
  case others =>
    exact .assign visible w
  case rest =>
    rfl

/--
An indexed assignment is a lawful update.

It succeeds where reading does and otherwise changes nothing, and writing
back what was read changes nothing. After it the new value is read at every
path that names the same positions, a path that names another position
somewhere reads what it did, the arrays on the way keep their lengths, and no
other variable changes.
-/
theorem indexed_write_lawful
    (machine : Machine)
    (name : String)
    (index : Value)
    (path : List Value)
    (v : Value)
    (line : Nat) :
    machine.LawfulWrite name (index :: path) v line where
  succeeds := by
    constructor
    · rintro ⟨after, ran⟩
      obtain ⟨held, w, found, written, -⟩ := Action.writePlace_eq_ok ran
      obtain ⟨old, read⟩ := readAt_of_writeAt written
      exact ⟨old, by rw [Machine.reading_of_find? found, read]⟩
    · rintro ⟨old, read⟩
      obtain ⟨held, found, inner⟩ := Machine.reading_eq_ok read
      obtain ⟨w, written⟩ := writeAt_of_readAt inner v
      exact ⟨_, Action.writePlace_of_find? found written line⟩
  fails halt after ran := Action.writePlace_eq_error ran
  restores old read := by
    obtain ⟨held, found, inner⟩ := Machine.reading_eq_ok read
    rw [Action.writePlace_of_find? found (writeAt_readAt inner), Machine.mapEnv,
      Environment.assign_eq_self found]
  wrote after ran := wrote_writePlace ran

end GridScript.Script
