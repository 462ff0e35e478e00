import GridScript.Proofs.Script.Bindings

namespace GridScript.Script

/-!
# Shadowing

The scopes of an environment behave as one mapping, in which inner scopes shadow
outer ones. This holds for every environment that operations lead to, whatever
their order: `Shadowing` has its laws.

Where a law is about one environment it rests on distinct names: `Distinct` says
that no scope declares a name twice, and every operation keeps it. Where a law
is about a scope that is pushed and closed again, or about a call, it follows
what lies outside along the operations inside. Inside of a pushed scope only the
assignments that pass by it change what lies `outside`. A call hides the block
scopes as they are, and shares the global scope.
-/

namespace Environment

variable {env after : Environment} {name : String} {v : Value} {level : Nat}

/-! ## Operations -/

/-- The variables that a scope begins with, no name twice. -/
structure InitialScope where
  scope : Scope
  distinct : scope.names.Nodup

/-- An operation on an environment. -/
inductive Operation where
  | declare (name : String) (v : Value)
  | assign (name : String) (v : Value)
  | push
  | pop
  | enterCall (bindings : InitialScope)
  | leaveCall

/-- The environment after an operation. The global scope is not closed, and
where no call is open none is left. -/
def perform (env : Environment) : Operation → Environment
  | .declare name v => env.declare name v
  | .assign name v => env.assign name v
  | .push => env.push
  | .pop => (env.pop?.map Prod.snd).getD env
  | .enterCall bindings => env.enterCall bindings.scope
  | .leaveCall => if env.callers.isEmpty then env else env.leaveCall

/-- The environment after operations in order. -/
def performAll (env : Environment) : List Operation → Environment
  | [] => env
  | operation :: rest => (env.perform operation).performAll rest

theorem perform_pop (env : Environment) : env.perform .pop = env.leaveScope := by
  obtain ⟨globals, blocks, callers⟩ := env
  cases blocks <;> rfl

theorem perform_leaveCall (isOpen : env.callers ≠ []) :
    env.perform .leaveCall = env.leaveCall :=
  if_neg (mt List.isEmpty_iff.mp isOpen)

theorem perform_leaveCall_of_closed (isClosed : env.callers = []) :
    env.perform .leaveCall = env :=
  if_pos (List.isEmpty_iff.mpr isClosed)

/-! ## Distinct names -/

/-- Every scope, visible or hidden, declares each of its names once. -/
structure Distinct (env : Environment) : Prop where
  visible : ∀ scope ∈ env.scopes, scope.names.Nodup
  hidden : ∀ blocks ∈ env.callers, ∀ scope ∈ blocks, scope.names.Nodup

namespace Distinct

theorem ofGlobals (initial : InitialScope) :
    (ofGlobals initial.scope).Distinct where
  visible := List.forall_mem_singleton.mpr initial.distinct
  hidden blocks member := by cases member

theorem store (distinct : env.Distinct) (stores : env.Stores level name v after) :
    after.Distinct where
  visible scope member := by
    rw [stores.scopes] at member
    obtain ⟨i, held⟩ := List.mem_iff_getElem?.mp member
    rw [List.getElem?_modify] at held
    obtain ⟨before, found, rfl⟩ := Option.map_eq_some_iff.mp held
    have distinctBefore := distinct.visible before (List.mem_of_getElem? found)
    split
    · exact Scope.nodup_names_set distinctBefore name v
    · exact distinctBefore
  hidden := by
    rw [stores.callers]
    exact distinct.hidden

theorem push (distinct : env.Distinct) : env.push.Distinct where
  visible := List.forall_mem_cons.mpr ⟨List.nodup_nil, distinct.visible⟩
  hidden := distinct.hidden

theorem leaveScope (distinct : env.Distinct) : env.leaveScope.Distinct where
  visible scope member := by
    refine distinct.visible scope ?_
    rcases List.mem_append.mp member with inBlocks | isGlobal
    · exact List.mem_append_left _ (List.mem_of_mem_drop inBlocks)
    · exact List.mem_append_right _ isGlobal
  hidden := distinct.hidden

theorem enterCall (distinct : env.Distinct) (bindings : InitialScope) :
    (env.enterCall bindings.scope).Distinct where
  visible := by
    refine List.forall_mem_cons.mpr ⟨bindings.distinct,
      List.forall_mem_singleton.mpr ?_⟩
    exact distinct.visible env.globals
      (List.mem_append_right _ (List.mem_singleton_self _))
  hidden := by
    refine List.forall_mem_cons.mpr ⟨fun scope member => ?_, distinct.hidden⟩
    exact distinct.visible scope (List.mem_append_left _ member)

theorem leaveCall (distinct : env.Distinct) (isOpen : env.callers ≠ []) :
    env.leaveCall.Distinct := by
  obtain ⟨blocks, callers, held⟩ := List.exists_cons_of_ne_nil isOpen
  obtain ⟨here, outside⟩ := List.forall_mem_cons.mp (held ▸ distinct.hidden)
  constructor
  · intro scope member
    rcases List.mem_append.mp member with inBlocks | isGlobal
    · exact here scope (by simpa [Environment.leaveCall, held] using inBlocks)
    · exact distinct.visible scope (List.mem_append_right _ isGlobal)
  · simpa [Environment.leaveCall, held] using outside

theorem perform (distinct : env.Distinct) (operation : Operation) :
    (env.perform operation).Distinct := by
  cases operation with
  | declare name v =>
      exact distinct.store (stores_declare env name v)
  | assign name v =>
      exact distinct.store (stores_assign env name v)
  | push =>
      exact distinct.push
  | pop =>
      rw [perform_pop]
      exact distinct.leaveScope
  | enterCall bindings =>
      exact distinct.enterCall bindings
  | leaveCall =>
      by_cases isOpen : env.callers = []
      · rwa [perform_leaveCall_of_closed isOpen]
      · rw [perform_leaveCall isOpen]
        exact distinct.leaveCall isOpen

theorem performAll (distinct : env.Distinct) (operations : List Operation) :
    (env.performAll operations).Distinct := by
  induction operations generalizing env with
  | nil =>
      exact distinct
  | cons operation rest inductionHypothesis =>
      exact inductionHypothesis (distinct.perform operation)

end Distinct

/-! ## Inside of block scopes -/

/--
The block scopes that are open after an operation inside of a pushed scope.

The counts are those of the block scopes that are open beyond the first one: in
each call that has been entered inside, the last one first, and then in the
pushed scope. None, if the operation closes the pushed scope, closes the scope
of a call without leaving the call, or leaves a call that was entered outside.
-/
def nest? (levels : List Nat) : Operation → Option (List Nat)
  | .declare _ _ => some levels
  | .assign _ _ => some levels
  | .push =>
      match levels with
      | opened :: rest => some ((opened + 1) :: rest)
      | [] => none
  | .pop =>
      match levels with
      | (opened + 1) :: rest => some (opened :: rest)
      | _ => none
  | .enterCall _ => some (0 :: levels)
  | .leaveCall =>
      match levels with
      | _ :: opened :: rest => some (opened :: rest)
      | _ => none

/-- An operation does not assign to a variable, or stores in a block scope
that is open inside. -/
def AssignsInside
    (name : String)
    (levels : List Nat)
    (env : Environment)
    (operation : Operation) : Prop :=
  ∀ v, operation = .assign name v → env.target name ≤ levels.headD 0

/-- All assignments to a variable store in block scopes that are open inside. -/
def AllAssignInside (name : String) : List Nat → Environment → List Operation → Prop
  | _, _, [] => True
  | levels, env, operation :: rest =>
      AssignsInside name levels env operation ∧
        ∀ next, nest? levels operation = some next →
          AllAssignInside name next (env.perform operation) rest

theorem allAssignInside_of_not_mem
    {operations : List Operation}
    (notAssigned : ∀ v, Operation.assign name v ∉ operations)
    (levels : List Nat)
    (env : Environment) :
    AllAssignInside name levels env operations := by
  induction operations generalizing levels env with
  | nil =>
      trivial
  | cons operation rest inductionHypothesis =>
      constructor
      · rintro v rfl
        exact absurd List.mem_cons_self (notAssigned v)
      · intro next _
        exact inductionHypothesis
          (fun v => mt (List.mem_cons_of_mem _) (notAssigned v)) next _

/-- The environment that is left of another one outside of the pushed scope. -/
def outside : List Nat → Environment → Environment
  | [], env => env
  | [opened], env => { env with blocks := env.blocks.drop (opened + 1) }
  | _ :: opened :: rest, env => outside (opened :: rest) env.leaveCall

/-- An environment has the block scopes and calls that are open inside
of a pushed scope. -/
def LiesInside : List Nat → Environment → Prop
  | [], _ => False
  | [opened], env => opened < env.blocks.length
  | opened :: next :: rest, env =>
      env.blocks.length = opened + 1 ∧ env.callers ≠ [] ∧
        LiesInside (next :: rest) env.leaveCall

/-- One of the innermost block scopes declares a variable. -/
def declaresWithin (env : Environment) (count : Nat) (name : String) : Bool :=
  (env.blocks.take count).any fun scope => scope.declares name

section Inside

variable {levels next : List Nat} {opened : Nat}

/-- What lies outside of a pushed scope depends on what is open inside
by its number only. -/
theorem outside_congr
    {more : Nat}
    (globals : after.globals = env.globals)
    (callers : after.callers = env.callers)
    (blocks : after.blocks.drop (more + 1) = env.blocks.drop (opened + 1)) :
    outside (more :: levels) after = outside (opened :: levels) env := by
  cases levels with
  | nil =>
      rw [outside, outside, globals, callers, blocks]
  | cons level levels =>
      rw [outside, outside, leaveCall, leaveCall, globals, callers]

theorem LiesInside.congr
    {more : Nat}
    (inside : LiesInside (opened :: levels) env)
    (globals : after.globals = env.globals)
    (callers : after.callers = env.callers)
    (count : after.blocks.length + opened = env.blocks.length + more) :
    LiesInside (more :: levels) after := by
  cases levels with
  | nil =>
      unfold LiesInside at inside ⊢
      omega
  | cons level levels =>
      obtain ⟨length, isOpen, caller⟩ := inside
      refine ⟨by omega, callers ▸ isOpen, ?_⟩
      rwa [leaveCall, globals, callers]

theorem outside_setGlobals
    (levels : List Nat)
    (env : Environment)
    (globals : Scope) :
    outside levels { env with globals := globals } =
      { outside levels env with globals := globals } := by
  fun_induction outside levels env with
  | case1 =>
      rfl
  | case2 =>
      rfl
  | case3 first opened rest env inductionHypothesis =>
      exact inductionHypothesis

theorem globals_outside (levels : List Nat) (env : Environment) :
    (outside levels env).globals = env.globals := by
  have same := congrArg globals (outside_setGlobals levels env env.globals)
  exact same

theorem LiesInside.setGlobals (inside : LiesInside levels env) (globals : Scope) :
    LiesInside levels { env with globals := globals } := by
  fun_induction LiesInside levels env with
  | case1 =>
      exact inside
  | case2 =>
      exact inside
  | case3 opened next rest env inductionHypothesis =>
      obtain ⟨length, isOpen, caller⟩ := inside
      exact ⟨length, isOpen, inductionHypothesis caller⟩

theorem scopes_outside (opened : Nat) (env : Environment) :
    env.scopes = env.blocks.take (opened + 1) ++ (outside [opened] env).scopes := by
  rw [scopes, scopes, outside, ← List.append_assoc, List.take_append_drop]

theorem scopes_outside_eq_drop (inside : LiesInside [opened] env) :
    (outside [opened] env).scopes = env.scopes.drop (opened + 1) := by
  rw [scopes_outside opened env, List.drop_left' (List.length_take_of_le inside)]

/-- An assignment to a variable of a block scope inside stores there. -/
theorem target_of_declaresWithin
    (declared : env.declaresWithin (opened + 1) name = true) :
    env.target name ≤ opened := by
  obtain ⟨scope, member, declares⟩ := List.any_eq_true.mp declared
  have found :
      (env.blocks.take (opened + 1)).findIdx (fun scope => scope.declares name) <
        (env.blocks.take (opened + 1)).length :=
    List.findIdx_lt_length_of_exists ⟨scope, member, declares⟩
  have held : env.holder name ≤ opened := by
    rw [holder, scopes_outside opened env, List.findIdx_append, if_pos found]
    exact Nat.le_of_lt_succ (Nat.lt_of_lt_of_le found (List.length_take_le ..))
  unfold target
  split
  · exact held
  · exact Nat.zero_le opened

/-- An assignment to a variable of no block scope inside stores where it would
store outside, or in the innermost scope if the variable is not visible. -/
theorem target_of_not_declaresWithin
    (inside : LiesInside [opened] env)
    (notDeclared : env.declaresWithin (opened + 1) name = false) :
    env.target name =
      if (outside [opened] env).contains name then
        opened + 1 + (outside [opened] env).target name
      else 0 := by
  have split := scopes_outside opened env
  have length : (env.blocks.take (opened + 1)).length = opened + 1 :=
    List.length_take_of_le inside
  have notFound :
      ¬(env.blocks.take (opened + 1)).findIdx (fun scope => scope.declares name) <
        (env.blocks.take (opened + 1)).length := by
    rw [List.findIdx_lt_length, ← List.any_eq_true]
    exact Bool.eq_false_iff.mp notDeclared
  have held :
      env.holder name = (outside [opened] env).holder name + (opened + 1) := by
    rw [holder, split, List.findIdx_append, if_neg notFound, length, holder]
  have sameVisible : env.contains name = (outside [opened] env).contains name := by
    rw [Bool.eq_iff_iff, ← holder_lt_iff, ← holder_lt_iff, held, split,
      List.length_append, length]
    omega
  unfold target
  rw [sameVisible, held]
  split
  · exact Nat.add_comm ..
  · rfl

theorem LiesInside.lt (inside : LiesInside (opened :: levels) env) :
    opened < env.blocks.length := by
  cases levels with
  | nil =>
      exact inside
  | cons level levels =>
      exact inside.1 ▸ Nat.lt_succ_self opened

/-- A store in a scope that is open inside changes nothing outside. -/
theorem LiesInside.store
    (inside : LiesInside (opened :: levels) env)
    (stores : env.Stores level name v after)
    (isInside : level ≤ opened) :
    LiesInside (opened :: levels) after ∧
      outside (opened :: levels) after = outside (opened :: levels) env := by
  have fits := inside.lt
  have globals : after.globals = env.globals := by
    rw [stores.globals, if_neg (by omega)]
    rfl
  constructor
  · exact inside.congr globals stores.callers (by rw [stores.length_blocks])
  · refine outside_congr globals stores.callers ?_
    rw [stores.blocks, List.drop_modify_of_lt _ _ _ _ (Nat.lt_succ_of_le isInside)]

theorem LiesInside.assign
    (inside : LiesInside [opened] env)
    (name : String)
    (v : Value) :
    LiesInside [opened] (env.assign name v) := by
  unfold LiesInside
  rwa [(stores_assign env name v).length_blocks]

/-- An assignment inside reaches the scopes outside if the variable is visible
there and no scope inside declares it; otherwise it changes nothing outside. -/
theorem outside_assign
    (inside : LiesInside [opened] env)
    (name : String)
    (v : Value) :
    outside [opened] (env.assign name v) =
      if (outside [opened] env).contains name &&
          !env.declaresWithin (opened + 1) name then
        (outside [opened] env).assign name v
      else outside [opened] env := by
  have stores := stores_assign env name v
  cases declared : env.declaresWithin (opened + 1) name with
  | true =>
      rw [(inside.store stores (target_of_declaresWithin declared)).2]
      simp
  | false =>
      have target := target_of_not_declaresWithin inside declared
      cases visible : (outside [opened] env).contains name with
      | true =>
          rw [visible, if_pos rfl] at target
          rw [if_pos (by rfl)]
          have reached :
              (outside [opened] env).Stores
                ((outside [opened] env).target name) name v
                (outside [opened] (env.assign name v)) := by
            refine ⟨?_, stores.callers⟩
            rw [scopes_outside_eq_drop (inside.assign name v), stores.scopes,
              target, List.drop_modify_of_ge _ _ _ _ (Nat.le_add_right ..),
              Nat.add_sub_cancel_left, scopes_outside_eq_drop inside]
          exact reached.unique (stores_assign (outside [opened] env) name v)
      | false =>
          rw [visible, if_neg Bool.false_ne_true] at target
          rw [(inside.store stores (target ▸ Nat.zero_le opened)).2]
          rfl

/-- An assignment that stores in no block scope inside stores in a scope outside. -/
theorem updates_outside
    (inside : LiesInside (opened :: levels) env)
    (beyond : ¬ env.target name ≤ opened)
    (v : Value) :
    LiesInside (opened :: levels) (env.assign name v) ∧
      Updates name (outside (opened :: levels) env)
        (outside (opened :: levels) (env.assign name v)) := by
  cases levels with
  | nil =>
      have notDeclared : env.declaresWithin (opened + 1) name = false :=
        Bool.eq_false_iff.mpr fun declared =>
          beyond (target_of_declaresWithin declared)
      have visible : (outside [opened] env).contains name = true := by
        by_contra hidden
        rw [target_of_not_declaresWithin inside notDeclared, if_neg hidden]
          at beyond
        omega
      rw [outside_assign inside, visible, notDeclared]
      exact ⟨inside.assign name v, updates_assign visible v⟩
  | cons level levels =>
      -- A call shares nothing but the global scope with what lies outside of it.
      have length : env.blocks.length = opened + 1 := inside.1
      have isBlock : 0 < env.blocks.length := by omega
      have isPast : env.blocks.length ≤ env.target name := by omega
      obtain ⟨assigned, declared⟩ := assign_eq_setGlobals isBlock isPast v
      have outsideGlobals := globals_outside (opened :: level :: levels) env
      rw [← outsideGlobals] at declared
      have updates := updates_setGlobals declared v
      rw [outsideGlobals] at updates
      rw [assigned,
        outside_setGlobals (opened :: level :: levels) env (env.globals.set name v)]
      exact ⟨inside.setGlobals _, updates⟩

/-- After an operation inside, the environment outside is the same, unless the
operation assigns to a variable there. -/
theorem LiesInside.perform
    {operation : Operation}
    (inside : LiesInside levels env)
    (nested : nest? levels operation = some next) :
    LiesInside next (env.perform operation) ∧
      (outside next (env.perform operation) = outside levels env ∨
        ∃ name v,
          operation = .assign name v ∧
            ¬ env.target name ≤ levels.headD 0 ∧
              Updates name (outside levels env)
                (outside next (env.perform operation))) := by
  match levels, inside with
  | opened :: rest, inside =>
    cases operation with
    | declare name v =>
        cases nested
        have same := inside.store (stores_declare env name v) (Nat.zero_le opened)
        exact ⟨same.1, .inl same.2⟩
    | assign name v =>
        cases nested
        by_cases isInside : env.target name ≤ opened
        · have same := inside.store (stores_assign env name v) isInside
          exact ⟨same.1, .inl same.2⟩
        · obtain ⟨kept, updates⟩ := updates_outside inside isInside v
          exact ⟨kept, .inr ⟨name, v, rfl, isInside, updates⟩⟩
    | push =>
        cases nested
        exact ⟨inside.congr rfl rfl (by simp [Environment.perform, push]; omega),
          .inl (outside_congr rfl rfl rfl)⟩
    | pop =>
        cases opened with
        | zero =>
            cases nested
        | succ opened =>
            cases nested
            rw [perform_pop]
            have fits := inside.lt
            refine ⟨inside.congr rfl rfl ?_, .inl (outside_congr rfl rfl ?_)⟩
            · rw [leaveScope, List.length_drop]
              omega
            · rw [leaveScope, List.drop_drop, Nat.add_comm]
    | enterCall bindings =>
        cases nested
        exact ⟨⟨rfl, List.cons_ne_nil _ _, inside⟩, .inl rfl⟩
    | leaveCall =>
        cases rest with
        | nil =>
            cases nested
        | cons level rest =>
            cases nested
            obtain ⟨-, isOpen, caller⟩ := inside
            rw [perform_leaveCall isOpen]
            exact ⟨caller, .inl rfl⟩

/-- After operations inside, a variable is visible outside if it was so before,
and stands for the same there if all assignments to it stored inside. -/
theorem LiesInside.performAll
    {operations : List Operation}
    (inside : LiesInside levels env)
    (nested : operations.foldlM nest? levels = some next)
    (name : String) :
    LiesInside next (env.performAll operations) ∧
      (outside next (env.performAll operations)).contains name =
          (outside levels env).contains name ∧
        (AllAssignInside name levels env operations →
          (outside next (env.performAll operations)).find? name =
            (outside levels env).find? name) := by
  -- Visibility is kept by all assignments, the value only by those
  -- that store inside.
  induction operations generalizing env levels with
  | nil =>
      cases nested
      exact ⟨inside, rfl, fun _ => rfl⟩
  | cons operation rest inductionHypothesis =>
      rw [List.foldlM_cons] at nested
      obtain ⟨between, first, later⟩ := Option.bind_eq_some_iff.mp nested
      obtain ⟨kept, outsideNow⟩ := inside.perform first
      obtain ⟨last, visible, same⟩ := inductionHypothesis kept later
      rcases outsideNow with unchanged | ⟨other, v, isAssignment, beyond, updates⟩
      · rw [unchanged] at visible same
        exact ⟨last, visible, fun allInside => same (allInside.2 between first)⟩
      · refine ⟨last, visible.trans (updates.contains_eq name), fun allInside => ?_⟩
        refine (same (allInside.2 between first)).trans (updates.find?_of_ne ?_)
        rintro rfl
        exact beyond (allInside.1 v isAssignment)

theorem LiesInside.pop? (inside : LiesInside [0] env) :
    ∃ scope, env.pop? = some (scope, outside [0] env) := by
  obtain ⟨globals, blocks, callers⟩ := env
  obtain ⟨scope, rest, rfl⟩ := List.exists_cons_of_length_pos inside
  exact ⟨scope, rfl⟩

/-- A pushed scope that is closed again shows what has been assigned to a
variable inside, if the assignment has reached the scopes outside, and otherwise
what the variable stood for before. -/
theorem pop_of_push
    {before : Environment}
    {earlier later : List Operation}
    (reached : env.push.performAll earlier = before)
    (earlierNested : earlier.foldlM nest? [0] = some [opened])
    (laterNested : later.foldlM nest? [opened] = some [0])
    (earlierInside :
      before.declaresWithin (opened + 1) name = true →
        AllAssignInside name [0] env.push earlier)
    (laterInside : AllAssignInside name [opened] (before.assign name v) later) :
    ∃ scope after,
      ((before.assign name v).performAll later).pop? = some (scope, after) ∧
        after.find? name =
          if env.contains name && !before.declaresWithin (opened + 1) name then
            some v
          else env.find? name := by
  subst reached
  have pushed : LiesInside [0] env.push := Nat.succ_pos _
  obtain ⟨inside, visible, same⟩ := pushed.performAll earlierNested name
  obtain ⟨last, -, lastSame⟩ := (inside.assign name v).performAll laterNested name
  obtain ⟨scope, popped⟩ := last.pop?
  refine ⟨scope, _, popped, (lastSame laterInside).trans ?_⟩
  have unpushed : outside [0] env.push = env := rfl
  rw [unpushed] at visible same
  rw [outside_assign inside, visible]
  split
  · exact find?_assign _ name v
  next notReached =>
    cases isVisible : env.contains name with
    | true =>
        exact same (earlierInside (by simpa [isVisible] using notReached))
    | false =>
        rw [isVisible] at visible
        rw [contains, Option.isSome_eq_false_iff, Option.isNone_iff_eq_none]
          at visible isVisible
        rw [visible, isVisible]

end Inside

/-! ## Calls -/

/-- The number of open calls, of those that were entered inside, after an
operation. None, if it leaves a call that was entered outside. -/
def calls? : Nat → Operation → Option Nat
  | opened, .enterCall _ => some (opened + 1)
  | opened + 1, .leaveCall => some opened
  | 0, .leaveCall => none
  | opened, _ => some opened

/-- So many calls hide block scopes above those that are hidden outside. -/
def Hides (hidden : List (List Scope)) (opened : Nat) (env : Environment) : Prop :=
  ∃ callers, callers.length = opened ∧ env.callers = callers ++ hidden

theorem Hides.perform
    {hidden : List (List Scope)}
    {opened next : Nat}
    {operation : Operation}
    (hides : env.Hides hidden opened)
    (followed : calls? opened operation = some next) :
    (env.perform operation).Hides hidden next := by
  obtain ⟨callers, length, shape⟩ := hides
  cases operation with
  | declare name v =>
      cases followed
      exact ⟨callers, length, (callers_declare env name v).trans shape⟩
  | assign name v =>
      cases followed
      exact ⟨callers, length, (callers_assign env name v).trans shape⟩
  | push =>
      cases followed
      exact ⟨callers, length, shape⟩
  | pop =>
      cases followed
      rw [perform_pop]
      exact ⟨callers, length, shape⟩
  | enterCall bindings =>
      cases followed
      exact ⟨env.blocks :: callers, congrArg Nat.succ length,
        congrArg (List.cons env.blocks) shape⟩
  | leaveCall =>
      cases opened with
      | zero =>
          cases followed
      | succ opened =>
          cases followed
          obtain ⟨caller, callers, rfl⟩ :=
            List.exists_cons_of_length_eq_add_one length
          rw [perform_leaveCall (by simp [shape])]
          exact ⟨callers, Nat.succ.inj length, by simp [leaveCall, shape]⟩

theorem Hides.performAll
    {hidden : List (List Scope)}
    {opened last : Nat}
    {operations : List Operation}
    (hides : env.Hides hidden opened)
    (followed : operations.foldlM calls? opened = some last) :
    (env.performAll operations).Hides hidden last := by
  induction operations generalizing env opened with
  | nil =>
      cases followed
      exact hides
  | cons operation rest inductionHypothesis =>
      rw [List.foldlM_cons] at followed
      obtain ⟨next, first, later⟩ := Option.bind_eq_some_iff.mp followed
      exact inductionHypothesis (hides.perform first) later

/-- What an operation stores in the global scope. -/
def globalStore (env : Environment) : Operation → List (String × Value)
  | .declare name v => if env.blocks.length = 0 then [(name, v)] else []
  | .assign name v =>
      if env.blocks.length = env.target name then [(name, v)] else []
  | _ => []

/-- What operations store in the global scope, in order. -/
def globalStores (env : Environment) : List Operation → List (String × Value)
  | [] => []
  | operation :: rest =>
      env.globalStore operation ++ (env.perform operation).globalStores rest

theorem globals_perform (env : Environment) (operation : Operation) :
    (env.perform operation).globals =
      env.globals.overlay (env.globalStore operation) := by
  cases operation with
  | declare name v =>
      exact (stores_declare env name v).globals
  | assign name v =>
      exact (stores_assign env name v).globals
  | push =>
      rfl
  | pop =>
      rw [perform_pop]
      rfl
  | enterCall bindings =>
      rfl
  | leaveCall =>
      by_cases isOpen : env.callers = []
      · rw [perform_leaveCall_of_closed isOpen]
        rfl
      · rw [perform_leaveCall isOpen]
        rfl

theorem globals_performAll (env : Environment) (operations : List Operation) :
    (env.performAll operations).globals =
      env.globals.overlay (env.globalStores operations) := by
  induction operations generalizing env with
  | nil =>
      rfl
  | cons operation rest inductionHypothesis =>
      rw [performAll, inductionHypothesis, globals_perform, globalStores,
        Scope.overlay_append]

/-- A call that is left shows the block scopes that it hid, and the global scope
with what was stored there during the call. -/
theorem perform_leaveCall_performAll
    {bindings : InitialScope}
    {during : List Operation}
    (matched : during.foldlM calls? 0 = some 0) :
    ((env.enterCall bindings.scope).performAll during).perform .leaveCall =
      ⟨env.globals.overlay ((env.enterCall bindings.scope).globalStores during),
        env.blocks, env.callers⟩ := by
  have entered :
      (env.enterCall bindings.scope).Hides (env.blocks :: env.callers) 0 :=
    ⟨[], rfl, rfl⟩
  obtain ⟨callers, isEmpty, shape⟩ := entered.performAll matched
  cases List.length_eq_zero_iff.mp isEmpty
  rw [perform_leaveCall (by simp [shape]), leaveCall, shape, globals_performAll]
  rfl

/-! ## One mapping -/

/-- The scopes of an environment behave as one mapping, in which inner scopes
shadow outer ones. -/
structure Shadowing (env : Environment) : Prop where
  /-- A variable is visible if some visible scope declares it. -/
  visible :
    ∀ name, env.contains name = true ↔ ∃ scope ∈ env.scopes, name ∈ scope.names
  /-- Exactly the visible variables stand for something. -/
  found : ∀ name, env.contains name = true ↔ ∃ v, env.find? name = some v
  /-- Exactly the visible variables are listed, each once. -/
  listed : ∀ name, env.contains name = true ↔ name ∈ env.snapshot.names
  listedOnce : env.snapshot.names.Nodup
  /-- A name stands for what is listed for it. -/
  agrees : ∀ name, env.find? name = env.snapshot.find? name
  /-- A declared variable stands for its value, and all others stand for
  what they stood for. -/
  declared :
    ∀ name v other,
      (env.declare name v).find? other =
        if other = name then some v else env.find? other
  /-- A variable that is assigned to stands for the value, and all others stand
  for what they stood for. -/
  assigned :
    ∀ name v other,
      (env.assign name v).find? other =
        if other = name then some v else env.find? other
  /-- A scope is pushed and closed again, and between this the variable is
  assigned to, in that scope or in block scopes inside of it. It stands for
  the value if it was visible before the scope was pushed and none of these
  scopes declares it, and otherwise for what it stood for before. Other
  assignments to it may come first if this one reaches a scope outside; all
  others store inside. -/
  block :
    ∀ name v earlier later opened before,
      env.push.performAll earlier = before →
        earlier.foldlM nest? [0] = some [opened] →
          later.foldlM nest? [opened] = some [0] →
            (before.declaresWithin (opened + 1) name = true →
              AllAssignInside name [0] env.push earlier) →
              AllAssignInside name [opened] (before.assign name v) later →
                ∃ scope after,
                  ((before.assign name v).performAll later).pop? =
                      some (scope, after) ∧
                    after.find? name =
                      if env.contains name &&
                          !before.declaresWithin (opened + 1) name then
                        some v
                      else env.find? name
  /-- A call is entered and left: all block scopes are what they were, also
  those that are hidden, and the global scope is what it was, with the values
  that were stored there during the call. -/
  call :
    ∀ (bindings : InitialScope) during,
      during.foldlM calls? 0 = some 0 →
        ((env.enterCall bindings.scope).performAll during).perform .leaveCall =
          ⟨env.globals.overlay ((env.enterCall bindings.scope).globalStores during),
            env.blocks, env.callers⟩

/-- Where names are distinct in each scope the laws hold. -/
theorem Distinct.shadowing (distinct : env.Distinct) : env.Shadowing where
  visible name := by
    rw [contains_iff, scopeNames_eq]
    simp
  found name := Option.isSome_iff_exists
  listed name := by
    rw [← Scope.declares_iff, Scope.declares, snapshot_eq_flatten,
      Scope.find?_flatten distinct.visible, ← find?_eq_findSome?, contains]
  listedOnce := by
    rw [snapshot_eq_flatten]
    exact Scope.nodup_names_flatten env.scopes
  agrees name := by
    rw [snapshot_eq_flatten, Scope.find?_flatten distinct.visible,
      find?_eq_findSome?]
  declared name v other := by
    split
    next isName =>
      rw [isName]
      exact find?_declare_self env name v
    next isOther =>
      exact (stores_declare env name v).find?_of_ne isOther
  assigned name v other := by
    split
    next isName =>
      rw [isName]
      exact find?_assign env name v
    next isOther =>
      exact (stores_assign env name v).find?_of_ne isOther
  block name v earlier later opened before := pop_of_push
  call bindings during matched := perform_leaveCall_performAll matched

/-- Whatever operations lead to an environment, its scopes behave as one mapping. -/
theorem shadowing_performAll
    (initial : InitialScope)
    (operations : List Operation) :
    ((ofGlobals initial.scope).performAll operations).Shadowing :=
  ((Distinct.ofGlobals initial).performAll operations).shadowing

/-- A total that is assigned to in a block scope within another one, which a
call hides, and that is assigned to in a call. -/
theorem shadowing_performAll_tally :
    let env : Environment := ⟨[("total", .int 1)], [[("row", .int 2)]], []⟩
    (∃ scope after,
      ((env.push.push.assign "total" (.int 5)).performAll
          [.enterCall ⟨[("total", .int 7)], by decide⟩, .leaveCall, .pop]).pop? =
        some (scope, after) ∧
        after.find? "total" = some (.int 5)) ∧
      (((env.enterCall []).push.assign "total" (.int 8)).perform .leaveCall =
        ⟨[("total", .int 8)], [[("row", .int 2)]], []⟩) := by
  have laws :=
    shadowing_performAll ⟨[("total", .int 1)], by decide⟩
      [.push, .declare "row" (.int 2)]
  constructor
  · exact laws.block "total" (.int 5) [.push] _ 1 _ rfl rfl rfl
      (fun _ => allAssignInside_of_not_mem (by simp) [0] _)
      (allAssignInside_of_not_mem (by simp) [1] _)
  · exact laws.call ⟨[], by decide⟩ [.push, .assign "total" (.int 8)] rfl

end Environment

end GridScript.Script
