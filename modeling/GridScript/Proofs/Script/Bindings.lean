import GridScript.Proofs.Script.Names

namespace GridScript.Script

/-!
# The bindings of scopes

A binding is a name in one of the visible scopes, which are counted from the
innermost outward. A variable is read from its holder, the innermost scope that
declares it, and an assignment to it changes this one binding. `ChangesWithin`
says of two environments that all but some bindings are the same, and `Stores`
which binding a declaration or an assignment makes.
-/

namespace Scope

variable {scope further : Scope} {name other : String} {v : Value}

theorem find?_cons (held : String) (w : Value) (rest : Scope) (name : String) :
    find? ((held, w) :: rest) name =
      if name = held then some w else rest.find? name := by
  rw [find?, List.lookup_cons]
  split
  next isHeld =>
    rw [if_pos (beq_iff_eq.mp isHeld)]
  next isOther =>
    rw [if_neg (beq_eq_false_iff_ne.mp isOther), find?]

@[simp] theorem find?_set_self (scope : Scope) (name : String) (v : Value) :
    (scope.set name v).find? name = some v := by
  induction scope with
  | nil =>
      simp [set, find?]
  | cons entry rest inductionHypothesis =>
      obtain ⟨held, w⟩ := entry
      unfold set
      split
      next same =>
        obtain rfl : held = name := by simpa using same
        simp [find?]
      next different =>
        have notFirst : (name == held) = false := by
          rw [BEq.comm]
          simpa using different
        simpa [find?, List.lookup_cons, notFirst] using inductionHypothesis

theorem find?_set_of_ne (different : other ≠ name) :
    (scope.set name v).find? other = scope.find? other := by
  induction scope with
  | nil =>
      have notFound : (other == name) = false := by simpa using different
      simp [set, find?, List.lookup_cons, notFound]
  | cons entry rest inductionHypothesis =>
      obtain ⟨held, w⟩ := entry
      unfold set
      split
      next same =>
        obtain rfl : held = name := by simpa using same
        have notFound : (other == held) = false := by simpa using different
        simp [find?, List.lookup_cons, notFound]
      next =>
        simp only [find?, List.lookup_cons] at inductionHypothesis ⊢
        rw [inductionHypothesis]

/-- Storing what a scope holds changes nothing. -/
theorem set_eq_self (holds : scope.find? name = some v) :
    scope.set name v = scope := by
  induction scope with
  | nil =>
      cases holds
  | cons entry rest inductionHypothesis =>
      obtain ⟨held, w⟩ := entry
      unfold set
      split
      next same =>
        obtain rfl : held = name := by simpa using same
        have first : some w = some v := by simpa [find?] using holds
        rw [Option.some.inj first]
      next different =>
        have notFirst : (name == held) = false := by
          rw [BEq.comm]
          simpa using different
        have inRest : find? rest name = some v := by
          simpa [find?, List.lookup_cons, notFirst] using holds
        rw [inductionHypothesis inRest]

theorem overlay_append (scope first second : Scope) :
    scope.overlay (first ++ second) = (scope.overlay first).overlay second :=
  List.foldl_append

theorem nodup_names_overlay (distinct : scope.names.Nodup) (further : Scope) :
    (scope.overlay further).names.Nodup := by
  induction further generalizing scope with
  | nil =>
      exact distinct
  | cons entry rest inductionHypothesis =>
      exact inductionHypothesis (nodup_names_set distinct entry.1 entry.2)

/-- A name stands for what the further scope says, if that declares it. -/
theorem find?_overlay
    (scope : Scope)
    (distinct : further.names.Nodup)
    (name : String) :
    (scope.overlay further).find? name =
      (further.find? name).or (scope.find? name) := by
  induction further generalizing scope with
  | nil =>
      rfl
  | cons entry rest inductionHypothesis =>
      obtain ⟨held, v⟩ := entry
      obtain ⟨notLater, distinctLater⟩ := List.nodup_cons.mp distinct
      show ((scope.set held v).overlay rest).find? name = _
      rw [inductionHypothesis (scope.set held v) distinctLater, find?_cons]
      by_cases isHeld : name = held
      · subst isHeld
        have notFound : find? rest name = none := by
          rw [← Option.not_isSome_iff_eq_none]
          exact mt declares_iff.mp notLater
        simp [notFound]
      · simp [isHeld, find?_set_of_ne isHeld]

/-- Some scopes in one, the innermost of them first. -/
def flatten (scopes : List Scope) : Scope :=
  scopes.foldr (fun scope merged => merged.overlay scope) ([] : Scope)

theorem nodup_names_flatten (scopes : List Scope) :
    (flatten scopes).names.Nodup := by
  induction scopes with
  | nil =>
      exact List.nodup_nil
  | cons scope rest inductionHypothesis =>
      exact nodup_names_overlay inductionHypothesis scope

/-- The innermost scope that declares a name decides what it stands
for in all of them. -/
theorem find?_flatten
    {scopes : List Scope}
    (distinct : ∀ scope ∈ scopes, scope.names.Nodup)
    (name : String) :
    (flatten scopes).find? name =
      scopes.findSome? fun scope => scope.find? name := by
  induction scopes with
  | nil =>
      rfl
  | cons scope rest inductionHypothesis =>
      obtain ⟨here, later⟩ := List.forall_mem_cons.mp distinct
      show ((flatten rest).overlay scope).find? name = _
      rw [find?_overlay _ here, inductionHypothesis later, List.findSome?_cons]
      cases scope.find? name <;> rfl

/-- A store in one of some scopes leaves open what other names stand for. -/
theorem findSome?_modify
    (different : other ≠ name)
    (scopes : List Scope)
    (level : Nat) :
    ((scopes.modify level fun scope => scope.set name v).findSome? fun scope =>
        scope.find? other) =
      scopes.findSome? fun scope => scope.find? other := by
  induction scopes generalizing level with
  | nil =>
      rw [List.modify_nil]
  | cons scope rest inductionHypothesis =>
      cases level with
      | zero =>
          rw [List.modify_zero_cons, List.findSome?_cons, List.findSome?_cons,
            find?_set_of_ne different]
      | succ level =>
          rw [List.modify_succ_cons, List.findSome?_cons, List.findSome?_cons,
            inductionHypothesis]

/-- A store in a scope that declares the name adds no name. -/
theorem map_names_modify
    {scopes : List Scope}
    {level : Nat}
    (declared : ∀ scope, scopes[level]? = some scope → name ∈ scope.names) :
    (scopes.modify level fun scope => scope.set name v).map names =
      scopes.map names := by
  refine List.ext_getElem? fun i => ?_
  rw [List.getElem?_map, List.getElem?_map, List.getElem?_modify]
  cases held : scopes[i]? with
  | none =>
      rfl
  | some scope =>
      by_cases here : level = i
      · subst here
        simp [names_set_of_mem (declared scope held)]
      · simp [here]

end Scope

namespace Environment

/-- The visible scopes, the innermost first and the global one last. -/
def scopes (env : Environment) : List Scope :=
  env.blocks ++ [env.globals]

/-- The number of the scope that a variable is read from: the innermost
one that declares it. -/
def holder (env : Environment) (name : String) : Nat :=
  env.scopes.findIdx fun scope => scope.declares name

/-- What a name stands for in the scope with a number. -/
def valueIn? (env : Environment) (level : Nat) (name : String) : Option Value :=
  env.scopes[level]?.bind fun scope => scope.find? name

/-- All but some bindings are the same, the scopes declare the same names, and
the scopes that calls hide are the same. -/
structure ChangesWithin
    (bindings : Nat → String → Prop)
    (before after : Environment) : Prop where
  names : before.SameNames after
  callers : after.callers = before.callers
  values :
    ∀ level name, ¬ bindings level name →
      after.valueIn? level name = before.valueIn? level name

variable {env : Environment} {name other : String}

/-- An environment is made of its visible scopes and those that calls hide. -/
theorem eq_of_scopes
    {after : Environment}
    (scopes : after.scopes = env.scopes)
    (callers : after.callers = env.callers) :
    after = env := by
  obtain ⟨blocks, globals⟩ := List.append_inj' scopes rfl
  obtain ⟨afterGlobals, afterBlocks, afterCallers⟩ := after
  cases blocks
  cases callers
  cases List.singleton_inj.mp globals
  rfl

/-- The visible variables are those of all visible scopes in one. -/
theorem snapshot_eq_flatten (env : Environment) :
    env.snapshot = Scope.flatten env.scopes := by
  rw [Scope.flatten, scopes, List.foldr_append, snapshot, List.foldl_reverse]
  rfl

theorem scopeNames_eq (env : Environment) :
    env.scopeNames = env.scopes.map Scope.names := by
  simp [scopeNames, scopes]

/-- A variable has one holder as long as the scopes declare the same names. -/
theorem holder_eq (env : Environment) (name : String) :
    env.holder name =
      env.scopeNames.findIdx fun names => decide (name ∈ names) := by
  rw [scopeNames_eq, List.findIdx_map, holder]
  congr 1
  funext scope
  exact Bool.eq_iff_iff.mpr (by simp [Scope.declares_iff])

theorem SameNames.holder
    {before after : Environment}
    (same : before.SameNames after)
    (name : String) :
    after.holder name = before.holder name := by
  rw [holder_eq, holder_eq, same.visible]

/-- The first of some scopes that declares a name decides what it stands for. -/
theorem findSome?_eq_findIdx (scopes : List Scope) (name : String) :
    scopes.findSome? (fun scope => scope.find? name) =
      scopes[scopes.findIdx fun scope => scope.declares name]?.bind
        fun scope => scope.find? name := by
  induction scopes with
  | nil =>
      rfl
  | cons scope rest inductionHypothesis =>
      rw [List.findSome?_cons, List.findIdx_cons]
      cases found : scope.find? name with
      | some v =>
          have declared :
              scope.declares name = true := by simp [Scope.declares, found]
          simp [declared, found]
      | none =>
          have notDeclared :
              scope.declares name = false := by simp [Scope.declares, found]
          simpa [notDeclared] using inductionHypothesis

/-- A variable is looked up in the visible scopes from the innermost outward. -/
theorem find?_eq_findSome? (env : Environment) (name : String) :
    env.find? name = env.scopes.findSome? fun scope => scope.find? name := by
  rw [scopes, List.findSome?_append, List.findSome?_singleton]
  exact Option.orElse_eq_or

/-- A variable is read from its holder. -/
theorem find?_eq_valueIn? (env : Environment) (name : String) :
    env.find? name = env.valueIn? (env.holder name) name := by
  rw [valueIn?, holder, ← findSome?_eq_findIdx, find?_eq_findSome?]

/-- A variable is visible if it has a holder. -/
theorem holder_lt_iff :
    env.holder name < env.scopes.length ↔ env.contains name = true := by
  rw [holder, List.findIdx_lt_length, contains_iff, scopeNames_eq]
  simp [Scope.declares_iff]

/-- An assignment to a variable of a block stores in the first
scope that declares it. -/
theorem assignBlock?_eq_modify
    (blocks : List Scope)
    (name : String)
    (v : Value) :
    assignBlock? name v blocks =
      if blocks.findIdx (fun scope => scope.declares name) < blocks.length then
        some (blocks.modify (blocks.findIdx fun scope => scope.declares name)
          fun scope => scope.set name v)
      else none := by
  induction blocks with
  | nil =>
      rfl
  | cons scope rest inductionHypothesis =>
      rw [assignBlock?, List.findIdx_cons]
      cases declared : scope.declares name with
      | true =>
          simp
      | false =>
          rw [inductionHypothesis]
          simp only [Bool.false_eq_true, if_false, cond_false, List.length_cons,
            Nat.add_lt_add_iff_right, List.modify_succ_cons]
          split <;> rfl

/-- An assignment passes by scopes that do not declare the variable. -/
theorem assignBlock?_append
    (inner outer : List Scope)
    (name : String)
    (v : Value) :
    assignBlock? name v (inner ++ outer) =
      match assignBlock? name v inner with
      | some changed => some (changed ++ outer)
      | none => (assignBlock? name v outer).map (inner ++ ·) := by
  induction inner with
  | nil =>
      simp [assignBlock?]
  | cons scope rest inductionHypothesis =>
      rw [List.cons_append, assignBlock?, assignBlock?, inductionHypothesis]
      cases scope.declares name with
      | true =>
          rfl
      | false =>
          cases assignBlock? name v rest <;> simp [Function.comp_def]

/-- An assignment to a visible variable stores in its holder. -/
theorem scopes_assign
    (visible : env.contains name = true)
    (v : Value) :
    (env.assign name v).scopes =
      env.scopes.modify (env.holder name) fun scope => scope.set name v := by
  have stored :
      assignBlock? name v env.scopes =
        some
          (env.scopes.modify (env.holder name) fun scope => scope.set name v) := by
    rw [assignBlock?_eq_modify]
    exact if_pos (holder_lt_iff.mpr visible)
  rw [scopes, assignBlock?_append] at stored
  unfold assign
  cases inBlocks : assignBlock? name v env.blocks with
  | some blocks =>
      rw [inBlocks] at stored
      exact Option.some.inj stored
  | none =>
      rw [inBlocks] at stored
      cases declared : env.globals.declares name with
      | true =>
          simpa [assignBlock?, declared, scopes] using stored
      | false =>
          simp [assignBlock?, declared] at stored

theorem callers_assign (env : Environment) (name : String) (v : Value) :
    (env.assign name v).callers = env.callers := by
  unfold assign declare
  repeat' split
  all_goals rfl

/-- An assignment to a visible variable changes its binding in its holder. -/
theorem valueIn?_assign
    (visible : env.contains name = true)
    (v : Value)
    (level : Nat)
    (other : String) :
    (env.assign name v).valueIn? level other =
      if level = env.holder name ∧ other = name then some v
      else env.valueIn? level other := by
  have inside : env.holder name < env.scopes.length := holder_lt_iff.mpr visible
  rw [valueIn?, scopes_assign visible, List.getElem?_modify]
  by_cases here : env.holder name = level
  · subst here
    rw [List.getElem?_eq_getElem inside]
    by_cases isName : other = name
    · subst isName
      simp
    · simp [isName, valueIn?, List.getElem?_eq_getElem inside,
        Scope.find?_set_of_ne isName]
  · have elsewhere : ¬ (level = env.holder name ∧ other = name) :=
      fun both => here both.1.symm
    simp [here, elsewhere, valueIn?]

/-- What is assigned to a visible variable is what it stands for. -/
theorem find?_assign_self
    (visible : env.contains name = true)
    (v : Value) :
    (env.assign name v).find? name = some v := by
  rw [find?_eq_valueIn?, (sameNames_assign visible v).holder,
    valueIn?_assign visible, if_pos ⟨rfl, rfl⟩]

/-- An assignment of the value that a variable has changes nothing. -/
theorem assign_eq_self
    {v : Value}
    (holds : env.find? name = some v) :
    env.assign name v = env := by
  have visible : env.contains name = true := by simp [contains, holds]
  have same : (env.assign name v).scopes = env.scopes := by
    rw [scopes_assign visible]
    refine List.ext_getElem? fun level => ?_
    rw [List.getElem?_modify]
    by_cases here : env.holder name = level
    · subst here
      rw [find?_eq_valueIn?, valueIn?] at holds
      cases held : env.scopes[env.holder name]? with
      | none =>
          rfl
      | some scope =>
          rw [held] at holds
          simp [Scope.set_eq_self holds]
    · simp [here]
  exact eq_of_scopes same (callers_assign env name v)

theorem callers_declare (env : Environment) (name : String) (v : Value) :
    (env.declare name v).callers = env.callers := by
  unfold declare
  split <;> rfl

/-- A declared variable stands for its value. -/
theorem find?_declare_self (env : Environment) (name : String) (v : Value) :
    (env.declare name v).find? name = some v := by
  unfold declare
  split
  next isEmpty =>
    simp [find?, isEmpty]
  next =>
    simp [find?]

/-- An assignment to a variable that no scope declares declares it. -/
theorem assign_of_hidden
    (hidden : env.contains name = false)
    (v : Value) :
    env.assign name v = env.declare name v := by
  have inNone : assignBlock? name v (env.blocks ++ [env.globals]) = none := by
    rw [show env.blocks ++ [env.globals] = env.scopes from rfl,
      assignBlock?_eq_modify]
    exact if_neg (mt holder_lt_iff.mp (by simp [hidden]))
  rw [assignBlock?_append] at inNone
  unfold assign
  cases inBlocks : assignBlock? name v env.blocks with
  | some blocks =>
      simp [inBlocks] at inNone
  | none =>
      cases declared : env.globals.declares name with
      | true =>
          simp [inBlocks, assignBlock?, declared] at inNone
      | false =>
          simp

/-- What is assigned to a variable is what it stands for. -/
theorem find?_assign (env : Environment) (name : String) (v : Value) :
    (env.assign name v).find? name = some v := by
  cases visible : env.contains name with
  | true =>
      exact find?_assign_self visible v
  | false =>
      rw [assign_of_hidden visible]
      exact find?_declare_self env name v

namespace ChangesWithin

variable {bindings more : Nat → String → Prop} {before between after : Environment}

theorem refl (env : Environment) : ChangesWithin bindings env env :=
  ⟨refl_of SameNames env, rfl, fun _ _ _ => rfl⟩

theorem trans
    (first : ChangesWithin bindings before between)
    (second : ChangesWithin bindings between after) :
    ChangesWithin bindings before after where
  names := trans_of SameNames first.names second.names
  callers := second.callers.trans first.callers
  values level name outside :=
    (second.values level name outside).trans (first.values level name outside)

theorem mono
    (changes : ChangesWithin bindings before after)
    (included : ∀ level name, bindings level name → more level name) :
    ChangesWithin more before after where
  names := changes.names
  callers := changes.callers
  values level name outside := changes.values level name fun inside =>
    outside (included level name inside)

/-- An assignment to a visible variable changes the binding in its holder only. -/
theorem assign
    (visible : env.contains name = true)
    (v : Value) :
    ChangesWithin (fun level other => level = env.holder name ∧ other = name) env
      (env.assign name v) where
  names := sameNames_assign visible v
  callers := callers_assign env name v
  values level other outside := by rw [valueIn?_assign visible, if_neg outside]

end ChangesWithin

/-!
## Stores

A declaration and an assignment store a value in one scope. Everything else
about them follows from which scope that is.
-/

/-- A visible scope, by its number, gets a value for a name. -/
structure Stores
    (before : Environment)
    (level : Nat)
    (name : String)
    (v : Value)
    (after : Environment) : Prop where
  scopes : after.scopes = before.scopes.modify level fun scope => scope.set name v
  callers : after.callers = before.callers

/-- The number of the scope that an assignment stores in: the holder of the
variable, or else the innermost scope. -/
def target (env : Environment) (name : String) : Nat :=
  if env.contains name then env.holder name else 0

theorem stores_declare (env : Environment) (name : String) (v : Value) :
    env.Stores 0 name v (env.declare name v) where
  scopes := by
    unfold declare Environment.scopes
    cases env.blocks <;> rfl
  callers := callers_declare env name v

theorem stores_assign (env : Environment) (name : String) (v : Value) :
    env.Stores (env.target name) name v (env.assign name v) where
  scopes := by
    unfold target
    cases visible : env.contains name with
    | true =>
        exact scopes_assign visible v
    | false =>
        rw [assign_of_hidden visible]
        exact (stores_declare env name v).scopes
  callers := callers_assign env name v

theorem getElem?_scopes (env : Environment) :
    env.scopes[env.blocks.length]? = some env.globals :=
  List.getElem?_concat_length

theorem stores_setGlobals (env : Environment) (name : String) (v : Value) :
    env.Stores env.blocks.length name v { env with
      globals := env.globals.set name v } where
  scopes := by simp [Environment.scopes, List.modify_eq_take_drop]
  callers := rfl

namespace Stores

variable {after : Environment} {level : Nat} {v : Value}

/-- Other names stand for what they stood for. -/
theorem find?_of_ne
    (stores : env.Stores level name v after)
    (different : other ≠ name) :
    after.find? other = env.find? other := by
  rw [find?_eq_findSome?, stores.scopes, Scope.findSome?_modify different,
    find?_eq_findSome?]

/-- The same variables are visible, if the scope declares the name. -/
theorem contains_eq
    (stores : env.Stores level name v after)
    (declared : ∀ scope, env.scopes[level]? = some scope → name ∈ scope.names)
    (other : String) :
    after.contains other = env.contains other := by
  rw [Bool.eq_iff_iff, contains_iff, contains_iff, scopeNames_eq, scopeNames_eq,
    stores.scopes, Scope.map_names_modify declared]

theorem blocks (stores : env.Stores level name v after) :
    after.blocks = env.blocks.modify level fun scope => scope.set name v := by
  have lengths : after.blocks.length = env.blocks.length := by
    simpa [Environment.scopes] using congrArg List.length stores.scopes
  calc
    after.blocks = after.scopes.take env.blocks.length := by
      rw [Environment.scopes, ← lengths, List.take_left]
    _ = env.blocks.modify level fun scope => scope.set name v := by
      rw [stores.scopes, List.take_modify, Environment.scopes, List.take_left]

theorem length_blocks (stores : env.Stores level name v after) :
    after.blocks.length = env.blocks.length := by
  rw [stores.blocks, List.length_modify]

theorem globals (stores : env.Stores level name v after) :
    after.globals =
      env.globals.overlay (if env.blocks.length = level then
        [(name, v)]
      else []) := by
  have last := getElem?_scopes after
  rw [stores.scopes, stores.length_blocks, List.getElem?_modify,
    getElem?_scopes env] at last
  rw [← Option.some.inj last]
  by_cases isGlobal : env.blocks.length = level
  · simp [isGlobal, Scope.overlay]
  · simp [isGlobal, Ne.symm isGlobal, Scope.overlay]

/-- A scope and a name decide what a store leaves behind. -/
theorem unique
    {other : Environment}
    (stores : env.Stores level name v after)
    (storesOther : env.Stores level name v other) :
    after = other :=
  eq_of_scopes (stores.scopes.trans storesOther.scopes.symm)
    (stores.callers.trans storesOther.callers.symm)

end Stores

/-- The holder of a visible variable declares it. -/
theorem mem_names_of_holder
    {scope : Scope}
    (held : env.scopes[env.holder name]? = some scope) :
    name ∈ scope.names := by
  obtain ⟨inRange, isScope⟩ := List.getElem?_eq_some_iff.mp held
  have declared : (env.scopes[env.holder name]).declares name = true :=
    List.findIdx_getElem (p := fun scope : Scope => scope.declares name)
  rw [isScope] at declared
  exact Scope.declares_iff.mp declared

/-- An assignment beyond all block scopes stores in the global scope, which
declares the variable. -/
theorem assign_eq_setGlobals
    (isBlock : 0 < env.blocks.length)
    (beyond : env.blocks.length ≤ env.target name)
    (v : Value) :
    env.assign name v = { env with globals := env.globals.set name v } ∧
      name ∈ env.globals.names := by
  have visible : env.contains name = true := by
    by_contra hidden
    rw [target, if_neg hidden] at beyond
    omega
  have held : env.holder name = env.blocks.length := by
    have found := holder_lt_iff.mpr visible
    rw [target, if_pos visible] at beyond
    rw [scopes, List.length_append, List.length_singleton] at found
    omega
  have isTarget : env.target name = env.blocks.length := by
    rw [target, if_pos visible, held]
  exact
      ⟨(stores_assign env name v).unique (isTarget ▸ stores_setGlobals env name v),
    mem_names_of_holder (held ▸ getElem?_scopes env)⟩

/-- A value is stored for a variable in a scope that declares it. -/
def Updates (name : String) (before after : Environment) : Prop :=
  ∃ level v,
    before.Stores level name v after ∧
      ∀ scope, before.scopes[level]? = some scope → name ∈ scope.names

theorem updates_assign (visible : env.contains name = true) (v : Value) :
    Updates name env (env.assign name v) :=
  ⟨env.holder name, v, ⟨scopes_assign visible v, callers_assign env name v⟩,
    fun _ => mem_names_of_holder⟩

theorem updates_setGlobals (declared : name ∈ env.globals.names) (v : Value) :
    Updates name env { env with globals := env.globals.set name v } := by
  refine ⟨env.blocks.length, v, stores_setGlobals env name v,
    fun scope isGlobal => ?_⟩
  rw [getElem?_scopes] at isGlobal
  cases isGlobal
  exact declared

theorem Updates.contains_eq
    {after : Environment}
    (updates : Updates other env after)
    (name : String) :
    after.contains name = env.contains name := by
  obtain ⟨level, v, stores, declared⟩ := updates
  exact stores.contains_eq declared name

theorem Updates.find?_of_ne
    {after : Environment}
    (updates : Updates other env after)
    (different : name ≠ other) :
    after.find? name = env.find? name := by
  obtain ⟨level, v, stores, -⟩ := updates
  exact stores.find?_of_ne different

end Environment

end GridScript.Script
