import GridScript.Proofs.Entries
import GridScript.Script.Environment
import Mathlib.Order.Defs.Unbundled

namespace GridScript.Script

/-!
# The names that scopes declare

Storing a value changes the names of at most one scope: an assignment to a
visible variable changes none, and every other store adds a name to the
innermost scope. `SameNames` and `GrowsInside` say this of two
environments, and both compose.
-/

namespace Scope

/-- The names that a scope declares, in the order of their declarations. -/
def names (scope : Scope) : List String :=
  scope.map Prod.fst

/-- A scope declares exactly its names. -/
theorem declares_iff
    {scope : Scope}
    {name : String} :
    scope.declares name = true ↔ name ∈ scope.names :=
  lookup_isSome

/-- Storing under a declared name adds no name. -/
theorem names_set_of_mem
    {scope : Scope}
    {name : String}
    (member : name ∈ scope.names)
    (v : Value) :
    (scope.set name v).names = scope.names := by
  induction scope with
  | nil =>
      simp [names] at member
  | cons entry rest inductionHypothesis =>
      rcases entry with ⟨held, w⟩
      unfold set
      by_cases same : held = name
      · simp [same, names]
      · have inRest : name ∈ names rest := by
          rcases List.mem_cons.mp member with isHeld | inRest
          · exact (same isHeld.symm).elim
          · exact inRest
        have restNames := inductionHypothesis inRest
        simp only [names] at restNames ⊢
        simp [same, restNames]

/-- Storing under a new name adds it at the end. -/
theorem names_set_of_not_mem
    {scope : Scope}
    {name : String}
    (fresh : name ∉ scope.names)
    (v : Value) :
    (scope.set name v).names = scope.names ++ [name] := by
  induction scope with
  | nil =>
      simp [set, names]
  | cons entry rest inductionHypothesis =>
      rcases entry with ⟨held, w⟩
      simp only [names, List.map_cons, List.mem_cons, not_or] at fresh
      have different : ¬ held = name :=
        fun same => fresh.1 same.symm
      have restNames := inductionHypothesis fresh.2
      simp only [names] at restNames
      simp [set, names, different, restNames]

/-- Storing keeps the names of a scope distinct. -/
theorem nodup_names_set
    {scope : Scope}
    (distinct : scope.names.Nodup)
    (name : String)
    (v : Value) :
    (scope.set name v).names.Nodup := by
  by_cases member : name ∈ scope.names
  · rwa [names_set_of_mem member]
  · rw [names_set_of_not_mem member, ← List.concat_eq_append, List.nodup_concat]
    exact ⟨member, distinct⟩

/-- Storing adds at most the name. -/
theorem names_set_grows
    (scope : Scope)
    (name : String)
    (v : Value) :
    ∃ added, (scope.set name v).names = scope.names ++ added := by
  by_cases member : name ∈ scope.names
  · exact ⟨[], by simp [names_set_of_mem member]⟩
  · exact ⟨[name], names_set_of_not_mem member v⟩

end Scope

namespace Environment

/-- The names of each visible scope, the innermost scope first and
the global one last. -/
def scopeNames (env : Environment) : List (List String) :=
  env.blocks.map Scope.names ++ [env.globals.names]

/-- The names of the scopes that calls hide. -/
def hiddenNames (env : Environment) : List (List (List String)) :=
  env.callers.map fun blocks => blocks.map Scope.names

/-- There are as many lists of names as scopes. -/
theorem length_scopeNames (env : Environment) :
    env.scopeNames.length = env.depth := by
  simp [scopeNames, depth]

/-- Every scope declares the names that it declared before, and no others. -/
structure SameNames (before after : Environment) : Prop where
  visible : after.scopeNames = before.scopeNames
  hidden : after.hiddenNames = before.hiddenNames

instance : IsPreorder Environment SameNames where
  refl _ := ⟨rfl, rfl⟩
  trans _ _ _ first second :=
    ⟨second.visible.trans first.visible, second.hidden.trans first.hidden⟩

/-- The innermost scope may have got further names; all other scopes declare
what they declared. -/
structure GrowsInside (before after : Environment) : Prop where
  visible :
    ∃ inner outer added,
      before.scopeNames = inner :: outer ∧
        after.scopeNames = (inner ++ added) :: outer
  hidden : after.hiddenNames = before.hiddenNames

/-- There is always an innermost scope. -/
theorem exists_scopeNames_eq_cons (env : Environment) :
    ∃ inner outer, env.scopeNames = inner :: outer := by
  cases held : env.blocks with
  | nil =>
      exact ⟨env.globals.names, [], by simp [scopeNames, held]⟩
  | cons scope rest =>
      exact ⟨scope.names, rest.map Scope.names ++ [env.globals.names],
        by simp [scopeNames, held]⟩

/-- Scopes with the same names have grown by nothing. -/
theorem SameNames.growsInside
    {before after : Environment}
    (same : SameNames before after) :
    GrowsInside before after := by
  obtain ⟨inner, outer, shape⟩ := exists_scopeNames_eq_cons before
  exact ⟨⟨inner, outer, [], shape, by simp [same.visible, shape]⟩, same.hidden⟩

instance : IsPreorder Environment GrowsInside where
  refl env := SameNames.growsInside (refl_of SameNames env)
  trans before between after first second := by
    obtain ⟨inner, outer, added, beforeShape, betweenShape⟩ := first.visible
    obtain ⟨grown, rest, more, sameShape, afterShape⟩ := second.visible
    rw [betweenShape] at sameShape
    cases sameShape
    exact ⟨⟨inner, outer, added ++ more, beforeShape, by simp [afterShape]⟩,
      second.hidden.trans first.hidden⟩

/-- A variable is visible when some scope declares its name. -/
theorem contains_iff
    {env : Environment}
    {name : String} :
    env.contains name = true ↔ ∃ names ∈ env.scopeNames, name ∈ names := by
  have declared (scope : Scope) :
      (scope.find? name).isSome = true ↔ name ∈ scope.names :=
    Scope.declares_iff
  have inBlocks (blocks : List Scope) :
      (blocks.findSome? fun scope => scope.find? name).isSome = true ↔
        ∃ scope ∈ blocks, name ∈ scope.names := by
    rw [List.isSome_findSome?]
    simp [declared]
  have split :
      env.contains name =
        ((env.blocks.findSome? fun scope => scope.find? name).isSome ||
          (env.globals.find? name).isSome) := by
    unfold contains Environment.find?
    cases env.blocks.findSome? fun scope => scope.find? name <;> rfl
  rw [split, Bool.or_eq_true, inBlocks, declared]
  simp only [scopeNames, List.mem_append, List.mem_map, List.mem_singleton]
  constructor
  · rintro (⟨scope, member, inScope⟩ | inGlobals)
    · exact ⟨scope.names, .inl ⟨scope, member, rfl⟩, inScope⟩
    · exact ⟨env.globals.names, .inr rfl, inGlobals⟩
  · rintro ⟨names, ⟨scope, member, rfl⟩ | rfl, inNames⟩
    · exact .inl ⟨scope, member, inNames⟩
    · exact .inr inNames

/-- The same variables are visible. -/
theorem SameNames.contains
    {before after : Environment}
    (same : SameNames before after)
    {name : String}
    (visible : before.contains name = true) :
    after.contains name = true := by
  rw [contains_iff] at visible ⊢
  rwa [same.visible]

/-- A declaration adds at most its name, to the innermost scope. -/
theorem growsInside_declare
    (env : Environment)
    (name : String)
    (v : Value) :
    GrowsInside env (env.declare name v) := by
  unfold declare
  cases held : env.blocks with
  | nil =>
      obtain ⟨added, grown⟩ := env.globals.names_set_grows name v
      exact ⟨⟨env.globals.names, [], added,
        by simp [scopeNames, held], by simp [scopeNames, grown]⟩, rfl⟩
  | cons scope rest =>
      obtain ⟨added, grown⟩ := scope.names_set_grows name v
      exact ⟨⟨scope.names, rest.map Scope.names ++ [env.globals.names], added,
        by simp [scopeNames, held], by simp [scopeNames, grown]⟩, rfl⟩

/-- An assignment to a variable of a block adds no name. -/
theorem names_assignBlock?
    {name : String}
    {v : Value}
    {blocks changed : List Scope}
    (assigned : assignBlock? name v blocks = some changed) :
    changed.map Scope.names = blocks.map Scope.names := by
  induction blocks generalizing changed with
  | nil =>
      simp [assignBlock?] at assigned
  | cons scope rest inductionHypothesis =>
      unfold assignBlock? at assigned
      split at assigned
      · rename_i declared
        cases assigned
        simp [Scope.names_set_of_mem (Scope.declares_iff.mp declared)]
      · obtain ⟨restChanged, restAssigned, rfl⟩ :=
          Option.map_eq_some_iff.mp assigned
        simp [inductionHypothesis restAssigned]

/-- A block that declares the name takes the assignment. -/
theorem assignBlock?_isSome
    {name : String}
    {blocks : List Scope}
    (declared : ∃ scope ∈ blocks, name ∈ scope.names)
    (v : Value) :
    (assignBlock? name v blocks).isSome = true := by
  induction blocks with
  | nil =>
      simp at declared
  | cons scope rest inductionHypothesis =>
      unfold assignBlock?
      split
      · rfl
      · rename_i notHere
        rw [Option.isSome_map]
        apply inductionHypothesis
        obtain ⟨found, member, inFound⟩ := declared
        rcases List.mem_cons.mp member with rfl | inRest
        · exact (notHere (Scope.declares_iff.mpr inFound)).elim
        · exact ⟨found, inRest, inFound⟩

/-- An assignment to a visible variable adds no name. -/
theorem sameNames_assign
    {env : Environment}
    {name : String}
    (visible : env.contains name = true)
    (v : Value) :
    SameNames env (env.assign name v) := by
  unfold assign
  split
  · rename_i blocks assigned
    exact ⟨by simp [scopeNames, names_assignBlock? assigned], rfl⟩
  · rename_i notInBlocks
    have inGlobals : name ∈ env.globals.names := by
      obtain ⟨names, member, inNames⟩ := contains_iff.mp visible
      simp only [scopeNames, List.mem_append, List.mem_map,
        List.mem_singleton] at member
      rcases member with ⟨scope, inBlocks, rfl⟩ | rfl
      · have assigned := assignBlock?_isSome ⟨scope, inBlocks, inNames⟩ v
        simp [notInBlocks] at assigned
      · exact inNames
    have declared := Scope.declares_iff.mpr inGlobals
    exact ⟨by simp [scopeNames, declared, Scope.names_set_of_mem inGlobals],
      by simp [hiddenNames, declared]⟩

/-- An assignment adds at most its name, to the innermost scope. -/
theorem growsInside_assign
    (env : Environment)
    (name : String)
    (v : Value) :
    GrowsInside env (env.assign name v) := by
  unfold assign
  split
  · rename_i blocks assigned
    have same : SameNames env { env with blocks := blocks } :=
      ⟨by simp [scopeNames, names_assignBlock? assigned], rfl⟩
    exact same.growsInside
  · split
    · rename_i declared
      have inGlobals := Scope.declares_iff.mp declared
      have same :
          SameNames env { env with globals := env.globals.set name v } :=
        ⟨by simp [scopeNames, Scope.names_set_of_mem inGlobals], rfl⟩
      exact same.growsInside
    · exact growsInside_declare env name v

/-- Closing an inner scope forgets its names only. -/
theorem scopeNames_leaveScope
    {env : Environment}
    {inner : List String}
    {outer : List (List String)}
    (shape : env.scopeNames = inner :: outer)
    (inside : outer ≠ []) :
    env.leaveScope.scopeNames = outer := by
  cases held : env.blocks with
  | nil =>
      simp only [scopeNames, held, List.map_nil, List.nil_append,
        List.cons.injEq] at shape
      exact (inside shape.2.symm).elim
  | cons scope rest =>
      simp only [scopeNames, held, List.map_cons, List.cons_append,
        List.cons.injEq] at shape
      simp [leaveScope, scopeNames, held, shape.2]

/-- A scope that is opened and closed around growth leaves all
names as they were. -/
theorem sameNames_leaveScope
    {env after : Environment}
    (grown : GrowsInside env.push after) :
    SameNames env after.leaveScope := by
  obtain ⟨inner, outer, added, pushed, afterShape⟩ := grown.visible
  have pushedShape : env.push.scopeNames = [] :: env.scopeNames := rfl
  rw [pushedShape] at pushed
  cases pushed
  obtain ⟨first, rest, shape⟩ := exists_scopeNames_eq_cons env
  exact ⟨scopeNames_leaveScope afterShape (by simp [shape]), grown.hidden⟩

/-- Leaving a call shows the names of the caller again, and those
of the global scope. -/
theorem sameNames_leaveCall
    {env after : Environment}
    {bindings : Scope}
    (grown : GrowsInside (env.enterCall bindings) after) :
    SameNames env after.leaveCall := by
  obtain ⟨inner, outer, added, entered, afterShape⟩ := grown.visible
  have enteredShape :
      (env.enterCall bindings).scopeNames = [bindings.names, env.globals.names] :=
      rfl
  rw [enteredShape] at entered
  cases entered
  have globalsSame : after.globals.names = env.globals.names := by
    have lastSame := congrArg List.getLast? afterShape
    simpa [scopeNames] using lastSame
  have hidden := grown.hidden
  cases held : after.callers with
  | nil =>
      simp [hiddenNames, enterCall, held] at hidden
  | cons blocks callers =>
      simp only [hiddenNames, enterCall, held, List.map_cons,
        List.cons.injEq] at hidden
      constructor
      · simp [leaveCall, scopeNames, held, hidden.1, globalsSame]
      · simp [leaveCall, hiddenNames, held, hidden.2]

end Environment

end GridScript.Script
