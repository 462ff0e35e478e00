import GridScript.Value.Display

namespace GridScript.Script

/-!
# Environments

Variables live in scopes: the global scope, and block scopes on top of it.
Reading walks from the innermost scope outward. A function call hides the block
scopes of its caller until it ends.
-/

/-- Variables with their values, in the order of their declarations. -/
abbrev Scope := List (String × Value)

namespace Scope

/-- The value of a variable. -/
def find? (scope : Scope) (name : String) : Option Value :=
  scope.lookup name

/-- The scope declares a variable. -/
def declares (scope : Scope) (name : String) : Bool :=
  (scope.find? name).isSome

/-- Store a value under a name, in its place or at the end. -/
def set (scope : Scope) (name : String) (v : Value) : Scope :=
  match scope with
  | [] => [(name, v)]
  | (held, w) :: rest =>
      if held == name then (held, v) :: rest else (held, w) :: set rest name v

/-- The variables of a scope and of a further one that shadows it. -/
def overlay (scope further : Scope) : Scope :=
  further.foldl (fun merged (name, v) => merged.set name v) scope

end Scope

/-- The scopes that a script sees, and those that calls hide. -/
structure Environment where
  globals : Scope
  /-- The block scopes, the innermost first. -/
  blocks : List Scope
  /-- The hidden block scopes of the callers, the last caller first. -/
  callers : List (List Scope)
  deriving Repr, Inhabited

namespace Environment

/-- An environment with global variables only. -/
def ofGlobals (globals : Scope) : Environment :=
  ⟨globals, [], []⟩

/-- The number of visible scopes. -/
def depth (env : Environment) : Nat :=
  env.blocks.length + 1

/-- The value of a variable. -/
def find? (env : Environment) (name : String) : Option Value :=
  env.blocks.findSome? (·.find? name) <|> env.globals.find? name

/-- The variable is visible. -/
def contains (env : Environment) (name : String) : Bool :=
  (env.find? name).isSome

/-- Store a value in the innermost scope. -/
def declare (env : Environment) (name : String) (v : Value) : Environment :=
  match env.blocks with
  | [] => { env with globals := env.globals.set name v }
  | scope :: rest => { env with blocks := scope.set name v :: rest }

/-- Block scopes with a value stored in the innermost one that declares the name. -/
def assignBlock? (name : String) (v : Value) : List Scope → Option (List Scope)
  | [] => none
  | scope :: rest =>
      if scope.declares name then some (scope.set name v :: rest)
      else (assignBlock? name v rest).map (scope :: ·)

/-- Store a value in the innermost scope that declares the name, else in
the innermost scope. -/
def assign (env : Environment) (name : String) (v : Value) : Environment :=
  match assignBlock? name v env.blocks with
  | some blocks => { env with blocks := blocks }
  | none =>
      if env.globals.declares name then
        { env with globals := env.globals.set name v }
      else env.declare name v

/-- Open a block scope. -/
def push (env : Environment) : Environment :=
  { env with blocks := [] :: env.blocks }

/-- Close the innermost block scope; it comes beside the environment. The
global scope stays. -/
def pop? (env : Environment) : Option (Scope × Environment) :=
  match env.blocks with
  | [] => none
  | scope :: rest => some (scope, { env with blocks := rest })

/-- The environment without its innermost block scope. -/
def leaveScope (env : Environment) : Environment :=
  { env with blocks := env.blocks.drop 1 }

/-- Hide the block scopes behind the scope of a function call. -/
def enterCall (env : Environment) (bindings : Scope) : Environment :=
  ⟨env.globals, [bindings], env.blocks :: env.callers⟩

/-- The scope of the current function call. -/
def callScope (env : Environment) : Scope :=
  env.blocks.getLast?.getD []

/-- Show the block scopes of the caller again. -/
def leaveCall (env : Environment) : Environment :=
  ⟨env.globals, env.callers.headD [], env.callers.drop 1⟩

/-- The visible variables; inner scopes shadow outer ones. -/
def snapshot (env : Environment) : Scope :=
  env.blocks.reverse.foldl Scope.overlay (Scope.overlay [] env.globals)

/-- What an environment is called in a listing. -/
def summary (env : Environment) : String :=
  s!"Environment(depth={env.depth}, names=" ++
    shownNames (env.snapshot.map Prod.fst) ++ ")"

end Environment

end GridScript.Script
