import GridScript.Text.Quoted

namespace GridScript

/-!
# Registries

A registry names books that several scripts share. It keeps what it was given,
be it a book or a handle to one.
-/

/-- Named entries, in the order in which they were registered. -/
structure Registry (α : Type) where
  entries : List (String × α)
  deriving Repr

/-- The errors of a registry. -/
inductive RegistryError where
  | taken (name : String)
  | unknown (name : String)
  /-- There is nothing to unregister. -/
  | absent (name : String)
  deriving Repr, DecidableEq

/-- The wording of an error of a registry. -/
def RegistryError.message : RegistryError → String
  | taken name => "Book already registered: " ++ Text.quoted name
  | unknown name => "Unknown book: " ++ Text.quoted name
  | absent name => name

namespace Registry

/-- A registry without entries. -/
def empty : Registry α := ⟨[]⟩

/-- The entry with a name. -/
def find? (registry : Registry α) (name : String) : Option α :=
  registry.entries.lookup name

/-- The entry with a name. -/
def get (registry : Registry α) (name : String) : Except RegistryError α :=
  match registry.find? name with
  | some entry => .ok entry
  | none => .error (.unknown name)

/-- Register an entry under a name that is not taken. -/
def register (registry : Registry α) (name : String) (entry : α) :
    Except RegistryError (Registry α) :=
  if (registry.find? name).isSome then .error (.taken name)
  else .ok ⟨registry.entries ++ [(name, entry)]⟩

/-- The entry with a name, which is registered first if it is not there. -/
def getOrCreate
    (registry : Registry α)
    (name : String)
    (fresh : α) : α × Registry α :=
  match registry.find? name with
  | some entry => (entry, registry)
  | none => (fresh, ⟨registry.entries ++ [(name, fresh)]⟩)

/-- Remove an entry; it comes beside the registry. -/
def unregister
    (registry : Registry α)
    (name : String) : Except RegistryError (α × Registry α) :=
  match registry.find? name with
  | some entry => .ok (entry, ⟨registry.entries.filter fun held => held.1 != name⟩)
  | none => .error (.absent name)

/-- The names of the entries, in order. -/
def names (registry : Registry α) : List String :=
  registry.entries.map Prod.fst

end Registry

end GridScript
