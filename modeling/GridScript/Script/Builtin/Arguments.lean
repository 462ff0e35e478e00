import GridScript.Value.Arithmetic

namespace GridScript.Script

/-!
# Arguments of built-in functions

Built-in functions check the number and the kinds of their arguments with one
wording. An integer argument may be a float without a fraction.
-/

open GridScript.Number

/-- The arity with the given bounds; without an upper bound any
longer list is accepted. -/
def Arity.bounds (low : Nat) : Option Nat → Arity
  | none => .atLeast low
  | some high => if high = low then .exactly low else .between low high

/-- A number of arguments is accepted. -/
def Arity.accepts (arity : Arity) (count : Nat) : Bool :=
  match arity with
  | .exactly n => count == n
  | .atLeast n => n ≤ count
  | .between low high => low ≤ count && count ≤ high

/-- The arguments have an accepted number. -/
def checkArity (name : String) (arity : Arity) (arguments : List Value) :
    Outcome OperationError Unit :=
  if Arity.accepts arity arguments.length then .ok ()
  else fail (.arguments name (.arity arity) (some (.count arguments.length)))

/-- An integer argument. -/
def intArgument
    (name : String)
    (v : Value)
    (what : String) : Outcome OperationError Int :=
  match v with
  | .int i => .ok i
  | .float x =>
      match whole? x with
      | some i => .ok i
      | none => fail (.arguments name (.integer what) (some (.float x)))
  | v => fail (typeFound name (.integer what) v)

/-- A number argument. -/
def numberArgument
    (name : String)
    (v : Value)
    (what : String) : Outcome OperationError Number :=
  match v.number? with
  | some n => .ok n
  | none => fail (typeFound name (.number what) v)

/-- A text argument. -/
def stringArgument
    (name : String)
    (v : Value)
    (what : String) : Outcome OperationError String :=
  match v with
  | .string s => .ok s
  | v => fail (typeFound name (.string what) v)

/-- The argument at a position; null where there is none. -/
def argument (arguments : List Value) (i : Nat) : Value :=
  arguments.getD i .null

end GridScript.Script
