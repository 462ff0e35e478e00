import GridScript.Formula.Reference
import GridScript.Value.Arithmetic
import GridScript.Value.Basic

namespace GridScript.Formula

/-!
# Expressions of formulas

`Expression.references` lists what an expression may read from sheets and
`Expression.names` what it may read from the context.
-/

/-- The signs: two before an operand and the percent sign after it. -/
inductive Sign where
  | minus
  | plus
  | percent
  deriving Repr, DecidableEq

/-- The text of a sign. -/
def Sign.text : Sign → String
  | minus => "-"
  | plus => "+"
  | percent => "%"

/-- An expression. -/
inductive Expression where
  | literal (literal : Literal)
  | reference (reference : Reference)
  /-- A name of the context. -/
  | name (name : String)
  | signed (sign : Sign) (operand : Expression)
  | binary (operator : Operator) (left right : Expression)
  /-- A call of a function by its name in capitals. -/
  | call (function : String) (arguments : List Expression)
  deriving Repr, Inhabited

namespace Expression

mutual

/-- The references in an expression, from left to right. -/
def allReferences : Expression → List Reference
  | literal _ => []
  | reference r => [r]
  | name _ => []
  | signed _ operand => operand.allReferences
  | binary _ left right => left.allReferences ++ right.allReferences
  | call _ arguments => allReferencesOf arguments

/-- The references in some expressions, from left to right. -/
def allReferencesOf : List Expression → List Reference
  | [] => []
  | e :: rest => e.allReferences ++ allReferencesOf rest

end

mutual

/-- The names in an expression, from left to right. -/
def allNames : Expression → List String
  | literal _ => []
  | reference _ => []
  | name n => [n]
  | signed _ operand => operand.allNames
  | binary _ left right => left.allNames ++ right.allNames
  | call _ arguments => allNamesOf arguments

/-- The names in some expressions, from left to right. -/
def allNamesOf : List Expression → List String
  | [] => []
  | e :: rest => e.allNames ++ allNamesOf rest

end

/-- The texts of the references in an expression, each once, in the order of
their first places. -/
def references (e : Expression) : List String :=
  (e.allReferences.map Reference.text).eraseDups

/-- The names in an expression, each once and sorted. -/
def names (e : Expression) : List String :=
  e.allNames.eraseDups.mergeSort fun a b => decide (a ≤ b)

end Expression

end GridScript.Formula
