import GridScript.Text.Case
import GridScript.Value.Arithmetic
import GridScript.Value.Basic

namespace GridScript.Script

/-!
# Programs

A program is a list of statements. Every node carries the line of the text that
it was written on, counted from one.
-/

open GridScript.Text

/-- The binary operators of scripts; the logical ones evaluate their right
operand only if needed. -/
inductive BinaryOperator where
  | disjunction
  | conjunction
  | apply (operator : Operator)
  deriving Repr, DecidableEq

/-- The sign of a binary operator. -/
def BinaryOperator.sign : BinaryOperator → String
  | disjunction => "or"
  | conjunction => "and"
  | apply operator => operator.sign

/-- An expression. -/
inductive Expression where
  | literal (literal : Literal) (line : Nat)
  /-- The value of a variable. -/
  | name (name : String) (line : Nat)
  | unary (operator : UnaryOperator) (operand : Expression) (line : Nat)
  | binary (operator : BinaryOperator) (left right : Expression) (line : Nat)
  | call (name : String) (arguments : List Expression) (line : Nat)
  | index (target index : Expression) (line : Nat)
  | array (items : List Expression) (line : Nat)
  deriving Repr, Inhabited

/-- The line of an expression. -/
def Expression.line : Expression → Nat
  | literal _ line => line
  | name _ line => line
  | unary _ _ line => line
  | binary _ _ _ line => line
  | call _ _ line => line
  | index _ _ line => line
  | array _ line => line

/-- An assignment target: a variable, or a place inside the arrays that it holds. -/
structure Target where
  name : String
  /-- The indexes from the variable inward. -/
  indexes : List Expression
  line : Nat
  deriving Repr

/-- How a parameter takes its argument. -/
inductive ParameterMode where
  | byValue
  | byReference
  | optional
  /-- All remaining arguments, as an array. -/
  | rest
  deriving Repr, DecidableEq

/-- A parameter of a script function. -/
structure Parameter where
  name : String
  mode : ParameterMode
  default : Option Expression
  line : Nat
  deriving Repr

/-- What an exit statement leaves. -/
inductive ExitKind where
  | forLoop
  | whileLoop
  | function
  deriving Repr, DecidableEq

/-- The word for what an exit statement leaves. -/
def ExitKind.word : ExitKind → String
  | forLoop => "for"
  | whileLoop => "while"
  | function => "function"

/-- A statement. -/
inductive Statement where
  /-- Declare a variable in the current scope. -/
  | dim (name : String) (value : Option Expression) (line : Nat)
  | assign (target : Target) (value : Expression) (line : Nat)
  | conditional
      (branches : List (Expression × List Statement))
      (otherwise : Option (List Statement))
      (line : Nat)
  | forRange
      (name : String)
      (start finish : Expression)
      (step : Option Expression)
      (body : List Statement)
      (line : Nat)
  | forEach
      (name : String)
      (collection : Expression)
      (body : List Statement)
      (line : Nat)
  | whileLoop (condition : Expression) (body : List Statement) (line : Nat)
  | define
      (name : String)
      (parameters : List Parameter)
      (body : List Statement)
      (line : Nat)
  | giveBack (value : Option Expression) (line : Nat)
  | exit (kind : ExitKind) (line : Nat)
  /-- Call a function for its effect. -/
  | evaluate (call : Expression) (line : Nat)
  deriving Repr, Inhabited

/-- The line of a statement. -/
def Statement.line : Statement → Nat
  | dim _ _ line => line
  | assign _ _ line => line
  | conditional _ _ line => line
  | forRange _ _ _ _ _ line => line
  | forEach _ _ _ line => line
  | whileLoop _ _ line => line
  | define _ _ _ line => line
  | giveBack _ line => line
  | exit _ line => line
  | evaluate _ line => line

/-- A script function. -/
structure Definition where
  name : String
  parameters : List Parameter
  body : List Statement
  deriving Repr

/-- A parsed script. -/
structure Program where
  statements : List Statement
  deriving Repr

/-- The function that a statement defines. -/
def Statement.definition? : Statement → Option Definition
  | define name parameters body _ => some ⟨name, parameters, body⟩
  | _ => none

/-- The functions defined at top level, by lower-case name; the last of
one name comes last. -/
def Program.functions (program : Program) : List (String × Definition) :=
  program.statements.filterMap fun statement =>
    statement.definition?.map fun definition => (lower definition.name, definition)

end GridScript.Script
