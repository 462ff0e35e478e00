import GridScript.Formula.Function
import GridScript.Formula.Parser

namespace GridScript.Formula

/-!
# Evaluation

An expression is evaluated in a context of named values, and against a resolver
that answers its references. A blank counts as the empty text beside a text and
as zero elsewhere; a range is no operand.
-/

/-- The values of names; of several entries for a name the first counts. -/
abbrev Context := List (String × Value)

/-- The names of a context, each once and sorted. -/
def Context.names (context : Context) : List String :=
  (context.map Prod.fst).eraseDups.mergeSort fun a b => decide (a ≤ b)

/-- The answers to references. -/
abbrev Resolver := Reference → Evaluated

/-- A blank as the operand beside another one. -/
def fillBlank (v other : Value) : Value :=
  match v, other with
  | .null, .string _ => .string ""
  | .null, _ => .int 0
  | v, _ => v

/-- A blank as a text. -/
def blankText : Value → Value
  | .null => .string ""
  | v => v

/-- A binary operator applied to two values. -/
def applyOperator (operator : Operator) (left right : Value) : Evaluated :=
  if left.isArray || right.isArray then fail (.rangeOperand operator)
  else
    match operator with
    | .concat => guarded (applyBinary .concat (blankText left) (blankText right))
    | .div =>
        let l := fillBlank left right
        let r := fillBlank right left
        if (r.number?.map Number.isZero).getD false then fail .divisionByZero
        else guarded (applyBinary .div l r)
    | operator =>
        guarded (applyBinary operator (fillBlank left right) (fillBlank right left))

/-- A sign applied to a value. -/
def applySign (sign : Sign) (v : Value) : Evaluated :=
  let operand :=
    match v with
    | .null => .int 0
    | v => v
  if !operand.isNumber then fail (.signOf sign operand)
  else
    match sign with
    | .minus => guarded (applyUnary .negate operand)
    | .plus => .ok operand
    | .percent => guarded (applyBinary .div operand (.float 100))

/-- The value of a name. -/
def lookupName (context : Context) (name : String) : Evaluated :=
  match context.lookup name with
  | some v => .ok v
  | none => fail (.unknownReference name context.names)

/-- The resolver where there is no sheet: it knows no reference. -/
def noResolver (context : Context) : Resolver := fun reference =>
  fail (.unknownReference reference.text context.names)

namespace Expression

mutual

/-- The value of an expression. -/
def evaluate (context : Context) (resolve : Resolver) : Expression → Evaluated
  | literal l => .ok l.value
  | reference r => resolve r
  | name n => lookupName context n
  | signed sign operand => do applySign sign (← evaluate context resolve operand)
  | binary operator left right => do
      let l ← evaluate context resolve left
      let r ← evaluate context resolve right
      applyOperator operator l r
  | call function arguments =>
      match Function.ofName? function with
      | some f => applyFunction f (evaluateAll context resolve arguments)
      | none => fail (.function function .unknown)

/-- The results of some expressions. -/
def evaluateAll
    (context : Context)
    (resolve : Resolver) : List Expression → List Evaluated
  | [] => []
  | e :: rest => evaluate context resolve e :: evaluateAll context resolve rest

end

end Expression

/-- The value of a formula text. Without a resolver no reference is known. -/
def evaluate
    (context : Context)
    (resolver : Option Resolver)
    (text : String) : Outcome Error Value := do
  let e ← Outcome.mapError .parse (parse text)
  Outcome.mapError .evaluation
    (e.evaluate context (resolver.getD (noResolver context)))

end GridScript.Formula
