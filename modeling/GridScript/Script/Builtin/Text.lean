import GridScript.Number.Reading
import GridScript.Script.Builtin.Arguments
import GridScript.Script.Builtin.Catalogue
import GridScript.Text.Search

namespace GridScript.Script

/-!
# Functions on texts, and conversions

Positions in texts count from one.
-/

open GridScript.Number
open GridScript.Text

/-- A number of characters. -/
def countArgument
    (name : String)
    (v : Value)
    (what : String) : Outcome OperationError Nat := do
  let n ← intArgument name v what
  if n < 0 then fail (.arguments name (.nonNegative what) (some (.int n)))
  else return n.toNat

/-- A position in a text. -/
def startArgument (name : String) (v : Value) : Outcome OperationError Nat := do
  let start ← intArgument name v "start"
  if start < 1 then fail (.arguments name .startPosition (some (.int start)))
  else return start.toNat

/-- A float as an integer, cut toward zero. -/
def intOfFloat (x : Float) : Outcome OperationError Value :=
  match truncate? x with
  | some i => checkedValue i
  | none => fail (.arguments "int" .finiteNumber (some (.float x)))

/-- A value as an integer. -/
def toInt (v : Value) : Outcome OperationError Value :=
  match v with
  | .bool b => .ok (.int (if b then 1 else 0))
  | .int i => .ok (.int i)
  | .float x => intOfFloat x
  | .string s =>
      match readInt s.toList with
      | .value i => checkedValue i
      | _ =>
          match readFloat? s.toList with
          | some x => intOfFloat x
          | none => fail (.arguments "int" .numericText (some (.inconvertible s)))
  | v => fail (typeFound "int" .convertible v)

/-- A value as a float. -/
def toFloatValue (v : Value) : Outcome OperationError Value :=
  match v with
  | .bool b => .ok (.float (if b then 1 else 0))
  | .int i => liftBreach ((Number.int i).toFloat.map .float)
  | .float x => .ok (.float x)
  | .string s =>
      match readFloat? s.toList with
      | some x => .ok (.float x)
      | none => fail (.arguments "float" .numericText (some (.inconvertible s)))
  | v => fail (typeFound "float" .convertible v)

/-- The position of a text in another from an offset on, counted from one; zero
if it is not there. -/
def positionOf (sought cs : List Char) (offset : Nat) : Nat :=
  if offset > cs.length then 0
  else
    match find? sought (cs.drop offset) with
    | some n => offset + n + 1
    | none => 0

/-- The pieces of a text between separators; an empty separator cuts
it into characters. -/
def splitText (text separator : String) : List String :=
  if separator.isEmpty then text.toList.map String.singleton
  else (pieces separator.toList text.toList).map String.ofList

/-- Characters as a text. -/
def textOf (cs : List Char) : Value :=
  .string (String.ofList cs)

/-- A function on texts applied to its arguments. -/
def callText
    (function : TextFunction)
    (arguments : List Value) : Outcome OperationError Value := do
  let first := argument arguments 0
  let second := argument arguments 1
  let third := argument arguments 2
  match function with
  | .str =>
      checkArity "str" (.exactly 1) arguments
      return .string first.display
  | .int =>
      checkArity "int" (.exactly 1) arguments
      toInt first
  | .float =>
      checkArity "float" (.exactly 1) arguments
      toFloatValue first
  | .upper =>
      checkArity "upper" (.exactly 1) arguments
      return .string (upper (← stringArgument "upper" first "argument"))
  | .lower =>
      checkArity "lower" (.exactly 1) arguments
      return .string (lower (← stringArgument "lower" first "argument"))
  | .trim =>
      checkArity "trim" (.exactly 1) arguments
      return .string (strip (← stringArgument "trim" first "argument"))
  | .left =>
      checkArity "left" (.exactly 2) arguments
      let text ← stringArgument "left" first "text"
      return textOf (text.toList.take (← countArgument "left" second "length"))
  | .right =>
      checkArity "right" (.exactly 2) arguments
      let text ← stringArgument "right" first "text"
      let n ← countArgument "right" second "length"
      return textOf (text.toList.drop (text.length - n))
  | .mid =>
      checkArity "mid" (.between 2 3) arguments
      let text ← stringArgument "mid" first "text"
      let start ← startArgument "mid" second
      let rest := text.toList.drop (start - 1)
      if arguments.length = 3 then
        return textOf (rest.take (← countArgument "mid" third "length"))
      else return textOf rest
  | .concat => return .string (String.join (arguments.map Value.display))
  | .replace =>
      checkArity "replace" (.exactly 3) arguments
      let text ← stringArgument "replace" first "text"
      let sought ← stringArgument "replace" second "search text"
      let replacement ← stringArgument "replace" third "replacement"
      if sought.isEmpty then fail (.arguments "replace" .searchText none)
      else return textOf (replaceAll sought.toList replacement.toList text.toList)
  | .split =>
      checkArity "split" (.exactly 2) arguments
      let text ← stringArgument "split" first "text"
      let separator ← stringArgument "split" second "separator"
      return .array ((splitText text separator).map .string)
  | .join =>
      checkArity "join" (.between 1 2) arguments
      match first with
      | .array items =>
          let separator ←
            if arguments.length = 2 then stringArgument "join" second "separator"
            else pure ""
          return .string (separator.intercalate (items.map Value.display))
      | v => fail (typeFound "join" .array v)
  | .contains =>
      checkArity "contains" (.exactly 2) arguments
      match first with
      | .array items => return .bool (items.any fun item => item.equal second)
      | v =>
          let text ← stringArgument "contains" v "text or array"
          let sought ← stringArgument "contains" second "search text"
          return .bool (occurs sought.toList text.toList)
  | .instr =>
      checkArity "instr" (.between 2 3) arguments
      let text ← stringArgument "instr" first "text"
      let sought ← stringArgument "instr" second "search text"
      let start ←
        if arguments.length = 3 then startArgument "instr" third else pure 1
      return .int (positionOf sought.toList text.toList (start - 1))

end GridScript.Script
