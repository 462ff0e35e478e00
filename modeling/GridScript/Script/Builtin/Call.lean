import GridScript.Lookup
import GridScript.Script.Builtin.Arguments
import GridScript.Script.Builtin.Books
import GridScript.Script.Builtin.Catalogue
import GridScript.Script.Builtin.FileFunctions
import GridScript.Script.Builtin.Math
import GridScript.Script.Builtin.Text

namespace GridScript.Script

/-!
# Calls of built-in functions

A call of a built-in function is a change of the host. Functions of values leave
the host as it is.
-/

/-!
## Lookup functions

The lookups of `GridScript.Lookup` behind a check of the number of arguments. A
missing last argument means an approximate search of a table, and the nearest
element below the key of an array.
-/

/-- A lookup applied to its arguments. -/
def callLookup
    (function : LookupFunction)
    (arguments : List Value) : Outcome OperationError Value := do
  let first := argument arguments 0
  let second := argument arguments 1
  let third := argument arguments 2
  match function with
  | .vlookup =>
      checkArity "vlookup" (.between 3 4) arguments
      liftError (Lookup.vlookup first second third (arguments.getD 3 (.bool false)))
  | .hlookup =>
      checkArity "hlookup" (.between 3 4) arguments
      liftError (Lookup.hlookup first second third (arguments.getD 3 (.bool false)))
  | .index =>
      checkArity "index" (.between 2 3) arguments
      liftError (Lookup.index first second arguments[2]?)
  | .matchPosition =>
      checkArity "match" (.between 2 3) arguments
      liftError (Lookup.matchPosition first second (arguments.getD 2 (.int 1)))
  | .xlookup =>
      checkArity "xlookup" (.between 3 4) arguments
      liftError (Lookup.xlookup first second third arguments[3]?)

/-! ## All functions -/

/-- A built-in function applied to its arguments. -/
def callBuiltin (builtin : Builtin) (site : CallSite) (arguments : List Value) :
    HostChange Value :=
  match builtin with
  | .core function => callCore function site arguments
  | .math function => Change.ofOutcome (operation (callMath function arguments))
  | .text function => Change.ofOutcome (operation (callText function arguments))
  | .lookup function => Change.ofOutcome (operation (callLookup function arguments))
  | .sheet function => callSheet function arguments
  | .book function => callBook function arguments
  | .file function => callFile function site arguments

end GridScript.Script
