import GridScript.Formula.Failure
import GridScript.Script.Phrase
import GridScript.Table.Markdown

namespace GridScript.Script

/-!
# Failures of scripts

Whatever stops a script has one cause and, where it is known, the line of the
node that failed. Failures of sheets, documents and formulas keep their own
error as the cause.
-/

open GridScript.Text

/-- Failures that belong to running a script and to no operation. -/
inductive RuntimeFault where
  | loopLimit (limit : Number)
  | callDepth (limit : Number) (function : String)
  | zeroStep
  /-- An exit statement without a loop of its kind around it. -/
  | strayExit (kind : ExitKind)
  | returnOutside
  | exitFunctionOutside
  | assignmentTarget
  | noRegistry
  deriving Repr

/-- The wording of a failure of a run. -/
def RuntimeFault.message : RuntimeFault → String
  | loopLimit limit => s!"Loop exceeded {limit.text} iterations"
  | callDepth limit function =>
      s!"Maximum call depth ({limit.text}) exceeded calling {function}"
  | zeroStep => "for loop step must be non-zero"
  | strayExit kind => s!"exit {kind.word} outside a {kind.word} loop"
  | returnOutside => "return outside a function"
  | exitFunctionOutside => "exit function outside a function"
  | assignmentTarget => "Invalid assignment target"
  | noRegistry => "book_merge needs a book registry"

/-- The kinds of names that can be unknown. -/
inductive NameKind where
  | variableName
  | functionName
  deriving Repr, DecidableEq

/-- The word for a kind of names. -/
def NameKind.text : NameKind → String
  | variableName => "variable"
  | functionName => "function"

/-- What stops a script. -/
inductive Cause where
  | parse (error : ParseError)
  | unknownName (kind : NameKind) (name : String)
  | operation (error : OperationError)
  | unknownBook (name : String)
  | unsupported (feature : String)
  | runtime (fault : RuntimeFault)
  | sheet (error : SheetError)
  | document (error : Table.MarkdownError)
  | formula (error : Formula.Error)
  deriving Repr

namespace Cause

/-- The kind of a cause, as reports of errors name it. -/
def kindText : Cause → String
  | parse _ => "ScriptParseError"
  | unknownName .. => "UnknownIdentifierError"
  | operation (.kind _) => "TypeMismatchError"
  | operation (.arguments ..) => "InvalidArgumentsError"
  | operation (.notFound ..) => "NotFoundError"
  | operation (.bounds _) => "BoundsError"
  | operation (.computation _) => "ScriptRuntimeError"
  | unknownBook _ => "NotFoundError"
  | unsupported _ => "UnsupportedFeatureError"
  | runtime _ => "ScriptRuntimeError"
  | sheet _ => "SheetOperationError"
  | document _ => "SheetOperationError"
  | formula _ => "FormulaOperationError"

/-- The kind of the error that a cause wraps. -/
def wrappedKind? : Cause → Option String
  | sheet error => some error.kindText
  | document error => some error.kindText
  | formula error => some error.kindText
  | _ => none

/-- The wording of a cause. -/
def message : Cause → String
  | parse error => error.detail
  | unknownName kind name => s!"Unknown {kind.text}: {quoted name}"
  | operation error => error.message
  | unknownBook name => "Book not found: " ++ quoted name
  | unsupported feature => s!"{feature} is not supported in this environment"
  | runtime fault => fault.message
  | sheet error => s!"{error.kindText}: {error.message}"
  | document error => s!"{error.kindText}: {error.message}"
  | formula error => s!"{error.kindText}: {error.message}"

/-- The code of a cause in events. -/
def code : Cause → String
  | parse _ => "parse_error"
  | unsupported _ => "unsupported_feature"
  | sheet (.file _) => "sheet_io_error"
  | _ => "script_runtime_error"

end Cause

/-- What stops a script, with the line of the node that failed. -/
structure ScriptError where
  cause : Cause
  line : Option Nat
  deriving Repr

namespace ScriptError

/-- A cause at a line. -/
def onLine (cause : Cause) (line : Nat) : ScriptError :=
  ⟨cause, some line⟩

/-- The error at a line, unless it has one already. -/
def withLine (error : ScriptError) (line : Nat) : ScriptError :=
  { error with line := error.line <|> some line }

/-- The wording of an error with its line. -/
def text (error : ScriptError) : String :=
  match error.line with
  | some line => s!"line {line}: {error.cause.message}"
  | none => error.cause.message

/-- The error of a text that is no script. -/
def ofParse (error : ParseError) : ScriptError :=
  ⟨.parse error, some error.line⟩

end ScriptError

end GridScript.Script
