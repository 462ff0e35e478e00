import GridScript.Log.Event
import GridScript.Number.Reading

namespace GridScript.Command

/-!
# Commands

What can be asked for on the command line: to run a script or a session, to
format a value, to evaluate a formula, and to list the events of a journal.
-/

/-!
## Options

Arguments that start with a hyphen are options, also between other arguments,
until a double hyphen stands alone. A long option can carry its value after an
equals sign, and one-letter options can share a hyphen.
-/

/-- An option: its long name, its letter if it has one, and
whether it takes a value. -/
structure OptionSpec where
  name : String
  letter : Option Char
  takesValue : Bool
  deriving Repr, DecidableEq

/-- What arguments hold: options with their values, and the other arguments. -/
structure ParsedArguments where
  /-- Every given option, the last first. A flag has an empty value. -/
  options : List (String × String)
  positional : List String
  deriving Repr, DecidableEq

namespace ParsedArguments

/-- A flag is given. -/
def has (parsed : ParsedArguments) (name : String) : Bool :=
  parsed.options.any fun option => option.1 == name

/-- The last value of an option. -/
def value? (parsed : ParsedArguments) (name : String) : Option String :=
  parsed.options.lookup name

/-- All values of an option, in order. -/
def values (parsed : ParsedArguments) (name : String) : List String :=
  (parsed.options.filterMap fun option =>
    if option.1 == name then some option.2 else none).reverse

end ParsedArguments

/-- A long option with the value after its equals sign. -/
def splitLong (argument : String) : String × Option String :=
  match argument.splitOn "=" with
  | name :: value :: rest => (name, some ("=".intercalate (value :: rest)))
  | _ => (argument, none)

/-- The options of letters that share a hyphen, and the arguments that remain. -/
def readLetters?
    (specs : List OptionSpec)
    (rest : List String)
    (done : List (String × String)) :
    List Char → Option (List (String × String) × List String)
  | [] => some (done, rest)
  | c :: letters =>
      match specs.find? fun spec => spec.letter == some c with
      | none => none
      | some spec =>
          if spec.takesValue then
            match letters, rest with
            | [], [] => none
            | [], value :: rest => some ((spec.name, value) :: done, rest)
            | letters, rest =>
                some ((spec.name, String.ofList letters) :: done, rest)
          else readLetters? specs rest ((spec.name, "") :: done) letters

/-- The options of an argument that starts with a hyphen, and the
arguments that remain. -/
def readOption? (specs : List OptionSpec) (argument : String) (rest : List String)
    (done :
      List (String × String)) : Option (List (String × String) × List String) :=
  let (name, explicit) := splitLong argument
  match specs.find? fun spec => "--" ++ spec.name == name with
  | some spec =>
      match spec.takesValue, explicit, rest with
      | true, some value, rest => some ((spec.name, value) :: done, rest)
      | true, none, value :: rest => some ((spec.name, value) :: done, rest)
      | true, none, [] => none
      | false, none, rest => some ((spec.name, "") :: done, rest)
      | false, some _, _ => none
  | none =>
      if argument.startsWith "--" then none
      else readLetters? specs rest done (argument.toList.drop 1)

/-- The argument has the form of an option. -/
def isOption (argument : String) : Bool :=
  argument.startsWith "-" && argument != "-"

/-- Read at most `fuel` arguments. Without `mixed` the first other
argument ends the options. -/
def readArguments? (specs : List OptionSpec) (mixed : Bool) :
    Nat → ParsedArguments → List String → Option ParsedArguments
  | 0, _, _ => none
  | _, parsed, [] => some { parsed with positional := parsed.positional.reverse }
  | fuel + 1, parsed, argument :: rest =>
      if argument == "--" then
        some { parsed with positional := parsed.positional.reverse ++ rest }
      else if isOption argument then
        match readOption? specs argument rest parsed.options with
        | some (options, rest) =>
            readArguments? specs mixed fuel { parsed with options := options } rest
        | none => none
      else if mixed then
        readArguments? specs mixed fuel
          { parsed with positional := argument :: parsed.positional } rest
      else some { parsed with
        positional := parsed.positional.reverse ++ argument :: rest }

/-- What arguments hold; none if they do not fit the options. -/
def parseArguments?
    (specs : List OptionSpec)
    (mixed : Bool)
    (arguments : List String) : Option ParsedArguments :=
  readArguments? specs mixed (arguments.length + 1) ⟨[], []⟩ arguments

/-! ## Invocations -/

/-- A command with its arguments. -/
inductive Invocation where
  | version
  | help
  /-- Run the script of a file, or a session where none is given. -/
  | run (file : Option String) (verbose : Bool) (configFolder : Option String)
  | format (value code : String)
  | formula
      (text : String)
      (csv : Option String)
      (headers : Bool)
      (settings : List String)
  | events (folder : String) (level type run : Option String) (limit : Int)
  | runLog (folder run : String)
  deriving Repr, DecidableEq

/-- The option that asks for help. -/
def helpOption : OptionSpec := ⟨"help", none, false⟩

/-- Arguments of a command with options of its own, or the request for help. -/
def withOptions (specs : List OptionSpec) (arguments : List String)
    (make : ParsedArguments → Option Invocation) : Option Invocation := do
  let parsed ← parseArguments? (helpOption :: specs) true arguments
  if parsed.has "help" then return .help else make parsed

/-- The arguments of the command that runs scripts. -/
def runCommand? (arguments : List String) : Option Invocation :=
  withOptions [⟨"verbose", some 'v', false⟩, ⟨"config-dir", none, true⟩] arguments
    fun parsed =>
      let make (file : Option String) : Invocation :=
        .run file (parsed.has "verbose") (parsed.value? "config-dir")
      match parsed.positional with
      | [] => some (make none)
      | [file] => some (make (some file))
      | _ => none

/-- The arguments of the command that formats a value. -/
def formatCommand? (arguments : List String) : Option Invocation :=
  withOptions [] arguments fun parsed =>
    match parsed.positional with
    | [value, code] => some (.format value code)
    | _ => none

/-- The arguments of the command that evaluates a formula. -/
def formulaCommand? (arguments : List String) : Option Invocation :=
  withOptions [⟨"csv", none, true⟩, ⟨"no-headers", none, false⟩,
    ⟨"set", none, true⟩] arguments
    fun parsed =>
      match parsed.positional with
      | [text] =>
          some (.formula text (parsed.value? "csv") (!parsed.has "no-headers")
            (parsed.values "set"))
      | _ => none

/-- The greatest number of entries that a listing shows unless
another one is given. -/
def defaultLimit : Int := 100

/-- The limit that an option gives. -/
def limitOf? : Option String → Option Int
  | none => some defaultLimit
  | some text =>
      match Number.readInt text.toList with
      | .value limit => some limit
      | _ => none

/-- The level that an option gives must be one. -/
def isLevelOption : Option String → Bool
  | none => true
  | some text => (Log.Level.ofText? text).isSome

/-- The arguments of the command that lists events. -/
def eventsCommand? (arguments : List String) : Option Invocation :=
  withOptions
    [⟨"level", none, true⟩, ⟨"type", none, true⟩, ⟨"run-id", none, true⟩,
      ⟨"limit", none, true⟩]
    arguments fun parsed =>
      match parsed.positional, limitOf? (parsed.value? "limit") with
      | [folder], some limit =>
          let level := parsed.value? "level"
          if isLevelOption level then
            some
              (.events folder level (parsed.value? "type")
                (parsed.value? "run-id") limit)
          else none
      | _, _ => none

/-- The arguments of the command that lists the events of a run. -/
def runLogCommand? (arguments : List String) : Option Invocation :=
  withOptions [] arguments fun parsed =>
    match parsed.positional with
    | [folder, run] => some (.runLog folder run)
    | _ => none

/-- The command that arguments ask for; none if there is no such command. -/
def Invocation.ofArguments? (arguments : List String) : Option Invocation := do
  let parsed ← parseArguments? [helpOption, ⟨"version", none, false⟩] false
    arguments
  match parsed.options.getLast?, parsed.positional with
  | some ("version", _), _ => return .version
  | some _, _ => return .help
  | none, name :: rest =>
      match name with
      | "run" => runCommand? rest
      | "format" => formatCommand? rest
      | "formula" => formulaCommand? rest
      | "events" => eventsCommand? rest
      | "run-log" => runLogCommand? rest
      | _ => none
  | none, [] => none

end GridScript.Command
