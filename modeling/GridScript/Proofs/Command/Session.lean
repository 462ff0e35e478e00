import GridScript.Command.Session
import GridScript.Proofs.Script.Definitions
import GridScript.Proofs.Script.Depth

namespace GridScript.Command.Session

/-!
# Functions of sessions

A session runs each entry behind the definitions of the entries before it. If
function statements stand at the top level of entries only, this is what a
single run does that goes on from entry to entry and keeps its functions. A
definition inside a block ends with its entry.
-/

open GridScript.Script
open GridScript.Text

/-! ## Definitions of a session -/

/-- What names stand for by the definitions of a session. -/
def resolution (definitions : List (String × Statement)) : Resolution :=
  fun key => (definitions.lookup key).bind Statement.definition?

/-- The functions of some definitions. -/
def functionsOf (definitions : List (String × Statement)) : List Definition :=
  definitions.filterMap fun held => held.2.definition?

/-- A definition is held under its name. -/
def IsFiled (held : String × Statement) : Prop :=
  ∃ definition, held.2.definition? = some definition ∧
    lower definition.name = held.1

/-- Definitions are held under their names, one for each name. -/
structure Filed (definitions : List (String × Statement)) : Prop where
  distinct : (definitions.map Prod.fst).Nodup
  each : ∀ held ∈ definitions, IsFiled held

section Definitions

variable {definitions : List (String × Statement)} {program : Program}

theorem isFiled_of_mem_definitionsOf
    {held : String × Statement}
    (member : held ∈ definitionsOf program) :
    IsFiled held := by
  obtain ⟨s, -, isHeld⟩ := List.mem_filterMap.mp member
  obtain ⟨definition, isDefinition, rfl⟩ := Option.map_eq_some_iff.mp isHeld
  exact ⟨definition, isDefinition, rfl⟩

theorem functionsOf_definitionsOf (program : Program) :
    functionsOf (definitionsOf program) = program.definitions := by
  unfold functionsOf definitionsOf Program.definitions
  rw [List.filterMap_filterMap]
  congr 1
  funext s
  cases s <;> rfl

/-- A program defines a name if it is among those of its definitions. -/
theorem any_definitionsOf (key : String) :
    ((definitionsOf program).any fun entry => entry.1 == key) = true ↔
      key ∈ program.definitions.map fun definition => lower definition.name := by
  simp only [List.any_eq_true, List.mem_map,
    beq_iff_eq, ← functionsOf_definitionsOf, functionsOf, List.mem_filterMap]
  constructor
  · rintro ⟨entry, member, rfl⟩
    obtain ⟨definition, isDefinition, named⟩ := isFiled_of_mem_definitionsOf member
    exact ⟨definition, ⟨entry, member, isDefinition⟩, named⟩
  · rintro ⟨definition, ⟨entry, member, isDefinition⟩, rfl⟩
    obtain ⟨other, isOther, named⟩ := isFiled_of_mem_definitionsOf member
    obtain rfl := Option.some.inj (isOther.symm.trans isDefinition)
    exact ⟨entry, member, named.symm⟩

/-- The definitions of a session are what their names stand for, and other names
stand for what they stood for before. -/
theorem Filed.defineEach_eq
    (filed : Filed definitions)
    (before : Resolution)
    (key : String) :
    before.defineEach (functionsOf definitions) key =
      (resolution definitions key).or (before key) := by
  obtain ⟨distinct, each⟩ := filed
  induction definitions generalizing before with
  | nil =>
      rfl
  | cons held rest inductionHypothesis =>
      obtain ⟨name, s⟩ := held
      obtain ⟨⟨definition, isDefinition, isName⟩, eachLater⟩ :=
        List.forall_mem_cons.mp each
      obtain ⟨isNew, distinctLater⟩ := List.nodup_cons.mp distinct
      dsimp only at isDefinition isName isNew
      have functions :
          functionsOf ((name, s) :: rest) = definition :: functionsOf rest :=
        List.filterMap_cons_some isDefinition
      rw [functions]
      refine (inductionHypothesis (before.define definition) distinctLater
        eachLater).trans ?_
      rw [Resolution.define, isName, Function.update_apply, resolution, resolution,
        List.lookup_cons]
      by_cases isKey : key = name
      · have notLater : rest.lookup key = none := by
          rw [← Option.not_isSome_iff_eq_none, lookup_isSome, isKey]
          exact isNew
        rw [notLater, if_pos isKey, isKey, beq_self_eq_true]
        exact congrArg (Option.or · _) isDefinition.symm
      · rw [if_neg isKey, beq_false_of_ne isKey]

theorem lookup_replaced
    (name : String)
    (s : Statement)
    (key : String) :
    (definitions.map fun held => if held.1 == name then (name, s) else held).lookup
        key =
      if key = name then (definitions.lookup key).map fun _ =>
        s else definitions.lookup key := by
  induction definitions with
  | nil =>
      exact (ite_self none).symm
  | cons held rest inductionHypothesis =>
      obtain ⟨other, held⟩ := held
      rw [List.map_cons]
      by_cases isName : other = name
      · subst isName
        rw [if_pos (beq_self_eq_true other), List.lookup_cons, List.lookup_cons]
        by_cases isKey : key = other
        · simp [isKey]
        · rw [beq_false_of_ne isKey]
          exact inductionHypothesis
      · rw [if_neg (by simpa using isName), List.lookup_cons, List.lookup_cons]
        by_cases isKey : key = other
        · simp [isKey, isName]
        · rw [beq_false_of_ne isKey]
          exact inductionHypothesis

/-- A definition that is kept is the one of its name, and the others stay. -/
theorem lookup_keep
    (name : String)
    (s : Statement)
    (key : String) :
    (keep definitions name s).lookup key =
      if key = name then some s else definitions.lookup key := by
  unfold keep
  split
  next isHeld =>
    have found : (definitions.lookup name).isSome = true := by
      rw [lookup_isSome, List.mem_map]
      simpa using isHeld
    rw [lookup_replaced]
    by_cases isKey : key = name
    · obtain ⟨held, isFound⟩ := Option.isSome_iff_exists.mp found
      rw [if_pos isKey, if_pos isKey, isKey, isFound]
      rfl
    · rw [if_neg isKey, if_neg isKey]
  next notHeld =>
    have missing : definitions.lookup name = none := by
      rw [← Option.not_isSome_iff_eq_none, lookup_isSome, List.mem_map]
      simpa using notHeld
    rw [List.lookup_append]
    by_cases isKey : key = name
    · simp [isKey, missing]
    · simp [isKey, List.lookup_cons, beq_false_of_ne isKey]

theorem Filed.keep
    (filed : Filed definitions)
    {name : String}
    {s : Statement}
    (isFiled : IsFiled (name, s)) :
    Filed (keep definitions name s) := by
  unfold Session.keep
  split
  next isHeld =>
    constructor
    · have sameNames :
          (definitions.map fun held =>
              if held.1 == name then (name, s) else held).map Prod.fst =
            definitions.map Prod.fst := by
        rw [List.map_map]
        refine List.map_congr_left fun held _ => ?_
        by_cases isName : held.1 = name <;> simp [isName]
      rw [sameNames]
      exact filed.distinct
    · intro held member
      obtain ⟨before, inDefinitions, rfl⟩ := List.mem_map.mp member
      split
      next =>
        exact isFiled
      next =>
        exact filed.each before inDefinitions
  next notHeld =>
    constructor
    · rw [List.map_append, List.nodup_append]
      refine ⟨filed.distinct, List.nodup_singleton _, ?_⟩
      rintro other member _ (_ | ⟨_, ⟨⟩⟩) rfl
      obtain ⟨held, inDefinitions, isName⟩ := List.mem_map.mp member
      exact
        notHeld (List.any_eq_true.mpr ⟨held, inDefinitions, beq_iff_eq.mpr isName⟩)
    · intro held member
      rcases List.mem_append.mp member with inDefinitions | isNew
      · exact filed.each held inDefinitions
      · obtain rfl := List.mem_singleton.mp isNew
        exact isFiled

/-- Keeping definitions is defining their functions. -/
theorem keepEach
    (filed : Filed definitions)
    {entries : List (String × Statement)}
    (each : ∀ entry ∈ entries, IsFiled entry) :
    let after := entries.foldl (fun held (name, s) => keep held name s) definitions
    Filed after ∧
      resolution after =
        (resolution definitions).defineEach (functionsOf entries) := by
  induction entries generalizing definitions with
  | nil =>
      exact ⟨filed, rfl⟩
  | cons entry rest inductionHypothesis =>
      obtain ⟨name, s⟩ := entry
      obtain ⟨first, later⟩ := List.forall_mem_cons.mp each
      obtain ⟨stillFiled, same⟩ := inductionHypothesis (filed.keep first) later
      refine ⟨stillFiled, same.trans ?_⟩
      obtain ⟨definition, isDefinition, isName⟩ := first
      dsimp only at isDefinition isName
      have kept :
          resolution (keep definitions name s) =
            (resolution definitions).define definition := by
        funext key
        rw [resolution, lookup_keep, Resolution.define, isName,
          Function.update_apply]
        split
        next =>
          exact isDefinition
        next =>
          rfl
      have functions :
          functionsOf ((name, s) :: rest) = definition :: functionsOf rest :=
        List.filterMap_cons_some isDefinition
      rw [kept, functions]
      rfl

/-- The definitions of a session that a program does not replace. -/
def othersOf (definitions : List (String × Statement)) (program : Program) :
    List (String × Statement) :=
  definitions.filter fun held =>
    !(definitionsOf program).any fun entry => entry.1 == held.1

theorem Filed.othersOf (filed : Filed definitions) (program : Program) :
    Filed (othersOf definitions program) :=
  ⟨(List.filter_sublist.map Prod.fst).nodup filed.distinct,
    fun held member => filed.each held (List.mem_filter.mp member).1⟩

theorem resolution_othersOf (key : String) :
    resolution (othersOf definitions program) key =
      if key ∈ program.definitions.map (fun own => lower own.name) then none
      else resolution definitions key := by
  rw [resolution, othersOf,
    lookup_filter definitions
      (fun name => !(definitionsOf program).any fun entry => entry.1 == name) key]
  by_cases isOwn : key ∈ program.definitions.map fun definition =>
    lower definition.name
  · rw [if_pos isOwn, (any_definitionsOf key).mpr isOwn]
    rfl
  · rw [if_neg isOwn, Bool.eq_false_iff.mpr (mt (any_definitionsOf key).mp isOwn)]
    rfl

theorem definitions_withDefinitions
    (definitions : List (String × Statement))
    (program : Program) :
    (withDefinitions definitions program).definitions =
      functionsOf (othersOf definitions program) ++ program.definitions := by
  unfold withDefinitions Program.definitions functionsOf
  rw [List.filterMap_append, List.filterMap_map]
  rfl

/-- A program behind the definitions of a session starts with the names of
both, its own first. -/
theorem Filed.resolution_withDefinitions
    (filed : Filed definitions)
    (program : Program) :
    let whole := (withDefinitions definitions program).definitions
    (Resolution.defineEach (fun _ => none) whole).defineEach
        (functionsOf (Session.othersOf definitions program)) =
      (resolution definitions).defineEach program.definitions := by
  funext key
  have othersFiled := filed.othersOf program
  rw [definitions_withDefinitions, othersFiled.defineEach_eq, resolution_othersOf,
    Resolution.defineEach_append]
  split
  next isOwn =>
    exact Resolution.defineEach_of_mem isOwn
  next notOwn =>
    rw [Resolution.defineEach_of_not_mem notOwn,
      Resolution.defineEach_of_not_mem notOwn, othersFiled.defineEach_eq,
      resolution_othersOf, if_neg notOwn]
    cases resolution definitions key <;> rfl

end Definitions

/-! ## Entries in a single run -/

/-- The label of the next run. -/
def nextLabel (recording : Recording) (session : Session) : RunLabel :=
  ⟨s!"{recording.run}{session.runs + 1}", recording.elapsed⟩

/-- What a run that has ended is reported as. -/
def reportOf
    (program : Program)
    (label : RunLabel) : EStateM.Result Halt Machine Unit → Report
  | .ok _ machine =>
      ⟨machine.env, machine.host.emit (completedEvent label program), none⟩
  | .error (.error e) machine =>
      ⟨machine.env, machine.host.emit (failedEvent label.id e), some (.error e)⟩
  | .error halt machine => ⟨machine.env, machine.host, some halt⟩

/-- What a session makes of the report of an entry. -/
def replyTo
    (recording : Recording)
    (session : Session)
    (program : Program)
    (report : Report) : Reply :=
  let definitions :=
    (definitionsOf program).foldl (fun held (name, s) => keep held name s)
      session.definitions
  let errors :=
    match report.halt with
    | some (.error error) => errorText error ++ "\n"
    | _ => ""
  { session :=
      ⟨recordEvents recording report.host, report.env, definitions, "",
        session.runs + 1⟩
    written := ⟨report.host.output, echoOf recording report.host ++ errors⟩
    halt := report.halt }

/-- The machine that a run starts with if an earlier run has left a machine.
Reports of the session count the definitions of earlier entries as statements,
and so does the event here. -/
def resumed
    (recording : Recording)
    (session : Session)
    (program : Program)
    (machine : Machine) : Machine :=
  let label := nextLabel recording session
  let whole := withDefinitions session.definitions program
  { machine with
    host := machine.host.emit (startedEvent label.id whole machine.host.book)
    run := label.id }

/-- The report of an entry that a single run goes on with. -/
def resumedReport
    (recording : Recording)
    (session : Session)
    (program : Program)
    (machine : Machine) : Report :=
  reportOf (withDefinitions session.definitions program)
    (nextLabel recording session)
    (runProgram nestingBound program (resumed recording session program machine))

/-- The machine of a single run after a further entry. Its functions stay as the
entry leaves them. -/
def resume
    (recording : Recording)
    (session : Session)
    (program : Program)
    (machine : Machine) : Machine :=
  {
    (runProgram nestingBound program
      (resumed recording session program machine)).state with
    host :=
    recordEvents recording (resumedReport recording session program machine).host }

/-- The program of a text that is an entry; a text of blanks is none. -/
def programOf? (text : String) : Option Program :=
  if (strip text).isEmpty then none else (parse text).toOption

/-- The functions that a text defines at top level. -/
def definitionsIn (text : String) : List Definition :=
  match programOf? text with
  | some program => program.definitions
  | none => []

/-- A text is a program that defines functions at top level only,
and no name twice. -/
def DefinesAtTop (text : String) : Prop :=
  ∃ program, parse text = .ok program ∧ program.DefinesAtTop

instance (text : String) : Decidable (DefinesAtTop text) :=
  match parsed : parse text with
  | .ok program =>
      decidable_of_iff program.DefinesAtTop
        ⟨fun atTop => ⟨program, parsed, atTop⟩, fun ⟨_, isProgram, atTop⟩ =>
          Except.ok.inj (parsed.symm.trans isProgram) ▸ atTop⟩
  | .error _ => isFalse fun ⟨_, isProgram, _⟩ => nomatch parsed.symm.trans isProgram

/-- A session and a single run that take the same texts, each a whole entry. -/
def runBoth
    (recording : Recording) : List String → Session × Machine → Session × Machine
  | [], both => both
  | text :: rest, (session, machine) =>
      runBoth recording rest
        ((session.enter recording text).session,
          match programOf? text with
          | some program => resume recording session program machine
          | none => machine)

/-- A single run before its first entry. -/
def single (host : Host) : Machine :=
  ⟨Environment.ofGlobals [], [], 0, host, ""⟩

/-- A machine has what a session has and finds the functions that
the session has kept. -/
structure Follows (session : Session) (machine : Machine) : Prop where
  env : machine.env = session.env
  host : machine.host = session.host
  depth : machine.depth = 0
  filed : Filed session.definitions
  plain : machine.Plain
  resolution : machine.resolution = Session.resolution session.definitions

section Entries

variable
  {recording : Recording}
  {session : Session}
  {machine : Machine}
  {program : Program}
variable {text : String}

theorem runEntry_eq :
    session.runEntry recording program =
      replyTo recording session program
        ((withDefinitions session.definitions program).run
          (nextLabel recording session) session.host session.env) :=
  rfl

theorem reportOf_alike
    (program : Program)
    (label : RunLabel)
    {result result' : EStateM.Result Halt Machine Unit}
    (same : SameResult result result') :
    reportOf program label result = reportOf program label result' := by
  cases same with
  | ok _ alike =>
      obtain ⟨functions, rfl⟩ := alike.rest
      rfl
  | error halt alike =>
      obtain ⟨functions, rfl⟩ := alike.rest
      cases halt <;> rfl

theorem Program.run_eq
    (label : RunLabel)
    (host : Host)
    (env : Environment) :
    program.run label host env =
      reportOf program label
        (runProgram nestingBound program
          ⟨env, [], 0, host.emit (startedEvent label.id program host.book),
            label.id⟩) := by
  unfold Program.run
  dsimp only
  generalize runProgram nestingBound program _ = result
  rcases result with _ | ⟨_ | _ | _⟩ <;> rfl

/-- A machine that defines the functions of a session and then those of a
program finds what it finds if the session has left it. -/
theorem Follows.alike
    (follows : session.Follows machine)
    (recording : Recording)
    (program : Program) :
    let start := resumed recording session program machine
    (({ start with functions := [] } : Machine).defineEach
        (withDefinitions session.definitions program).definitions |>.defineEach
        (functionsOf (othersOf session.definitions program))).Alike
      (start.defineEach program.definitions) := by
  intro start
  constructor
  · obtain ⟨_, isOwn⟩ := start.defineEach_rest program.definitions
    obtain ⟨_, isWhole⟩ :=
      Machine.defineEach_rest { start with functions := [] }
        (withDefinitions session.definitions program).definitions
    rw [isOwn, isWhole]
    obtain ⟨_, isOther⟩ :=
      Machine.defineEach_rest _ (functionsOf (othersOf session.definitions program))
    rw [isOther]
    exact ⟨_, rfl⟩
  · rw [Machine.resolution_defineEach, Machine.resolution_defineEach,
      Machine.resolution_defineEach]
    exact (congrArg (Resolution.defineEach · program.definitions)
      follows.resolution).trans
      (follows.filed.resolution_withDefinitions program).symm

/-- A program behind the definitions of a session runs as it does on a machine
that has these functions. -/
theorem Follows.sameResult
    (follows : session.Follows machine)
    (recording : Recording)
    (program : Program) :
    SameResult
      (runProgram nestingBound (withDefinitions session.definitions program)
        { resumed recording session program machine with functions := [] })
      (runProgram nestingBound program
        (resumed recording session program machine)) := by
  have defines :
      ∀ s ∈ (othersOf session.definitions program).map Prod.snd,
        s.definition? ≠ none := by
    intro s member
    obtain ⟨held, inOthers, rfl⟩ := List.mem_map.mp member
    obtain ⟨definition, isDefinition, -⟩ :=
      (follows.filed.othersOf program).each held inOthers
    rw [isDefinition]
    exact Option.some_ne_none definition
  rw [runProgram_eq, runProgram_eq]
  have front := runStatements_append defines 999999 program.statements
  rw [List.filterMap_map] at front
  have alike := follows.alike recording program
  have same := runStatements_alike nestingBound program.statements _ _ alike
  rw [nestingBound] at same ⊢
  exact front _ ▸ same

/-- The report of an entry is the one of a single run. -/
theorem Follows.run_eq
    (follows : session.Follows machine)
    (recording : Recording)
    (program : Program) :
    (withDefinitions session.definitions program).run (nextLabel recording session)
      session.host
        session.env =
      resumedReport recording session program machine := by
  have same := reportOf_alike (withDefinitions session.definitions program)
    (nextLabel recording session) (follows.sameResult recording program)
  unfold resumed at same
  dsimp only at same
  rw [follows.env, follows.host, follows.depth] at same
  rw [Program.run_eq, same, resumedReport, resumed, follows.env, follows.host,
    follows.depth]

theorem env_reportOf
    (label : RunLabel)
    (result : EStateM.Result Halt Machine Unit) :
    (reportOf program label result).env = result.state.env := by
  rcases result with _ | ⟨_ | _ | _⟩ <;> rfl

/-- After an entry that defines functions at top level, a single run has
what the session has. -/
theorem Follows.entry
    (follows : session.Follows machine)
    (recording : Recording)
    (atTop : program.DefinesAtTop) :
    let after := resume recording session program machine
    (session.runEntry recording program).session.Follows after ∧
      after.resolution = machine.resolution.defineEach program.definitions := by
  have plain : (resumed recording session program machine).Plain := follows.plain
  obtain ⟨stillPlain, kept⟩ := atTop.resolution_runProgram plain nestingBound
  have each : ∀ entry ∈ definitionsOf program, IsFiled entry :=
    fun _ => isFiled_of_mem_definitionsOf
  obtain ⟨filed, keeps⟩ := keepEach follows.filed each
  rw [functionsOf_definitionsOf, ← follows.resolution] at keeps
  refine ⟨?_, kept⟩
  rw [runEntry_eq, follows.run_eq recording program]
  exact ⟨(env_reportOf ..).symm, rfl, (depth_runProgram ..).trans follows.depth,
    filed, stillPlain, kept.trans keeps.symm⟩

theorem parse_of_programOf?
    (isEntry : programOf? text = some program) :
    parse text = .ok program := by
  unfold programOf? at isEntry
  split at isEntry
  next =>
    cases isEntry
  next =>
    cases parsed : parse text with
    | ok found =>
        rw [parsed] at isEntry
        exact congrArg Except.ok (Option.some.inj isEntry)
    | error failure =>
        rw [parsed] at isEntry
        cases isEntry

/-- A text that is a program is an entry unless it is blank. -/
theorem enter_eq
    (recording : Recording)
    (parsed : parse (session.pending ++ text) = .ok program) :
    session.enter recording text =
      match programOf? (session.pending ++ text) with
      | some entry => session.runEntry recording entry
      | none => ⟨{ session with pending := "" }, .nothing, none⟩ := by
  unfold enter programOf?
  dsimp only
  rw [parsed]
  split <;> rfl

/-- A session and a single run stay together over entries that define
functions at top level. -/
theorem Follows.runBoth
    (recording : Recording)
    (follows : session.Follows machine)
    (fresh : session.pending = "")
    {texts : List String}
    (atTop : ∀ text ∈ texts, DefinesAtTop text) :
    let both := runBoth recording texts (session, machine)
    both.1.Follows both.2 ∧ both.1.pending = "" ∧
      both.2.resolution =
        machine.resolution.defineEach (texts.flatMap definitionsIn) := by
  induction texts generalizing session machine with
  | nil =>
      exact ⟨follows, fresh, rfl⟩
  | cons text rest inductionHypothesis =>
      obtain ⟨⟨program, parsed, programAtTop⟩, later⟩ :=
        List.forall_mem_cons.mp atTop
      have whole : session.pending ++ text = text := by
        rw [fresh, String.empty_append]
      have entered := enter_eq recording (whole.symm ▸ parsed)
      rw [whole] at entered
      rw [List.flatMap_cons, Resolution.defineEach_append, definitionsIn]
      unfold Session.runBoth
      rw [entered]
      cases isEntry : programOf? text with
      | none =>
          exact inductionHypothesis ⟨follows.env, follows.host, follows.depth,
            follows.filed, follows.plain, follows.resolution⟩ rfl later
      | some entry =>
          obtain rfl : program = entry :=
            Except.ok.inj (parsed.symm.trans (parse_of_programOf? isEntry))
          obtain ⟨stillFollows, resolution⟩ := follows.entry recording programAtTop
          have both := inductionHypothesis stillFollows rfl later
          rw [resolution] at both
          exact both

end Entries

theorem follows_start (host : Host) :
    (start host).Follows (single host) :=
  ⟨rfl, rfl, rfl, ⟨List.nodup_nil, nofun⟩, nofun, rfl⟩

/--
A session keeps the functions of its entries.

Let texts be typed that are programs, in which function statements stand
at top level only and no name is defined twice. Whatever entry comes next,
it has the reply that it has in a single run which goes on from entry to
entry with its functions, and there each name stands for its last
definition, in any letter case.
-/
theorem entries_resume
    (recording : Recording)
    (host : Host)
    {texts : List String}
    (atTop : ∀ text ∈ texts, DefinesAtTop text) :
    let both := runBoth recording texts (start host, single host)
    (∀ text program, programOf? text = some program →
      both.1.enter recording text =
        both.1.replyTo recording program
          (resumedReport recording both.1 program both.2)) ∧
    ∀ name,
      both.2.function? name =
        ((texts.flatMap definitionsIn).map fun definition =>
          (lower definition.name, definition)).reverse.lookup (lower name) := by
  obtain ⟨follows, fresh, resolution⟩ :=
    (follows_start host).runBoth recording rfl atTop
  refine ⟨fun text program isEntry => ?_, fun name => ?_⟩
  · have whole :
        (runBoth recording texts (start host, single host)).1.pending ++ text =
          text := by
      rw [fresh, String.empty_append]
    have entered := enter_eq recording (whole.symm ▸ parse_of_programOf? isEntry)
    rw [whole, isEntry] at entered
    refine entered.trans ?_
    rw [← follows.run_eq recording program]
    rfl
  · rw [← Resolution.defineEach_eq_lookup]
    exact congrFun resolution (lower name)

/-- A recording that mirrors no events and keeps no journal. -/
def silent : Recording :=
  ⟨false, none, "", 0, "run"⟩

/-- The host of a new session. -/
def usualHost : Host :=
  .ofSettings (Settings.ofList [])

/-- A function that is defined anew in capitals stands for its name from then on. -/
theorem entries_resume_again :
    let texts := ["sub f()\nend sub\n", "sub F()\nend sub\n"]
    (∀ text ∈ texts, DefinesAtTop text) ∧
      ((runBoth silent texts (start usualHost, single usualHost)).2.function?
        "f").map
        Definition.name = some "F" := by
  intro texts
  have atTop : ∀ text ∈ texts, DefinesAtTop text := by
    decide +kernel
  have found := (entries_resume silent usualHost atTop).2 "f"
  exact
    ⟨atTop, (congrArg (Option.map Definition.name) found).trans (by decide +kernel)⟩

/-- A session and a single run after a block that defines a function. -/
def afterBlock : Session × Machine :=
  runBoth silent ["if 1 then\nsub f()\nend sub\nend if\n"]
    (start usualHost, single usualHost)

/-- A function that is defined in a block ends with its entry, where a single
run would keep it. -/
theorem block_definition_is_lost :
    (afterBlock.1.enter silent "x = f()\n").written.errors =
        "UnknownIdentifierError: line 1: Unknown function: 'f'\n" ∧
      (programOf? "x = f()\n").map
          (fun program =>
            (resumedReport silent afterBlock.1 program afterBlock.2).env.globals.map
              Prod.fst) =
        some ["x"] := by
  decide +kernel

end GridScript.Command.Session
