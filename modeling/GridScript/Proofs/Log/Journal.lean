import GridScript.Log.Journal
import GridScript.Proofs.Json.Line
import GridScript.Proofs.Text.Rewriting

namespace GridScript.Log

/-!
# What journals tell

A journal is written event by event, into the text of all events and, for a run
that can name a text, into the text of the run. Reading all events gives the
record of every event once, the newest first; a filter with a limit leaves the
newest of those that it lets through; and the text of a run tells the same as
all events of the run.
-/

open GridScript.Text

/-- An event and the time at which it is written. -/
structure Entry where
  time : String
  event : Event

namespace Entry

variable (entry : Entry)

/-- The members of the record of the entry. -/
def members : List (String × Json) := [
  ("context", .object entry.event.context),
  ("error_code", Event.optionalText entry.event.errorCode),
  ("event_type", .string entry.event.type.text),
  ("level", .string entry.event.level.text),
  ("message", .string entry.event.message),
  ("run_id", Event.optionalText entry.event.run),
  ("schema_version", .int entry.event.schemaVersion),
  ("ts", .string entry.time)]

/-- The record that is written, with the members of every object in the
order of their keys. -/
def document : Json :=
  (Journal.stamped entry.event entry.time).sorted

/-- The line of the entry, with its end. -/
def line : List Char :=
  (Journal.stamped entry.event entry.time).line ++ ['\n']

/-- The context of the event can be read from a line. -/
def Legible : Prop :=
  (Json.object entry.event.context).Legible

/-- The line of the entry is written to the text with a name. -/
def goesTo (name : String) : Bool :=
  name == Journal.allName ||
    entry.event.run.any fun run =>
      Journal.isSafeId run && name == Journal.runName run

theorem stamped_eq :
    Journal.stamped entry.event entry.time = .object entry.members :=
  rfl

theorem lineOf_eq :
    Journal.lineOf entry.event entry.time = String.ofList entry.line :=
  rfl

theorem distinct_members : (entry.members.map Prod.fst).Nodup := by
  show List.Nodup ["context", "error_code", "event_type", "level", "message",
    "run_id", "schema_version", "ts"]
  decide

end Entry

/-! ## Lines -/

theorem legible_optionalText (text : Option String) :
    (Event.optionalText text).Legible := by
  cases text with
  | none =>
      exact .null
  | some s =>
      exact .string s

/-- The record of an event can be read from its line if the context can. -/
theorem Entry.Legible.record
    {entry : Entry}
    (legible : entry.Legible) :
    (Json.object entry.members).Legible := by
  refine .object entry.distinct_members ?_
  unfold members
  simp only [List.forall_mem_cons, List.not_mem_nil, false_imp_iff, implies_true,
    and_true]
  exact ⟨legible, legible_optionalText _, .string _, .string _, .string _,
    legible_optionalText _, .int _, .string _⟩

theorem isLineBreak_of_isPlain
    {c : Char}
    (plain : Json.IsPlain c) :
    isLineBreak c = false := by
  obtain ⟨low, high⟩ : 32 ≤ c.val.toNat ∧ c.val.toNat < 127 := plain
  simp only [isLineBreak, Bool.or_eq_false_iff, Bool.and_eq_false_iff,
    decide_eq_false_iff_not, beq_eq_false_iff_ne]
  omega

/-- The line of an object begins and ends with a brace. -/
theorem trim_line_object (members : List (String × Json)) :
    trim (Json.object members).line = (Json.object members).line := by
  rw [Json.line_object]
  refine trim_of_visible ?_ ?_
  · intro c isFirst
    cases isFirst
    rfl
  · intro c isLast
    rw [List.getLast?_concat] at isLast
    cases isLast
    rfl

/-- Written lines are read as the documents of their entries. -/
theorem entries_lines
    {log : List Entry}
    (legible : ∀ entry ∈ log, entry.Legible) :
    Journal.entries (String.ofList (log.flatMap Entry.line)) =
      log.map Entry.document := by
  rw [Journal.entries, String.toList_ofList]
  induction log with
  | nil =>
      rfl
  | cons entry rest inductionHypothesis =>
      obtain ⟨first, later⟩ := List.forall_mem_cons.mp legible
      have whole : ∀ c ∈ (Json.object entry.members).line, isLineBreak c = false :=
        fun c member => isLineBreak_of_isPlain (Json.plain_line _ c member)
      have trimmed := trim_line_object entry.members
      have nonempty : (Json.object entry.members).line.isEmpty = false := by
        rw [Json.line_object]
        rfl
      have parsed :
          Json.parse? (Json.object entry.members).line = some entry.document :=
        Json.parse?_line first.record
      rw [List.flatMap_cons, Entry.line, entry.stamped_eq, List.append_assoc,
        List.singleton_append, splitLines_cons whole,
        List.filterMap_cons_some (b := entry.document)]
      · rw [inductionHypothesis later, List.map_cons]
      · simp [trimmed, nonempty, parsed]

/-! ## Texts -/

theorem lookup_extend
    (name piece other : String)
    (texts : List (String × String)) :
    ((Journal.extend name piece texts).lookup other).getD "" =
      (texts.lookup other).getD "" ++ if other = name then piece else "" := by
  induction texts with
  | nil =>
      by_cases same : other = name
      · simp [Journal.extend, same]
      · have apart : (other == name) = false := by simpa using same
        simp [Journal.extend, List.lookup_cons, apart, same]
  | cons held rest inductionHypothesis =>
      obtain ⟨heldName, text⟩ := held
      rw [Journal.extend]
      by_cases isHere : heldName = name
      · subst isHere
        rw [if_pos (beq_self_eq_true _), List.lookup_cons, List.lookup_cons]
        cases asked : other == heldName with
        | true =>
            simp [beq_iff_eq.mp asked]
        | false =>
            have apart : other ≠ heldName := by simpa using asked
            simp [apart]
      · rw [if_neg (by simpa using isHere), List.lookup_cons, List.lookup_cons]
        cases asked : other == heldName with
        | true =>
            have apart : other ≠ name := by
              rw [beq_iff_eq.mp asked]
              exact isHere
            simp [apart]
        | false =>
            exact inductionHypothesis

theorem text_append
    (journal : Journal)
    (name piece other : String) :
    (journal.append name piece).text other =
      journal.text other ++ if other = name then piece else "" :=
  lookup_extend name piece other journal.texts

theorem runName_eq (run : String) :
    Journal.runName run = "runs/" ++ run ++ ".ndjson" := by
  rfl

theorem runName_ne_allName (run : String) :
    Journal.runName run ≠ Journal.allName := by
  intro same
  have chars := congrArg String.toList same
  rw [runName_eq, String.toList_append, String.toList_append] at chars
  cases (List.cons.inj chars).1

/-- Different runs have different texts. -/
theorem runName_injective
    {run other : String}
    (same : Journal.runName run = Journal.runName other) :
    run = other := by
  have chars := congrArg String.toList same
  rw [runName_eq, runName_eq, String.toList_append, String.toList_append,
    String.toList_append, String.toList_append] at chars
  exact String.toList_inj.mp
    (List.append_cancel_left (List.append_cancel_right chars))

/-- An entry is written at the end of the texts that it goes to, and nowhere
else. -/
theorem text_write
    (journal : Journal)
    (entry : Entry)
    (name : String) :
    (journal.write entry.time entry.event).text name =
      journal.text name ++
        if entry.goesTo name then String.ofList entry.line else "" := by
  obtain ⟨time, event⟩ := entry
  have isLine := Entry.lineOf_eq ⟨time, event⟩
  unfold Journal.write Entry.goesTo
  cases event.run with
  | none =>
      simp [text_append, isLine]
  | some run =>
      cases safe : Journal.isSafeId run with
      | false =>
          simp [text_append, safe, isLine]
      | true =>
          have apart := runName_ne_allName run
          by_cases isAll : name = Journal.allName
          · simp [text_append, safe, isLine, isAll, Ne.symm apart]
          · simp [text_append, safe, isLine, isAll]

/-- The journal of some entries, written in order. -/
def written (log : List Entry) : Journal :=
  log.foldl (fun journal entry => journal.write entry.time entry.event)
    Journal.empty

/-- Every text holds the lines of the entries that go to it, in order. -/
theorem text_written
    (log : List Entry)
    (name : String) :
    (written log).text name =
      String.ofList ((log.filter (·.goesTo name)).flatMap Entry.line) := by
  -- A journal grows at its end, so the last entry is the step.
  induction log using List.reverseRecOn with
  | nil =>
      rfl
  | append_singleton log entry inductionHypothesis =>
      have step :
          written (log ++ [entry]) =
            (written log).write entry.time entry.event := by
        rw [written, List.foldl_append]
        rfl
      rw [step, text_write, inductionHypothesis, List.filter_append,
        List.flatMap_append, String.ofList_append]
      cases goes : entry.goesTo name <;> simp [goes]

/-- Every text is read as the documents of the entries that go to it. -/
theorem entries_written
    {log : List Entry}
    (legible : ∀ entry ∈ log, entry.Legible)
    (name : String) :
    Journal.entries ((written log).text name) =
      (log.filter (·.goesTo name)).map Entry.document := by
  rw [text_written]
  exact entries_lines fun entry member =>
    legible entry (List.mem_of_mem_filter member)

/-- The entries of a run go to the text of the run. -/
theorem goesTo_runName
    {run : String}
    (safe : Journal.isSafeId run = true)
    (entry : Entry) :
    entry.goesTo (Journal.runName run) = (entry.event.run == some run) := by
  have notAll : (Journal.runName run == Journal.allName) = false := by
    simpa using runName_ne_allName run
  rw [Entry.goesTo, notAll, Bool.false_or]
  cases entry.event.run with
  | none =>
      rfl
  | some other =>
      by_cases same : other = run
      · simp [same, safe]
      · have apart : Journal.runName run ≠ Journal.runName other := fun sameName =>
          same (runName_injective sameName).symm
        rw [Option.any_some, beq_eq_false_iff_ne.mpr apart, Bool.and_false]
        simp [same]

/-! ## Filters -/

/-- A text is as it is asked for; an empty text asks for nothing. -/
def isAsked (wanted held : Option String) : Bool :=
  wanted.all fun s => s.isEmpty || held == some s

/-- An event is as a filter asks. -/
def Journal.Filter.wants (filter : Journal.Filter) (event : Event) : Bool :=
  isAsked filter.level (some event.level.text) &&
    isAsked filter.type (some event.type.text) && isAsked filter.run event.run

theorem get?_document
    (entry : Entry)
    (key : String) :
    entry.document.get? key =
      ((Json.object entry.members).get? key).map Json.sorted :=
  Json.get?_sorted entry.distinct_members key

theorem asks_document
    {entry : Entry}
    {key : String}
    {held : Option String}
    (isHeld : (entry.document.get? key).bind Json.text? = held)
    (wanted : Option String) :
    Journal.asks wanted key entry.document = isAsked wanted held := by
  subst isHeld
  cases wanted with
  | none =>
      rfl
  | some s =>
      rfl

/-- The document of an entry shows to a filter what the event is. -/
theorem accepts_document
    (filter : Journal.Filter)
    (entry : Entry) :
    filter.accepts entry.document = filter.wants entry.event := by
  have level :
      (entry.document.get? "level").bind Json.text? =
        some entry.event.level.text := by
    rw [get?_document]
    rfl
  have type : (entry.document.get? "event_type").bind Json.text? =
      some entry.event.type.text := by
    rw [get?_document]
    rfl
  have run : (entry.document.get? "run_id").bind Json.text? = entry.event.run := by
    have member : (Json.object entry.members).get? "run_id" =
        some (Event.optionalText entry.event.run) := rfl
    rw [get?_document, member]
    cases entry.event.run <;> rfl
  rw [Journal.Filter.accepts, asks_document level, asks_document type,
    asks_document run]
  rfl

/-! ## Readings -/

/-- The limit does not cut off any of so many entries. -/
def Allows (limit : Option Int) (count : Nat) : Prop :=
  ∀ most ∈ limit, (count : Int) ≤ most

theorem takeLimit_of_allows
    {limit : Option Int}
    {items : List α}
    (allows : Allows limit items.length) :
    Journal.takeLimit limit items = items := by
  cases limit with
  | none =>
      rfl
  | some most =>
      have enough : (items.length : Int) ≤ most := allows most rfl
      rw [Journal.takeLimit, if_neg (by omega), List.take_of_length_le (by omega)]

theorem takeLimit_natCast
    (most : Nat)
    (items : List α) :
    Journal.takeLimit (some (most : Int)) items = items.take most := by
  rw [Journal.takeLimit, if_neg (by omega), Int.toNat_natCast]

/-- Reading gives the documents of the entries that a filter lets
through, the newest first. -/
theorem readAll_written
    {log : List Entry}
    (legible : ∀ entry ∈ log, entry.Legible)
    (filter : Journal.Filter) :
    (written log).readAll filter =
      Journal.takeLimit filter.limit
        ((log.filter fun entry => filter.wants entry.event).reverse.map
          Entry.document) := by
  have all : log.filter (·.goesTo Journal.allName) = log :=
    List.filter_eq_self.mpr fun _ _ => rfl
  have accepted :
      filter.accepts ∘ Entry.document = fun entry => filter.wants entry.event :=
    funext (accepts_document filter)
  rw [Journal.readAll, entries_written legible, all, List.filter_map, accepted,
    List.map_reverse]

/-- Reading a run gives the documents of its entries, the oldest first. -/
theorem readRun_written
    {log : List Entry}
    (legible : ∀ entry ∈ log, entry.Legible)
    {run : String}
    (safe : Journal.isSafeId run = true) :
    (written log).readRun run =
      (log.filter fun entry => entry.event.run == some run).map Entry.document := by
  have ofRun : (fun entry : Entry => entry.goesTo (Journal.runName run)) =
      fun entry => entry.event.run == some run :=
    funext (goesTo_runName safe)
  rw [Journal.readRun, if_pos safe, entries_written legible, ofRun]

/-- A run id of letters, digits, underscores and hyphens can name a text. -/
theorem isSafeId_of_isIdChar
    {run : String}
    (nonempty : run ≠ "")
    (each : ∀ c ∈ run.toList, Journal.isIdChar c = true) :
    Journal.isSafeId run = true := by
  have nonempty : run.toList ≠ [] := by simpa using nonempty
  rw [Journal.isSafeId]
  generalize run.toList = chars at nonempty each
  fun_induction Journal.isSafeChars chars with
  | case1 =>
      cases nonempty rfl
  | case2 c =>
      exact each c List.mem_cons_self
  | case3 c =>
      exact each c List.mem_cons_self
  | case4 c rest restSome _ inductionHypothesis =>
      obtain ⟨first, later⟩ := List.forall_mem_cons.mp each
      rw [first, Bool.true_and]
      exact inductionHypothesis restSome later

/--
All events are read once, the newest first; a filter with a limit leaves the
newest of the events that are as it asks; and the text of a run has the events
of the run in the opposite order.
-/
theorem readings_agree
    {log : List Entry}
    (legible : ∀ entry ∈ log, entry.Legible) :
    (∀ limit, Allows limit log.length →
      (written log).readAll ⟨none, none, none, limit⟩ =
        (log.map Entry.document).reverse) ∧
    (∀ (filter : Journal.Filter) (most : Nat), filter.limit = some (most : Int) →
      (written log).readAll filter =
        ((log.filter fun entry => filter.wants entry.event).reverse.take most).map
          Entry.document) ∧
    (∀ run limit, run ≠ "" → (∀ c ∈ run.toList, Journal.isIdChar c = true) →
      Allows limit log.length →
      (written log).readRun run =
        ((written log).readAll ⟨none, none, some run, limit⟩).reverse) := by
  refine ⟨?_, ?_, ?_⟩
  · intro limit allows
    have all : log.filter (fun entry =>
        Journal.Filter.wants ⟨none, none, none, limit⟩ entry.event) = log :=
      List.filter_eq_self.mpr fun _ _ => rfl
    rw [readAll_written legible, all, takeLimit_of_allows (by simpa using allows),
      List.map_reverse]
  · intro filter most isLimit
    rw [readAll_written legible, isLimit, takeLimit_natCast, List.map_take]
  · intro run limit nonempty each allows
    have safe := isSafeId_of_isIdChar nonempty each
    have ofRun : (fun entry : Entry =>
        Journal.Filter.wants ⟨none, none, some run, limit⟩ entry.event) =
        fun entry => entry.event.run == some run := by
      funext entry
      have asks : run.isEmpty = false := by simpa using nonempty
      simp [Journal.Filter.wants, isAsked, asks]
    -- A run has at most as many entries as there are in all.
    have few : Allows limit
        ((log.filter fun entry => entry.event.run == some run).reverse.map
          Entry.document).length := by
      intro most isLimit
      have fewer :=
        List.length_filter_le (fun entry : Entry => entry.event.run == some run) log
      have enough := allows most isLimit
      rw [List.length_map, List.length_reverse]
      omega
    rw [readRun_written legible safe, readAll_written legible, ofRun,
      takeLimit_of_allows few, List.map_reverse, List.reverse_reverse]

/-- The start and the end of a run, and between them an event of another run. -/
def sampleLog : List Entry := [
  ⟨"12:00", event .info .scriptStarted (some "night-1") "begins"
    [("share", .float 0.5), ("rows", .array [.int (-7), .null])] none⟩,
  ⟨"12:01", event .error .scriptFailed (some "night-2") "fails\n"
    [("error_type", .string "e\x22")] (some "E1")⟩,
  ⟨"12:02",
    event .info .scriptCompleted (some "night-1") "ends"
      [("statements", .int 3)] none⟩]

theorem legible_sampleLog : ∀ entry ∈ sampleLog, entry.Legible := by
  have first :
      (Json.object [("share", .float 0.5),
        ("rows", .array [.int (-7), .null])]).Legible := by
    refine .object (by decide) ?_
    simp only [List.forall_mem_cons, List.not_mem_nil, false_imp_iff, implies_true,
      and_true]
    refine ⟨.float rfl, .array ?_⟩
    simp only [List.forall_mem_cons, List.not_mem_nil, false_imp_iff, implies_true,
      and_true]
    exact ⟨.int _, .null⟩
  have second : (Json.object [("error_type", .string "e\x22")]).Legible :=
    .object (by decide) (List.forall_mem_singleton.mpr (.string _))
  have third : (Json.object [("statements", .int 3)]).Legible :=
    .object (by decide) (List.forall_mem_singleton.mpr (.int _))
  simp only [sampleLog, List.forall_mem_cons, List.not_mem_nil, false_imp_iff,
    implies_true, and_true]
  exact ⟨first, second, third⟩

theorem readings_agree_sampleLog :
    (written sampleLog).readAll ⟨none, none, none, some 3⟩ =
        (sampleLog.map Entry.document).reverse ∧
      (written sampleLog).readAll ⟨some "info", some "", none, some 1⟩ =
        (sampleLog.drop 2).map Entry.document ∧
      (written sampleLog).readRun "night-1" =
        ((written sampleLog).readAll ⟨none, none, some "night-1",
          some 200⟩).reverse := by
  obtain ⟨all, filtered, runs⟩ := readings_agree legible_sampleLog
  refine ⟨all (some 3) ?_, filtered ⟨some "info", some "", none, some 1⟩ 1 rfl,
    runs "night-1" (some 200) (by decide) (List.all_eq_true.mp (by decide)) ?_⟩
  · rintro most ⟨⟩
    decide
  · rintro most ⟨⟩
    decide

end GridScript.Log
