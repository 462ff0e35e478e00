import GridScript.Format.Code
import Mathlib.Data.List.Basic

namespace GridScript.Format

/-!
# Sections of format codes

A code is cut at the semicolons that stand outside of quotes and behind no
backslash. The reader stands at such a semicolon as it stands at the beginning
of a code, so a section is read alone as it is read in its code, and is its own
only section. A code ends its last section wherever the reader then stands:
quotes may be left open, and the last character may be a backslash.
-/

variable {reader : Reader} {current cs code rest section' : List Char}

/-- Where the reader of a format code stands after some text. -/
def Reader.after (reader : Reader) (cs : List Char) : Reader :=
  cs.foldl Reader.next reader

/-- No semicolon of the text separates sections for a reader who
begins to read it. -/
def Reader.Joins (reader : Reader) (cs : List Char) : Prop :=
  ∀ before after, cs = before ++ ';' :: after → reader.after before ≠ .start

/-- A code is cut into some texts at its separating semicolons. -/
structure IsSectioning (code : List Char) (texts : List (List Char)) : Prop where
  nonempty : texts ≠ []
  joined : List.intercalate [';'] texts = code
  /-- No text holds a separating semicolon. -/
  joins : ∀ text ∈ texts, Reader.start.Joins text
  /-- The semicolon behind every text but the last separates. -/
  separate : ∀ text ∈ texts.dropLast, Reader.start.after text = .start

/-! ## Texts without separators -/

theorem Reader.separates_iff
    {c : Char} :
    reader.separates c = true ↔ reader = .start ∧ c = ';' := by
  obtain ⟨quoted, escaped⟩ := reader
  cases quoted <;> cases escaped <;> simp [Reader.separates, Reader.start]

theorem Reader.Joins.of_not_mem
    (absent : ';' ∉ cs) :
    reader.Joins cs := by
  rintro before after rfl
  simp at absent

/-- A text joins if its first character does not separate and the others join. -/
theorem Reader.joins_cons_iff
    {c : Char} :
    reader.Joins (c :: cs) ↔
      reader.separates c = false ∧ (reader.next c).Joins cs := by
  constructor
  · intro joins
    refine ⟨?_, fun before after split => ?_⟩
    · rw [Bool.eq_false_iff, ne_eq, Reader.separates_iff]
      rintro ⟨isStart, rfl⟩
      exact joins [] cs rfl isStart
    · subst split
      exact joins (c :: before) after rfl
  · rintro ⟨first, later⟩ before after split
    cases before with
    | nil =>
        obtain ⟨rfl, -⟩ := List.cons.inj split
        intro isStart
        have separates : reader.separates ';' = true :=
          Reader.separates_iff.mpr ⟨isStart, rfl⟩
        cases first.symm.trans separates
    | cons d before =>
        obtain ⟨rfl, same⟩ := List.cons.inj split
        exact later before after same

/-- A text without separators belongs to the current section as a whole. -/
theorem sectionsFrom_of_joins
    (joins : reader.Joins cs) :
    sectionsFrom reader current cs = [current.reverse ++ cs] := by
  induction cs generalizing reader current with
  | nil =>
      simp [sectionsFrom]
  | cons c cs inductionHypothesis =>
      obtain ⟨first, later⟩ := Reader.joins_cons_iff.mp joins
      simp [sectionsFrom, first, inductionHypothesis later]

/-- A separating semicolon ends the current section. -/
theorem sectionsFrom_append
    (joins : reader.Joins cs)
    (separates : reader.after cs = .start)
    (rest : List Char) :
    sectionsFrom reader current (cs ++ ';' :: rest) =
      (current.reverse ++ cs) :: sections rest := by
  induction cs generalizing reader current with
  | nil =>
      obtain rfl : reader = .start := separates
      rw [List.append_nil]
      rfl
  | cons c cs inductionHypothesis =>
      obtain ⟨first, later⟩ := Reader.joins_cons_iff.mp joins
      simp [sectionsFrom, first, inductionHypothesis later separates]

theorem sections_of_joins
    (joins : Reader.start.Joins code) :
    sections code = [code] :=
  sectionsFrom_of_joins joins

theorem sections_append
    (joins : Reader.start.Joins cs)
    (separates : Reader.start.after cs = .start)
    (rest : List Char) :
    sections (cs ++ ';' :: rest) = cs :: sections rest :=
  sectionsFrom_append joins separates rest

/-! ## The sections of a code -/

/-- A text has no separator, or a first one. -/
theorem joins_or_separated (reader : Reader) (cs : List Char) :
    reader.Joins cs ∨
      ∃ before rest, cs = before ++ ';' :: rest ∧ reader.Joins before ∧
        reader.after before = .start := by
  induction cs generalizing reader with
  | nil =>
      exact .inl (.of_not_mem List.not_mem_nil)
  | cons c cs inductionHypothesis =>
      cases first : reader.separates c with
      | true =>
          obtain ⟨isStart, rfl⟩ := Reader.separates_iff.mp first
          exact .inr ⟨[], cs, rfl, .of_not_mem List.not_mem_nil, isStart⟩
      | false =>
          rcases inductionHypothesis (reader.next c) with
            joins | ⟨before, rest, rfl, joins, ends⟩
          · exact .inl (Reader.joins_cons_iff.mpr ⟨first, joins⟩)
          · exact .inr ⟨c :: before, rest, rfl,
              Reader.joins_cons_iff.mpr ⟨first, joins⟩, ends⟩

/-- Codes are made of sections: the last one, or one before a separator
and other sections. -/
theorem induction_on_sections
    {motive : List Char → Prop}
    (last : ∀ text, Reader.start.Joins text → motive text)
    (cut : ∀ text rest, Reader.start.Joins text → Reader.start.after text = .start →
      motive rest → motive (text ++ ';' :: rest))
    (code : List Char) :
    motive code := by
  rcases joins_or_separated .start code with
    joins | ⟨text, rest, split, joins, separates⟩
  · exact last code joins
  · have shorter : rest.length < code.length := by
      rw [split, List.length_append, List.length_cons]
      omega
    rw [split]
    exact cut text rest joins separates (induction_on_sections last cut rest)
termination_by code.length

/-- The sections of a code are what its separators leave. -/
theorem isSectioning_sections (code : List Char) :
    IsSectioning code (sections code) := by
  induction code using induction_on_sections with
  | last text joins =>
      rw [sections_of_joins joins]
      exact ⟨nofun, List.intercalate_singleton, by simpa using joins, nofun⟩
  | cut text rest joins separates inductionHypothesis =>
      obtain ⟨nonempty, joined, joinsEach, separatesEach⟩ := inductionHypothesis
      rw [sections_append joins separates]
      refine ⟨nofun, ?_, ?_, ?_⟩
      · rw [List.intercalate_cons_of_ne_nil nonempty, joined, List.append_assoc]
        rfl
      · exact List.forall_mem_cons.mpr ⟨joins, joinsEach⟩
      · rw [List.dropLast_cons_of_ne_nil nonempty]
        exact List.forall_mem_cons.mpr ⟨separates, separatesEach⟩

/-- There is one way to cut a code at its separators. -/
theorem IsSectioning.eq_sections
    {texts : List (List Char)}
    (sectioning : IsSectioning code texts) :
    texts = sections code := by
  induction texts generalizing code with
  | nil =>
      exact absurd rfl sectioning.nonempty
  | cons text texts inductionHypothesis =>
      obtain ⟨-, rfl, joinsEach, separatesEach⟩ := sectioning
      obtain ⟨joins, joinsLater⟩ := List.forall_mem_cons.mp joinsEach
      by_cases isLast : texts = []
      · subst isLast
        rw [List.intercalate_singleton, sections_of_joins joins]
      · rw [List.dropLast_cons_of_ne_nil isLast] at separatesEach
        obtain ⟨separates, separatesLater⟩ := List.forall_mem_cons.mp separatesEach
        have later := inductionHypothesis ⟨isLast, rfl, joinsLater, separatesLater⟩
        rw [List.intercalate_cons_of_ne_nil isLast, List.append_assoc,
          List.singleton_append, sections_append joins separates, ← later]

theorem sections_ne_nil (code : List Char) : sections code ≠ [] :=
  (isSectioning_sections code).nonempty

/-- A section is its own only section. -/
theorem sections_of_mem
    {text : List Char}
    (member : text ∈ sections code) :
    sections text = [text] :=
  sections_of_joins ((isSectioning_sections code).joins text member)

/-- A code of one section is that section. -/
theorem sections_of_length
    (single : (sections code).length = 1) :
    sections code = [code] := by
  obtain ⟨text, only⟩ := List.length_eq_one_iff.mp single
  have joined := (isSectioning_sections code).joined
  rw [only, List.intercalate_singleton] at joined
  rw [only, joined]

/-! ## The section of a value -/

/-- A value is shown by one of the sections of a code. -/
theorem mem_sections_of_choose
    {v shown : Value}
    {chosen : List Char}
    (isChosen : choose code v = some (chosen, shown)) :
    chosen ∈ sections code := by
  have first : (sections code).headD [] ∈ sections code := by
    obtain ⟨text, texts, isCons⟩ :=
      List.exists_cons_of_ne_nil (sections_ne_nil code)
    simp [isCons]
  have later {i : Nat} (within : i < (sections code).length) :
      (sections code).getD i [] ∈ sections code := by
    rw [List.getD_eq_getElem?_getD, List.getElem?_eq_getElem within]
    exact List.getElem_mem within
  unfold choose at isChosen
  dsimp only at isChosen
  split at isChosen
  next =>
    generalize isText :
      (if (sections code).length ≥ 4 then (sections code).getD 3 []
      else (sections code).headD []) = text at isChosen
    have member : text ∈ sections code := by
      rw [← isText]
      split
      next enough =>
        exact later enough
      next =>
        exact first
    split at isChosen
    · cases isChosen
      exact member
    · cases isChosen
  next =>
    split at isChosen
    next several =>
      split at isChosen
      · cases isChosen
        exact later several
      split at isChosen
      next both =>
        cases isChosen
        rw [Bool.and_eq_true, decide_eq_true_eq] at both
        exact later both.2
      next =>
        cases isChosen
        exact first
    next =>
      cases isChosen
      exact first
  next =>
    cases isChosen
    exact first

/-- The section that is chosen for a value is classified as a whole. -/
theorem parse_of_mem_sections
    {text : List Char}
    (member : text ∈ sections code) :
    NumberFormat.parse text =
      ⟨classify (Text.trim (withoutColors 0 text)),
        Text.trim (withoutColors 0 text)⟩ := by
  rw [NumberFormat.parse, sections_of_mem member]
  rfl

/--
Sections are final.

The sections of a code are the only texts that its separating semicolons cut it
into. Joined by semicolons they are the code again, each is its own only
section, and so a section that was chosen for a value is classified as a whole,
whatever quotes and backslashes it holds.
-/
theorem sections_final (code : List Char) :
    (∀ texts, texts = sections code ↔ IsSectioning code texts) ∧
      List.intercalate [';'] (sections code) = code ∧
      (∀ text ∈ sections code, sections text = [text]) ∧
      ∀ v chosen shown, choose code v = some (chosen, shown) →
        chosen ∈ sections code ∧
          NumberFormat.parse chosen =
            ⟨classify (Text.trim (withoutColors 0 chosen)),
              Text.trim (withoutColors 0 chosen)⟩ := by
  have sectioning := isSectioning_sections code
  refine ⟨fun texts => ⟨?_, IsSectioning.eq_sections⟩, sectioning.joined,
    fun text => sections_of_mem, fun v chosen shown isChosen => ?_⟩
  · rintro rfl
    exact sectioning
  · have member := mem_sections_of_choose isChosen
    exact ⟨member, parse_of_mem_sections member⟩

/-- An escaped semicolon, a quoted one, nothing at all, and quotes and a
backslash left open. -/
theorem sections_final_open :
    IsSectioning "0\\;;\"a;b\"#;;\"-x\\".toList
        (["0\\;", "\"a;b\"#", "", "\"-x\\"].map String.toList) ∧
      sections "\"-x\\".toList = ["\"-x\\".toList] ∧
      choose "0\\;;\"a;b\"#;;\"-x\\".toList (.int (-7)) =
        some ("\"a;b\"#".toList, .int 7) ∧
      NumberFormat.parse "\"a;b\"#".toList = ⟨.custom, "\"a;b\"#".toList⟩ := by
  have cuts : ["0\\;", "\"a;b\"#", "", "\"-x\\"].map String.toList =
      sections "0\\;;\"a;b\"#;;\"-x\\".toList := by
    decide +kernel
  have chosen : choose "0\\;;\"a;b\"#;;\"-x\\".toList (.int (-7)) =
      some ("\"a;b\"#".toList, .int 7) := by
    rfl
  obtain ⟨onlyCut, -, single, whole⟩ :=
    sections_final "0\\;;\"a;b\"#;;\"-x\\".toList
  refine ⟨(onlyCut _).mp cuts, single _ ?_, chosen, ?_⟩
  · rw [← cuts]
    decide
  · rw [(whole _ _ _ chosen).2]
    decide +kernel

end GridScript.Format
