import GridScript.Proofs.Text.Rewriting
import GridScript.Script.Builtin.Text
import Mathlib.Data.List.Infix

namespace GridScript.Text

/-!
# Split, joined and replaced texts

A text is split at the occurrences of a separator from left to right, and
replaced at the same places. Its pieces hold no separator, and joined by it
they are the text again; joined by another text they are the text with the
separators replaced. Texts that were joined by a single character come apart
again if none of them holds it.
-/

section Pieces

variable {separator : List Char}

/-- A character before the first of some joined texts. -/
theorem intercalate_modifyHead
    {texts : List (List Char)}
    (some : texts ≠ [])
    (c : Char)
    (joint : List Char) :
    List.intercalate joint (texts.modifyHead (c :: ·)) =
      c :: List.intercalate joint texts := by
  obtain ⟨first, rest, rfl⟩ := List.exists_cons_of_ne_nil some
  cases rest with
  | nil =>
      simp
  | cons next rest =>
      simp [List.intercalate_cons_cons]

/-- Texts that are joined by nothing. -/
theorem intercalate_of_nil (texts : List (List Char)) :
    List.intercalate [] texts = texts.flatten := by
  induction texts with
  | nil =>
      rfl
  | cons text later inductionHypothesis =>
      cases later with
      | nil =>
          simp
      | cons next later =>
          rw [List.intercalate_cons_cons, inductionHypothesis, List.append_nil,
            ← List.flatten_cons]

/-- A text is replaced where it is split. -/
theorem replaceAll_eq_intercalate
    (nonempty : separator ≠ [])
    (replacement cs : List Char) :
    replaceAll separator replacement cs =
      List.intercalate replacement (pieces separator cs) := by
  induction cs using induction_on_occurrences nonempty with
  | nil =>
      rw [replaceAll_nil, pieces_nil, List.intercalate_singleton]
  | found cs inductionHypothesis =>
      rw [replaceAll_append nonempty, pieces_append nonempty,
        List.intercalate_cons_of_ne_nil (pieces_ne_nil separator cs),
        inductionHypothesis, List.nil_append]
  | stays c cs absent inductionHypothesis =>
      rw [replaceAll_cons nonempty absent, pieces_cons nonempty absent,
        intercalate_modifyHead (pieces_ne_nil separator cs), inductionHypothesis]

/-- Pieces joined by the separator are the text again. -/
theorem intercalate_pieces (separator cs : List Char) :
    List.intercalate separator (pieces separator cs) = cs := by
  by_cases nonempty : separator = []
  · subst nonempty
    exact List.intercalate_singleton
  rw [← replaceAll_eq_intercalate nonempty]
  induction cs using induction_on_occurrences nonempty with
  | nil =>
      exact replaceAll_nil
  | found cs inductionHypothesis =>
      rw [replaceAll_append nonempty, inductionHypothesis]
  | stays c cs absent inductionHypothesis =>
      rw [replaceAll_cons nonempty absent, inductionHypothesis]

/-- The first piece stands at the beginning of the text. -/
theorem isPrefix_of_head_pieces
    (separator cs : List Char) :
    ∀ piece ∈ (pieces separator cs).head?, piece <+: cs := by
  intro piece isFirst
  obtain ⟨rest, isPieces⟩ := List.head?_eq_some_iff.mp isFirst
  have joined := intercalate_pieces separator cs
  rw [isPieces] at joined
  cases rest with
  | nil =>
      rw [List.intercalate_singleton] at joined
      exact joined ▸ List.prefix_refl piece
  | cons next rest =>
      rw [List.intercalate_cons_cons, List.append_assoc] at joined
      exact ⟨_, joined⟩

/-- No piece holds the separator. -/
theorem not_isInfix_of_mem_pieces
    (nonempty : separator ≠ [])
    {cs piece : List Char}
    (member : piece ∈ pieces separator cs) :
    ¬separator <:+: piece := by
  induction cs using induction_on_occurrences nonempty generalizing piece with
  | nil =>
      rw [pieces_nil, List.mem_singleton] at member
      rw [member, List.infix_nil]
      exact nonempty
  | found cs inductionHypothesis =>
      rw [pieces_append nonempty] at member
      rcases List.mem_cons.mp member with rfl | later
      · rw [List.infix_nil]
        exact nonempty
      · exact inductionHypothesis later
  | stays c cs absent inductionHypothesis =>
      obtain ⟨first, rest, isPieces⟩ :=
        List.exists_cons_of_ne_nil (pieces_ne_nil separator cs)
      rw [pieces_cons nonempty absent, isPieces, List.modifyHead_cons] at member
      rw [isPieces] at inductionHypothesis
      rcases List.mem_cons.mp member with rfl | later
      · -- An occurrence in the longer piece comes first in the text or lies in
        -- the shorter piece.
        intro occurrence
        rcases List.infix_cons_iff.mp occurrence with comesFirst | inside
        · have onward : first <+: cs :=
            isPrefix_of_head_pieces separator cs first (by simp [isPieces])
          obtain ⟨rest, isText⟩ :=
            comesFirst.trans (List.cons_prefix_cons.mpr ⟨rfl, onward⟩)
          rw [dropLeading?_eq_some_iff.mpr isText.symm] at absent
          cases absent
        · exact inductionHypothesis List.mem_cons_self inside
      · exact inductionHypothesis (List.mem_cons_of_mem first later)

/-! ## Single characters -/

variable {c : Char}

theorem dropLeading?_of_ne
    {d : Char}
    (other : c ≠ d)
    (cs : List Char) :
    dropLeading? [c] (d :: cs) = none := by
  rw [dropLeading?, if_neg other]

/-- A text that does not hold the character is one piece. -/
theorem pieces_of_not_mem
    {cs : List Char}
    (absent : c ∉ cs) :
    pieces [c] cs = [cs] := by
  induction cs with
  | nil =>
      exact pieces_nil [c]
  | cons d cs inductionHypothesis =>
      obtain ⟨other, absentLater⟩ := List.ne_and_not_mem_of_not_mem_cons absent
      rw [pieces_cons (List.cons_ne_nil c []) (dropLeading?_of_ne other cs),
        inductionHypothesis absentLater, List.modifyHead_cons]

/-- The first piece ends where the character stands for the first time. -/
theorem pieces_append_cons
    {cs : List Char}
    (absent : c ∉ cs)
    (rest : List Char) :
    pieces [c] (cs ++ c :: rest) = cs :: pieces [c] rest := by
  induction cs with
  | nil =>
      exact pieces_append (List.cons_ne_nil c []) rest
  | cons d cs inductionHypothesis =>
      obtain ⟨other, absentLater⟩ := List.ne_and_not_mem_of_not_mem_cons absent
      rw [List.cons_append,
        pieces_cons (List.cons_ne_nil c []) (dropLeading?_of_ne other _),
        inductionHypothesis absentLater, List.modifyHead_cons]

/-- Texts that do not hold the character are the pieces of the joined text. -/
theorem pieces_intercalate
    {texts : List (List Char)}
    (some : texts ≠ [])
    (absent : ∀ text ∈ texts, c ∉ text) :
    pieces [c] (List.intercalate [c] texts) = texts := by
  induction texts with
  | nil =>
      exact absurd rfl some
  | cons text later inductionHypothesis =>
      have notHere := absent text List.mem_cons_self
      cases later with
      | nil =>
          rw [List.intercalate_singleton, pieces_of_not_mem notHere]
      | cons next later =>
          have read := inductionHypothesis (List.cons_ne_nil next later)
            fun other member => absent other (List.mem_cons_of_mem text member)
          rw [List.intercalate_cons_cons, List.append_assoc, List.singleton_append,
            pieces_append_cons notHere, read]

end Pieces

end GridScript.Text

namespace GridScript.Script

open GridScript.Text

/-! ## The functions of scripts -/

/-- An array of texts. -/
def textArray (texts : List String) : Value :=
  .array (texts.map .string)

theorem callText_split (t s : String) :
    callText .split [.string t, .string s] = .ok (textArray (splitText t s)) :=
  rfl

theorem callText_join (texts : List String) (s : String) :
    callText .join [textArray texts, .string s] =
      .ok (.string (s.intercalate texts)) := by
  have shown : (texts.map Value.string).map Value.display = texts := by
    rw [List.map_map]
    exact List.map_id texts
  show Except.ok
    (Value.string (s.intercalate ((texts.map Value.string).map Value.display))) = _
  rw [shown]

theorem callText_replace
    {s : String}
    (nonempty : s ≠ "")
    (t r : String) :
    callText .replace [.string t, .string s, .string r] =
      .ok (textOf (replaceAll s.toList r.toList t.toList)) := by
  show (if s.isEmpty then _ else _) = _
  rw [if_neg (by simpa using nonempty)]
  rfl

/-- The characters of the pieces of a text. -/
theorem map_toList_splitText
    {s : String}
    (nonempty : s ≠ "")
    (t : String) :
    (splitText t s).map String.toList = pieces s.toList t.toList := by
  rw [splitText, if_neg (by simpa using nonempty), List.map_map]
  refine (List.map_congr_left fun piece _ => ?_).trans (List.map_id _)
  exact String.toList_ofList

/-- Also characters are pieces that make the text again. -/
theorem intercalate_splitText (t s : String) :
    s.intercalate (splitText t s) = t := by
  rw [← String.toList_inj, String.toList_intercalate]
  by_cases nonempty : s = ""
  · subst nonempty
    have characters : splitText t "" = t.toList.map String.singleton := rfl
    have single : String.toList ∘ String.singleton = fun c => [c] :=
      funext fun _ => String.toList_singleton _
    rw [characters, List.map_map, single, String.toList_empty,
      intercalate_of_nil, ← List.flatMap_def, List.flatMap_singleton']
  · rw [map_toList_splitText nonempty, intercalate_pieces]

/--
Splitting, joining and replacing fit together.

The pieces of a text joined by the separator are the text again, also by the
empty one. No piece holds a separator that is not empty, and joined by
another text the pieces are what replacing the separator gives. Some texts
that are joined by one character, which none of them holds, are the pieces
of the joined text.
-/
theorem split_join_replace (t s : String) :
    (∃ pieces : List String,
      callText .split [.string t, .string s] = .ok (textArray pieces) ∧
        callText .join [textArray pieces, .string s] = .ok (.string t) ∧
        (s ≠ "" →
          (∀ piece ∈ pieces, ¬s.toList <:+: piece.toList) ∧
            ∀ r : String, ∃ replaced : String,
              callText .replace [.string t, .string s, .string r] =
                  .ok (.string replaced) ∧
                callText .join [textArray pieces, .string r] =
                  .ok (.string replaced))) ∧
      (s.length = 1 →
        ∀ texts : List String,
          texts ≠ [] →
          (∀ text ∈ texts, ¬s.toList <:+: text.toList) →
          ∃ joined : String,
            callText .join [textArray texts, .string s] = .ok (.string joined) ∧
              callText .split [.string joined, .string s] =
                .ok (textArray texts)) := by
  refine
    ⟨⟨splitText t s, callText_split t s, ?_, fun nonempty => ⟨?_, fun r => ?_⟩⟩, ?_⟩
  · rw [callText_join, intercalate_splitText]
  · intro piece member
    have inPieces : piece.toList ∈ pieces s.toList t.toList := by
      rw [← map_toList_splitText nonempty]
      exact List.mem_map_of_mem member
    exact not_isInfix_of_mem_pieces (by simpa using nonempty) inPieces
  · refine ⟨r.intercalate (splitText t s), ?_, callText_join _ r⟩
    rw [callText_replace nonempty,
      replaceAll_eq_intercalate (by simpa using nonempty), ← map_toList_splitText
        nonempty, ← String.toList_intercalate, textOf, String.ofList_toList]
  · intro single texts some absent
    obtain ⟨c, isSingle⟩ :=
      List.length_eq_one_iff.mp (String.length_toList.trans single)
    refine ⟨s.intercalate texts, callText_join texts s, ?_⟩
    have nonempty : s ≠ "" := by
      rintro rfl
      cases single
    have pieces : (splitText (s.intercalate texts) s).map String.toList =
        texts.map String.toList := by
      rw [map_toList_splitText nonempty, String.toList_intercalate, isSingle]
      refine pieces_intercalate (by simpa using some) fun text member => ?_
      obtain ⟨source, isSource, rfl⟩ := List.mem_map.mp member
      rw [← List.singleton_infix_iff, ← isSingle]
      exact absent source isSource
    rw [callText_split,
      List.map_injective_iff.mpr (fun _ _ => String.toList_inj.mp) pieces]

/-- Fields with an empty one between them are split, and their
separators are replaced. -/
theorem split_join_replace_fields :
    callText .split [.string "a,,b", .string ","] = .ok (textArray ["a", "", "b"]) ∧
      callText .replace [.string "a,,b", .string ",", .string "; "] =
        .ok (.string "a; ; b") := by
  obtain ⟨⟨pieces, isSplit, -, cut⟩, joins⟩ := split_join_replace "a,,b" ","
  obtain ⟨joined, isJoined, apart⟩ :=
    joins rfl ["a", "", "b"] (by decide) (by decide)
  obtain ⟨replaced, isReplaced, rejoined⟩ := (cut (by decide)).2 "; "
  have whole : joined = "a,,b" := by
    rw [callText_join] at isJoined
    cases isJoined
    decide
  rw [whole] at apart
  rw [Except.ok.inj (isSplit.symm.trans apart), callText_join] at rejoined
  cases rejoined
  exact ⟨apart, isReplaced⟩

end GridScript.Script
