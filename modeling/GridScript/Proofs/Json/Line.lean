import GridScript.Proofs.Entries
import GridScript.Proofs.Json.Scalars

namespace GridScript.Json

/-!
# Documents on lines

A document that is written on a line is read back from it, whatever
follows on the line, with the members of every object in the order of
their keys. A line consists of visible ASCII characters and blanks, so
that no line break stands in it.
-/

open GridScript.Number

/-! ## Sorted documents -/

/-- Members in the order of their keys. -/
def inOrder (members : List (String × α)) : List (String × α) :=
  members.mergeSort fun l r => decide (l.1 ≤ r.1)

theorem inOrder_perm (members : List (String × α)) :
    (inOrder members).Perm members :=
  List.mergeSort_perm members _

/-- The order is that of the keys alone. -/
theorem inOrder_map
    (f : α → β)
    (members : List (String × α)) :
    inOrder (members.map fun member => (member.1, f member.2)) =
      (inOrder members).map fun member => (member.1, f member.2) := by
  unfold inOrder
  rw [List.map_mergeSort]
  exact fun _ _ _ _ => rfl

mutual

/-- A document with the members of every object in the order of their keys. -/
def sorted : Json → Json
  | array items => array (sortedItems items)
  | object members => object (inOrder (sortedMembers members))
  | value => value

/-- The items of an array, each sorted. -/
def sortedItems : List Json → List Json
  | [] => []
  | item :: rest => item.sorted :: sortedItems rest

/-- The members of an object, each with its value sorted. -/
def sortedMembers : List (String × Json) → List (String × Json)
  | [] => []
  | (key, value) :: rest => (key, value.sorted) :: sortedMembers rest

end

theorem sortedItems_eq_map (items : List Json) :
    sortedItems items = items.map sorted := by
  induction items with
  | nil =>
      rfl
  | cons item rest inductionHypothesis =>
      rw [sortedItems, inductionHypothesis, List.map_cons]

theorem sortedMembers_eq_map (members : List (String × Json)) :
    sortedMembers members =
      members.map fun member => (member.1, member.2.sorted) := by
  induction members with
  | nil =>
      rfl
  | cons member rest inductionHypothesis =>
      rw [sortedMembers, inductionHypothesis, List.map_cons]

theorem itemLines_eq_map (items : List Json) :
    itemLines items = items.map line := by
  induction items with
  | nil =>
      rfl
  | cons item rest inductionHypothesis =>
      rw [itemLines, inductionHypothesis, List.map_cons]

theorem memberLines_eq_map (members : List (String × Json)) :
    memberLines members = members.map fun member => (member.1, member.2.line) := by
  induction members with
  | nil =>
      rfl
  | cons member rest inductionHypothesis =>
      rw [memberLines, inductionHypothesis, List.map_cons]

/-- A member on a line. -/
def memberLine (member : String × Json) : List Char :=
  lineString member.1 ++ [':', ' '] ++ member.2.line

theorem line_array (items : List Json) :
    (array items).line = '[' :: lineJoin (items.map line) ++ [']'] := by
  rw [line, itemLines_eq_map]

/-- The members of an object stand on its line in the order of their keys. -/
theorem line_object (members : List (String × Json)) :
    (object members).line =
      '\x7b' :: lineJoin ((inOrder members).map memberLine) ++ ['\x7d'] := by
  have sameOrder : sortMembers (memberLines members) =
      (inOrder members).map fun member => (member.1, member.2.line) := by
    rw [memberLines_eq_map]
    exact inOrder_map line members
  rw [line, sameOrder, List.map_map]
  rfl

theorem sorted_array (items : List Json) :
    (array items).sorted = array (items.map sorted) := by
  rw [sorted, sortedItems_eq_map]

theorem sorted_object (members : List (String × Json)) :
    (object members).sorted =
      object ((inOrder members).map fun member => (member.1, member.2.sorted)) := by
  rw [sorted, sortedMembers_eq_map, inOrder_map]

/-- A document that its line shows: no object has two members with one key, and
floats are read back from their texts. -/
inductive Legible : Json → Prop where
  | null : Legible null
  | bool (b : Bool) : Legible (bool b)
  | int (i : Int) : Legible (int i)
  | float
      {x : Float}
      (read : readValue? 1 (lineFloat x) = some (.float x, [])) :
      Legible (float x)
  | string (s : String) : Legible (string s)
  | array
      {items : List Json}
      (each : ∀ item ∈ items, Legible item) :
      Legible (array items)
  | object
      {members : List (String × Json)}
      (distinct : (members.map Prod.fst).Nodup)
      (each : ∀ member ∈ members, Legible member.2) :
      Legible (object members)

/-! ## Reading lines -/

/-- A document is read from its line, sorted, up to what follows it. -/
def Reads (document : Json) : Prop :=
  ∀ fuel tail, document.line.length ≤ fuel → Follows tail →
    readValue? fuel (document.line ++ tail) = some (document.sorted, tail)

/-- A value begins with a character that is no blank and no closing bracket. -/
def Starts (cs : List Char) : Prop :=
  ∃ c rest, cs = c :: rest ∧ c ≠ ' ' ∧ c ≠ '\t' ∧ c ≠ '\n' ∧ c ≠ '\r' ∧ c ≠ ']'

theorem starts_of_isDigit
    {c : Char}
    (digit : c.isDigit = true)
    (rest : List Char) :
    Starts (c :: rest) :=
  ⟨c, rest, rfl, ne_of_isDigit digit ' ' (by decide),
    ne_of_isDigit digit '\t' (by decide), ne_of_isDigit digit '\n' (by decide),
    ne_of_isDigit digit '\r' (by decide), ne_of_isDigit digit ']' (by decide)⟩

theorem starts_of_readValue?
    {fuel : Nat}
    {cs rest : List Char}
    {document : Json}
    (read : readValue? fuel cs = some (document, rest)) :
    Starts cs := by
  cases fuel with
  | zero =>
      simp [readValue?] at read
  | succ fuel =>
      unfold readValue? at read
      split at read
      case h_11 =>
        obtain ⟨c, more, rfl, digit⟩ := exists_digit_of_readNumber? read
        exact starts_of_isDigit digit more
      all_goals exact ⟨_, _, rfl, by decide⟩

theorem Starts.skipBlanks
    {cs : List Char}
    (starts : Starts cs) :
    skipBlanks cs = cs := by
  obtain ⟨c, rest, rfl, noBlank, noTab, noFeed, noReturn, -⟩ := starts
  exact List.dropWhile_cons_of_neg (by simp [noBlank, noTab, noFeed, noReturn])

theorem Reads.starts
    {document : Json}
    (reads : Reads document)
    {tail : List Char}
    (follows : Follows tail) :
    Starts (document.line ++ tail) :=
  starts_of_readValue? (reads _ _ (Nat.le_refl _) follows)

theorem lineJoin_cons_cons
    (text next : List Char)
    (rest : List (List Char)) :
    lineJoin (text :: next :: rest) =
      text ++ ',' :: ' ' :: lineJoin (next :: rest) := by
  rw [lineJoin, List.intercalate_cons_cons, List.append_assoc]
  rfl

/-- The first of several texts is followed by a comma or by what closes them. -/
theorem exists_follows
    (text : List Char)
    (rest : List (List Char))
    {closing : Char}
    (closes : closing = ']' ∨ closing = '\x7d')
    (tail : List Char) :
    ∃ later, lineJoin (text :: rest) ++ closing :: tail = text ++ later ∧
      Follows later := by
  cases rest with
  | nil =>
      refine ⟨closing :: tail, ?_, ?_⟩
      · rw [lineJoin, List.intercalate_singleton]
      · rcases closes with rfl | rfl
        · exact .bracket tail
        · exact .brace tail
  | cons next rest =>
      refine ⟨_, ?_, .comma (' ' :: lineJoin (next :: rest) ++ closing :: tail)⟩
      rw [lineJoin_cons_cons, List.append_assoc]
      rfl

/-- The texts after the first begin after a blank. -/
theorem skipBlanks_lineJoin
    {next : Json}
    (reads : Reads next)
    (rest : List (List Char))
    (tail : List Char) :
    skipBlanks (' ' :: (lineJoin (next.line :: rest) ++ ']' :: tail)) =
      lineJoin (next.line :: rest) ++ ']' :: tail := by
  obtain ⟨later, isNext, follows⟩ := exists_follows next.line rest (.inl rfl) tail
  rw [isNext]
  exact (reads.starts follows).skipBlanks

theorem readItems?_last
    {fuel : Nat}
    {cs tail : List Char}
    {item : Json}
    (read : readValue? fuel (skipBlanks cs) = some (item, ']' :: tail))
    (done : List Json) :
    readItems? (fuel + 1) done cs =
      some (.array (done.reverse ++ [item]), tail) := by
  rw [readItems?, read, ← List.reverse_cons]
  rfl

theorem readItems?_more
    {fuel : Nat}
    {cs rest : List Char}
    {item : Json}
    (read : readValue? fuel (skipBlanks cs) = some (item, ',' :: rest))
    (done : List Json) :
    readItems? (fuel + 1) done cs = readItems? fuel (item :: done) rest := by
  rw [readItems?, read]
  rfl

/-- The items on a line are read up to the closing bracket. -/
theorem readItems?_line
    {items : List Json}
    (nonempty : items ≠ [])
    (reads : ∀ item ∈ items, Reads item)
    {fuel : Nat}
    (enough : (lineJoin (items.map line)).length < fuel)
    {cs tail : List Char}
    (text : skipBlanks cs = lineJoin (items.map line) ++ ']' :: tail)
    (done : List Json) :
    readItems? fuel done cs =
      some (.array (done.reverse ++ items.map sorted), tail) := by
  induction items generalizing fuel cs done with
  | nil =>
      cases nonempty rfl
  | cons item rest inductionHypothesis =>
      obtain ⟨fuel, rfl⟩ := Nat.exists_eq_succ_of_ne_zero (Nat.ne_zero_of_lt enough)
      have itemReads := reads item List.mem_cons_self
      -- The last item is followed by the bracket, the others by a
      -- comma and a blank.
      cases rest with
      | nil =>
          have isLine : lineJoin ([item].map line) = item.line :=
            List.intercalate_singleton
          rw [isLine] at text enough
          have read :=
            itemReads fuel (']' :: tail) (Nat.le_of_lt_succ enough) (.bracket tail)
          exact readItems?_last (text ▸ read) done
      | cons next rest =>
          have restReads : ∀ other ∈ next :: rest, Reads other :=
            fun other member =>
              reads other (List.mem_cons_of_mem item member)
          rw [List.map_cons, List.map_cons, lineJoin_cons_cons] at text enough
          rw [List.append_assoc] at text
          simp only [List.length_append, List.length_cons] at enough
          have read := itemReads fuel
            (',' :: ' ' :: (lineJoin (next.line :: rest.map line) ++ ']' :: tail))
            (by omega)
            (.comma _)
          have enoughLater :
              (lineJoin ((next :: rest).map line)).length < fuel := by
            rw [List.map_cons]
            omega
          have more :=
            inductionHypothesis (List.cons_ne_nil next rest) restReads enoughLater
            (skipBlanks_lineJoin (restReads next List.mem_cons_self)
              (rest.map line) tail)
            (item.sorted :: done)
          rw [readItems?_more (text ▸ read), more]
          simp

/-- A new key has its member at the end. -/
theorem insertMember_of_not_mem
    {key : String}
    {members : List (String × Json)}
    (absent : key ∉ members.map Prod.fst)
    (value : Json) :
    insertMember key value members = members ++ [(key, value)] := by
  induction members with
  | nil =>
      rfl
  | cons member rest inductionHypothesis =>
      rw [List.map_cons] at absent
      obtain ⟨other, absentLater⟩ := List.ne_and_not_mem_of_not_mem_cons absent
      rw [insertMember, if_neg (by simpa using Ne.symm other),
        inductionHypothesis absentLater]
      rfl

theorem memberLine_append
    (member : String × Json)
    (tail : List Char) :
    memberLine member ++ tail = '"' :: (member.1.toList.flatMap lineChar ++
      '"' :: ':' :: ' ' :: (member.2.line ++ tail)) := by
  simp [memberLine, lineString]

theorem length_flatMap_lineChar (cs : List Char) :
    cs.length ≤ (cs.flatMap lineChar).length := by
  have nonempty (c : Char) : 1 ≤ (lineChar c).length := by
    unfold lineChar escapeCodes escapeCode
    split
    · simp
    · dsimp only
      split
      · simp
      · split <;> simp
  induction cs with
  | nil =>
      exact Nat.le_refl 0
  | cons c cs inductionHypothesis =>
      have first := nonempty c
      rw [List.flatMap_cons, List.length_append, List.length_cons]
      omega

/-- A member on a line is read up to what follows its value. -/
theorem readMembers?_member
    {fuel : Nat}
    {cs tail : List Char}
    {member : String × Json}
    (reads : Reads member.2)
    (enough : (memberLine member).length ≤ fuel)
    (follows : Follows tail)
    (text : skipBlanks cs = memberLine member ++ tail)
    {done : List (String × Json)}
    (absent : member.1 ∉ done.map Prod.fst) :
    (∀ rest, tail = ',' :: rest → readMembers? (fuel + 1) done cs =
      readMembers? fuel (done ++ [(member.1, member.2.sorted)]) rest) ∧
    (∀ rest, tail = '\x7d' :: rest → readMembers? (fuel + 1) done cs =
      some (.object (done ++ [(member.1, member.2.sorted)]), rest)) := by
  have parts := congrArg List.length (memberLine_append member [])
  simp only [List.append_nil, List.length_cons, List.length_append] at parts
  have keyLength := length_flatMap_lineChar member.1.toList
  have keyRead := readBody?_lineString (fuel + 1) member.1.toList (by omega) []
    (':' :: ' ' :: (member.2.line ++ tail))
  have valueRead := reads fuel tail (by omega) follows
  have valueStart :
      skipBlanks (' ' :: (member.2.line ++ tail)) = member.2.line ++ tail :=
    (reads.starts follows).skipBlanks
  have colonStart (rest : List Char) : skipBlanks (':' :: rest) = ':' :: rest := rfl
  rw [memberLine_append] at text
  constructor
  all_goals
    rintro rest rfl
    rw [readMembers?]
    simp only [text, keyRead, Option.bind_eq_bind, Option.bind_some, colonStart,
      valueStart, valueRead, List.reverse_nil, List.nil_append,
      String.ofList_toList, insertMember_of_not_mem absent]
    rfl

/-- The members on a line are read up to the closing brace. -/
theorem readMembers?_line
    {members : List (String × Json)}
    (nonempty : members ≠ [])
    (reads : ∀ member ∈ members, Reads member.2)
    (done : List (String × Json))
    (distinct : (done.map Prod.fst ++ members.map Prod.fst).Nodup)
    {fuel : Nat}
    (enough : (lineJoin (members.map memberLine)).length < fuel)
    {cs tail : List Char}
    (text : skipBlanks cs = lineJoin (members.map memberLine) ++ '\x7d' :: tail) :
    readMembers? fuel done cs =
      some (.object (done ++ members.map fun member => (member.1, member.2.sorted)),
        tail) := by
  induction members generalizing fuel cs done with
  | nil =>
      cases nonempty rfl
  | cons member rest inductionHypothesis =>
      obtain ⟨fuel, rfl⟩ := Nat.exists_eq_succ_of_ne_zero (Nat.ne_zero_of_lt enough)
      have memberReads := reads member List.mem_cons_self
      -- The key is new, so that its member is put behind those that
      -- are read already.
      have absent : member.1 ∉ done.map Prod.fst := fun held =>
        List.disjoint_of_nodup_append distinct held List.mem_cons_self
      cases rest with
      | nil =>
          have isLine : lineJoin ([member].map memberLine) = memberLine member :=
            List.intercalate_singleton
          rw [isLine] at text enough
          exact (readMembers?_member memberReads (Nat.le_of_lt_succ enough)
            (.brace tail) text absent).2 tail rfl
      | cons next rest =>
          rw [List.map_cons, List.map_cons, lineJoin_cons_cons] at text enough
          rw [List.append_assoc] at text
          simp only [List.length_append, List.length_cons] at enough
          have enoughLater :
              (lineJoin ((next :: rest).map memberLine)).length < fuel := by
            rw [List.map_cons]
            omega
          have distinctLater :
              ((done ++ [(member.1, member.2.sorted)]).map Prod.fst ++
              (next :: rest).map Prod.fst).Nodup := by
            simpa using distinct
          obtain ⟨later, isNext, -⟩ :=
            exists_follows (memberLine next) (rest.map memberLine) (.inr rfl) tail
          have textLater : skipBlanks
              (' ' :: (lineJoin (memberLine next :: rest.map memberLine) ++
                '\x7d' :: tail)) =
              lineJoin (memberLine next :: rest.map memberLine) ++
                '\x7d' :: tail := by
            rw [isNext, memberLine_append]
            rfl
          have more := inductionHypothesis (List.cons_ne_nil next rest)
            (fun other isOther => reads other (List.mem_cons_of_mem member isOther))
            _
            distinctLater enoughLater textLater
          have enoughFirst : (memberLine member).length ≤ fuel := by omega
          have first :=
            (readMembers?_member memberReads enoughFirst (.comma _) text absent).1 _
              rfl
          rw [first]
          refine more.trans ?_
          simp

/-- A value without parts is read if it is read with any fuel. -/
theorem reads_of_readValue?
    {document : Json}
    (same : document.sorted = document)
    (nonempty : document.line ≠ [])
    (read : ∀ fuel tail, Follows tail →
      readValue? (fuel + 1) (document.line ++ tail) = some (document, tail)) :
    Reads document := by
  intro fuel tail enough follows
  have positive : 0 < document.line.length := List.length_pos_iff.mpr nonempty
  obtain ⟨fuel, rfl⟩ := Nat.exists_eq_succ_of_ne_zero (show fuel ≠ 0 by omega)
  rw [same]
  exact read fuel tail follows

theorem reads_int (i : Int) : Reads (int i) := by
  have nonempty : (int i).line ≠ [] := by
    rw [line, intText, String.toList_ofList]
    split
    · exact List.cons_ne_nil _ _
    · exact digitChars_ne_nil _
  exact reads_of_readValue? rfl nonempty fun fuel tail follows =>
    readValue?_intText follows fuel i

theorem reads_float
    {x : Float}
    (read : readValue? 1 (lineFloat x) = some (.float x, [])) :
    Reads (float x) := by
  have nonempty : (float x).line ≠ [] := by
    obtain ⟨c, rest, isLine, -⟩ := starts_of_readValue? read
    rw [line, isLine]
    exact List.cons_ne_nil c rest
  exact reads_of_readValue? rfl nonempty fun fuel tail follows =>
    readValue?_append_of_float follows read fuel

theorem reads_string (s : String) : Reads (string s) := by
  intro fuel tail enough follows
  have long := length_flatMap_lineChar s.toList
  simp only [line, lineString, List.length_append, List.length_cons,
    List.length_nil] at enough
  obtain ⟨fuel, rfl⟩ := Nat.exists_eq_succ_of_ne_zero (show fuel ≠ 0 by omega)
  have read := readBody?_lineString (fuel + 1) s.toList (by omega) [] tail
  rw [line, lineString, List.append_assoc, List.cons_append, readValue?]
  simp only [List.singleton_append, read, Option.map_some, List.reverse_nil,
    List.nil_append, String.ofList_toList]
  rfl

/-- An array that begins with a value has items. -/
theorem readValue?_items
    {cs : List Char}
    (starts : Starts cs)
    (fuel : Nat) :
    readValue? (fuel + 1) ('[' :: cs) = readItems? fuel [] cs := by
  rw [readValue?, starts.skipBlanks]
  obtain ⟨c, rest, rfl, -, -, -, -, noBracket⟩ := starts
  split
  next same =>
    exact absurd (List.cons.inj same).1 noBracket
  next =>
    rfl

theorem reads_array
    {items : List Json}
    (reads : ∀ item ∈ items, Reads item) :
    Reads (array items) := by
  intro fuel tail enough follows
  rw [line_array] at enough ⊢
  rw [sorted_array]
  simp only [List.length_append, List.length_cons, List.length_nil] at enough
  obtain ⟨fuel, rfl⟩ := Nat.exists_eq_succ_of_ne_zero (show fuel ≠ 0 by omega)
  cases items with
  | nil =>
      rfl
  | cons item rest =>
      obtain ⟨later, isItem, itemFollows⟩ :=
        exists_follows item.line (rest.map line) (.inl rfl) tail
      have starts : Starts (lineJoin ((item :: rest).map line) ++ ']' :: tail) := by
        rw [List.map_cons, isItem]
        exact (reads item List.mem_cons_self).starts itemFollows
      have read :=
        readItems?_line (List.cons_ne_nil item rest) reads (show _ < fuel by omega)
        starts.skipBlanks []
      rw [List.append_assoc, List.cons_append, List.singleton_append,
        readValue?_items starts, read]
      rfl

theorem reads_object
    {members : List (String × Json)}
    (distinct : (members.map Prod.fst).Nodup)
    (reads : ∀ member ∈ members, Reads member.2) :
    Reads (object members) := by
  intro fuel tail enough follows
  rw [line_object] at enough ⊢
  rw [sorted_object]
  simp only [List.length_append, List.length_cons, List.length_nil] at enough
  obtain ⟨fuel, rfl⟩ := Nat.exists_eq_succ_of_ne_zero (show fuel ≠ 0 by omega)
  have orderedReads : ∀ member ∈ inOrder members, Reads member.2 :=
    fun member inOrdered =>
      reads member ((inOrder_perm members).mem_iff.mp inOrdered)
  have orderedDistinct : ((inOrder members).map Prod.fst).Nodup :=
    ((inOrder_perm members).map Prod.fst).nodup_iff.mpr distinct
  generalize inOrder members = ordered at *
  cases ordered with
  | nil =>
      rfl
  | cons member rest =>
      obtain ⟨later, isMember, -⟩ :=
        exists_follows (memberLine member) (rest.map memberLine) (.inr rfl) tail
      obtain ⟨more, isText⟩ :
          ∃ more, lineJoin ((member :: rest).map memberLine) ++ '\x7d' :: tail =
            '"' :: more :=
        ⟨_, isMember.trans (memberLine_append member later)⟩
      have noBlanks : skipBlanks ('"' :: more) =
          lineJoin ((member :: rest).map memberLine) ++ '\x7d' :: tail :=
          isText.symm
      have read :=
        readMembers?_line (List.cons_ne_nil member rest) orderedReads []
          orderedDistinct
        (show _ < fuel by omega) noBlanks
      rw [List.append_assoc, List.cons_append, List.singleton_append, isText]
      exact read

/-- A legible document is read from its line. -/
theorem Legible.reads
    {document : Json}
    (legible : Legible document) :
    Reads document := by
  induction legible with
  | null =>
      exact reads_of_readValue? rfl (by decide) fun fuel tail follows => rfl
  | bool b =>
      cases b with
      | false =>
          exact reads_of_readValue? rfl (by decide) fun fuel tail follows => rfl
      | true =>
          exact reads_of_readValue? rfl (by decide) fun fuel tail follows => rfl
  | int i =>
      exact reads_int i
  | float read =>
      exact reads_float read
  | string s =>
      exact reads_string s
  | array items inductionHypothesis =>
      exact reads_array inductionHypothesis
  | object distinct values inductionHypothesis =>
      exact reads_object distinct inductionHypothesis

/-- A legible document is the document of its line, sorted. -/
theorem parse?_line
    {document : Json}
    (legible : Legible document) :
    parse? document.line = some document.sorted := by
  have read := legible.reads (2 * document.line.length + 2) [] (by omega) .nil
  have starts := legible.reads.starts .nil
  rw [List.append_nil] at read starts
  rw [parse?, starts.skipBlanks, read]
  rfl

/-- The members of a sorted object are found by their keys as before. -/
theorem get?_sorted
    {members : List (String × Json)}
    (distinct : (members.map Prod.fst).Nodup)
    (key : String) :
    (object members).sorted.get? key = ((object members).get? key).map sorted := by
  have found := find?_perm (inOrder_perm members) distinct key
  rw [sorted_object, get?, get?, List.find?_map]
  show Option.map _ (Option.map _ ((inOrder members).find? fun m => m.1 == key)) = _
  rw [found, Option.map_map, Option.map_map]
  rfl

/-! ## Characters of a line -/

/-- A visible ASCII character or a blank. -/
def IsPlain (c : Char) : Prop :=
  32 ≤ c.toNat ∧ c.toNat < 127

instance (c : Char) : Decidable (IsPlain c) :=
  inferInstanceAs (Decidable (_ ∧ _))

/-- All characters of a text are plain. -/
def Plain (cs : List Char) : Prop :=
  ∀ c ∈ cs, IsPlain c

instance (cs : List Char) : Decidable (Plain cs) :=
  List.decidableBAll IsPlain cs

theorem Plain.cons
    {c : Char}
    {cs : List Char}
    (rest : Plain cs)
    (first : IsPlain c) :
    Plain (c :: cs) :=
  List.forall_mem_cons.mpr ⟨first, rest⟩

theorem Plain.append
    {cs ds : List Char}
    (left : Plain cs)
    (right : Plain ds) :
    Plain (cs ++ ds) :=
  List.forall_mem_append.mpr ⟨left, right⟩

theorem isPlain_of_isDigit
    {c : Char}
    (digit : c.isDigit = true) :
    IsPlain c := by
  have between := toNat_of_isDigit digit
  have code : c.toNat = c.val.toNat := rfl
  unfold IsPlain
  omega

theorem plain_escapeCode (code : Nat) : Plain (escapeCode code) := by
  have digit (n : Nat) : IsPlain (hexDigit (n % 16)) := by
    have each : ∀ digit < 16, IsPlain (hexDigit digit) := by decide
    exact each _ (Nat.mod_lt n (by decide))
  intro c member
  simp only [escapeCode, List.mem_cons, List.not_mem_nil, or_false] at member
  rcases member with rfl | rfl | rfl | rfl | rfl | rfl
  · decide
  · decide
  all_goals exact digit _

theorem plain_lineChar (c : Char) : Plain (lineChar c) := by
  unfold lineChar
  split
  next letter short =>
    unfold shortLetter? at short
    split at short
    case h_8 =>
      cases short
    all_goals
      cases short
      decide
  next =>
    dsimp only
    split
    next plain =>
      exact List.forall_mem_singleton.mpr plain
    next =>
      unfold escapeCodes
      split
      · exact plain_escapeCode _
      · exact (plain_escapeCode _).append (plain_escapeCode _)

theorem plain_lineString (s : String) : Plain (lineString s) := by
  have body : Plain (s.toList.flatMap lineChar) := fun c member => by
    obtain ⟨d, -, inChar⟩ := List.mem_flatMap.mp member
    exact plain_lineChar d c inChar
  exact (body.append (by decide)).cons (by decide)

theorem plain_intText (i : Int) : Plain (intText i).toList := by
  have digits : Plain (digitChars i.natAbs) := fun c member =>
    isPlain_of_isDigit (isDigit_of_mem_digitChars member)
  rw [intText, String.toList_ofList]
  split
  · exact digits.cons (by decide)
  · exact digits

theorem plain_exponentChars
    (width : Nat)
    (exponent : Int) :
    Plain (exponentChars width exponent) := by
  have digits : Plain (padLeft width (digitChars exponent.natAbs)) :=
    fun c member =>
      isPlain_of_isDigit
        (isDigit_of_mem_padLeft (fun _ => isDigit_of_mem_digitChars) member)
  refine digits.cons ?_
  split <;> decide

theorem plain_chars
    (layout : Layout)
    (d : Decimal) :
    Plain (d.chars layout) := by
  have digits : Plain (digitChars d.digits) := fun c member =>
    isPlain_of_isDigit (isDigit_of_mem_digitChars member)
  unfold Decimal.chars
  dsimp only
  generalize (if d.digits = 0 then (0 : Int) else _) = exponent
  split
  · intro c member
    rcases mem_of_mem_positional member with inDigits | rfl | rfl
    · exact digits c inDigits
    · decide
    · decide
  · refine Plain.append ?_ ((plain_exponentChars _ _).cons (by decide))
    generalize digitChars d.digits = text at digits
    match text, digits with
    | [], _ => exact nofun
    | [_], digits => exact digits
    | first :: second :: rest, digits =>
        obtain ⟨firstPlain, restPlain⟩ := List.forall_mem_cons.mp digits
        have pointed : Plain ('.' :: second :: rest) := .cons restPlain (by decide)
        exact pointed.cons firstPlain

theorem plain_lineFloat (x : Float) : Plain (lineFloat x) := by
  have text : Plain (floatText x).toList := by
    unfold floatText
    split
    · decide
    · split <;> decide
    · rw [String.toList_ofList]
      split
      · exact (plain_chars _ _).cons (by decide)
      · exact plain_chars _ _
  unfold lineFloat
  split
  · decide
  · split
    · split <;> decide
    · exact text

theorem plain_lineJoin
    {texts : List (List Char)}
    (each : ∀ text ∈ texts, Plain text) :
    Plain (lineJoin texts) := by
  induction texts with
  | nil =>
      exact nofun
  | cons text rest inductionHypothesis =>
      obtain ⟨first, later⟩ := List.forall_mem_cons.mp each
      cases rest with
      | nil =>
          rw [lineJoin, List.intercalate_singleton]
          exact first
      | cons next rest =>
          rw [lineJoin_cons_cons]
          exact first.append
            (((inductionHypothesis later).cons (by decide)).cons (by decide))

mutual

/-- No control character and no character beyond ASCII stands in a line. -/
theorem plain_line (document : Json) : Plain document.line := by
  cases document with
  | null =>
      decide
  | bool b =>
      cases b <;> decide
  | int i =>
      exact plain_intText i
  | float x =>
      exact plain_lineFloat x
  | string s =>
      exact plain_lineString s
  | array items =>
      rw [line_array]
      have each : ∀ text ∈ items.map line, Plain text :=
        List.forall_mem_map.mpr (plain_items items)
      exact ((plain_lineJoin each).cons (by decide)).append (by decide)
  | object members =>
      rw [line_object]
      have each : ∀ text ∈ (inOrder members).map memberLine, Plain text :=
        List.forall_mem_map.mpr fun member inOrdered =>
          ((plain_lineString member.1).append (by decide : Plain [':', ' '])).append
            (plain_members members member
              ((inOrder_perm members).mem_iff.mp inOrdered))
      exact ((plain_lineJoin each).cons (by decide)).append (by decide)

theorem plain_items (items : List Json) : ∀ item ∈ items, Plain item.line := by
  cases items with
  | nil =>
      exact nofun
  | cons item rest =>
      exact List.forall_mem_cons.mpr ⟨plain_line item, plain_items rest⟩

theorem plain_members (members : List (String × Json)) :
    ∀ member ∈ members, Plain member.2.line := by
  cases members with
  | nil =>
      exact nofun
  | cons member rest =>
      obtain ⟨key, value⟩ := member
      exact List.forall_mem_cons.mpr ⟨plain_line value, plain_members rest⟩

end

end GridScript.Json
