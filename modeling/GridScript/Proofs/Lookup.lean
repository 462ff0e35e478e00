import GridScript.Lookup
import GridScript.Proofs.Value.Coherence

namespace GridScript.Lookup

/-!
# What searches find

An approximate search goes through the values once and keeps the best candidate
so far. The candidates are all ordered against the key, and so against each
other, and the one that is kept is the first of the nearest ones seen.
-/

/-- The value is ordered against another one and lies on the side of
it, or level with it. -/
def Side.Reaches (side : Side) (v w : Value) : Prop :=
  ∃ o, v.order? w = some o ∧ side.admits o = true

namespace Side.Reaches

variable {side : Side} {v w u key : Value} {o : Ordering}

theorem below_iff :
    Side.below.Reaches v w ↔ ∃ o, v.order? w = some o ∧ o.isLE = true := by
  have admits (o : Ordering) : Side.below.admits o = o.isLE := by
    cases o <;> rfl
  simp only [Side.Reaches, admits]

/-- A value lies above another one if that lies below it. -/
theorem above_iff
    (left : v.IsDefined)
    (right : w.IsDefined) :
    Side.above.Reaches v w ↔ Side.below.Reaches w v := by
  have admits (o : Ordering) : Side.above.admits o = Side.below.admits o.swap := by
    cases o <;> rfl
  constructor
  · rintro ⟨o, ordered, admitted⟩
    exact ⟨_, Value.order?_swap left right ordered, admits o ▸ admitted⟩
  · rintro ⟨o, ordered, admitted⟩
    refine ⟨_, Value.order?_swap right left ordered, ?_⟩
    rw [admits, Ordering.swap_swap]
    exact admitted

theorem trans
    (first : v.IsDefined)
    (second : w.IsDefined)
    (third : u.IsDefined)
    (left : side.Reaches v w)
    (right : side.Reaches w u) :
    side.Reaches v u := by
  have below {v w u : Value}
      (first : v.IsDefined) (second : w.IsDefined) (third : u.IsDefined)
      (left : Side.below.Reaches v w) (right : Side.below.Reaches w u) :
      Side.below.Reaches v u := by
    obtain ⟨o, ordered, isLE⟩ := below_iff.mp left
    obtain ⟨p, ordered', isLE'⟩ := below_iff.mp right
    refine below_iff.mpr
      ⟨_, Value.order?_trans first second third ordered ordered' isLE isLE', ?_⟩
    cases o <;> cases p <;> trivial
  cases side with
  | below =>
      exact below first second third left right
  | above =>
      rw [above_iff first third]
      exact below third second first
        ((above_iff second third).mp right) ((above_iff first second).mp left)

/-- A value that is ordered against another one is level with itself. -/
theorem refl
    (defined : v.IsDefined)
    (reaches : side.Reaches v key) :
    side.Reaches v v := by
  obtain ⟨o, ordered, -⟩ := reaches
  obtain ⟨kind, isOrdered, ofKind, -⟩ := Value.exists_order_iff.mp ⟨o, ordered⟩
  obtain ⟨k, keyed⟩ := Value.exists_key defined isOrdered ofKind
  refine ⟨.eq, Value.order?_of_equal defined isOrdered ofKind ?_,
    by cases side <;> rfl⟩
  exact (Value.equal_of_key keyed keyed).mpr rfl

/-- Values that are ordered against one key are ordered against each other. -/
theorem exists_order
    (left : side.Reaches v key)
    (right : side.Reaches w key) :
    ∃ o, v.order? w = some o := by
  obtain ⟨o, ordered, -⟩ := left
  obtain ⟨p, ordered', -⟩ := right
  obtain ⟨kind, isOrdered, ofKind, keyKind⟩ :=
    Value.exists_order_iff.mp ⟨o, ordered⟩
  obtain ⟨kind', -, ofKind', keyKind'⟩ := Value.exists_order_iff.mp ⟨p, ordered'⟩
  obtain rfl : kind = kind' := Option.some.inj (keyKind.symm.trans keyKind')
  exact Value.exists_order_iff.mpr ⟨kind, isOrdered, ofKind, ofKind'⟩

/-- A value that does not improve on another one lies on the side of it. -/
theorem of_not_improves
    (ordered : v.order? w = some o)
    (worse : side.improves o = false) :
    side.Reaches v w := by
  refine ⟨o, ordered, ?_⟩
  cases side <;> cases o <;> trivial

/-- A value that improves on another one is strictly nearer. -/
theorem of_improves
    (left : v.IsDefined)
    (right : w.IsDefined)
    (ordered : v.order? w = some o)
    (nearer : side.improves o = true) :
    side.Reaches w v ∧ ¬side.Reaches v w := by
  constructor
  · refine ⟨_, Value.order?_swap left right ordered, ?_⟩
    cases side <;> cases o <;> trivial
  · rintro ⟨p, ordered', admitted⟩
    obtain rfl : o = p := Option.some.inj (ordered.symm.trans ordered')
    cases side <;> cases o <;> trivial

/-- Defined values that lie on one side of each other are equal. -/
theorem equal
    (left : v.IsDefined)
    (right : w.IsDefined)
    (there : side.Reaches v w)
    (back : side.Reaches w v) :
    v.equal w = true := by
  obtain ⟨o, ordered, admitted⟩ := there
  obtain ⟨p, ordered', admitted'⟩ := back
  obtain rfl : o.swap = p :=
    Option.some.inj ((Value.order?_swap left right ordered).symm.trans ordered')
  refine (Value.order?_eq_iff_equal left right ordered).mp ?_
  cases side <;> cases o <;> trivial

end Side.Reaches

variable {side : Side} {key v w : Value} {seen values : List Value} {i : Nat}

/-- A value on the side of the key such that all values on that side lie farther
from the key or level with it. -/
structure IsNearest
    (side : Side)
    (key : Value)
    (values : List Value)
    (v : Value) : Prop where
  reaches : side.Reaches v key
  nearest : ∀ w ∈ values, side.Reaches w key → side.Reaches w v

/-- The offset of the first value with a property. -/
def FirstAt (P : Value → Prop) (values : List Value) (i : Nat) : Prop :=
  ∃ v, values[i]? = some v ∧ P v ∧ ∀ w ∈ values.take i, ¬P w

theorem FirstAt.unique
    {P : Value → Prop}
    {j : Nat}
    (first : FirstAt P values i)
    (second : FirstAt P values j) :
    i = j := by
  -- The value at the lesser of two offsets lies before the greater one.
  have before {i j : Nat} (first : FirstAt P values i)
      (second : FirstAt P values j) : ¬i < j := by
    intro less
    obtain ⟨v, at_, holds, -⟩ := first
    obtain ⟨-, -, -, none⟩ := second
    refine none v (List.mem_iff_getElem?.mpr ⟨i, ?_⟩) holds
    rw [List.getElem?_take_of_lt less, at_]
  have notLess := before first second
  have notGreater := before second first
  omega

/-! ## One step of the search -/

/-- The best candidate so far is the first of the nearest values seen, and there
is none only if no value seen is a candidate. -/
def Holds
    (side : Side)
    (key : Value)
    (seen : List Value) : Option (Nat × Value) → Prop
  | none => ∀ v ∈ seen, ¬side.Reaches v key
  | some (i, v) =>
      seen[i]? = some v ∧ IsNearest side key seen v ∧
        ∀ w ∈ seen.take i, ¬IsNearest side key seen w

theorem isNearest_append_iff :
    IsNearest side key (seen ++ [w]) v ↔
      IsNearest side key seen v ∧ (side.Reaches w key → side.Reaches w v) := by
  constructor
  · intro isNearest
    exact ⟨⟨isNearest.reaches, fun u member =>
      isNearest.nearest u (List.mem_append_left _ member)⟩,
      isNearest.nearest w (List.mem_append_right _ List.mem_cons_self)⟩
  · rintro ⟨isNearest, last⟩
    refine ⟨isNearest.reaches, fun u member => ?_⟩
    rcases List.mem_append.mp member with member | member
    · exact isNearest.nearest u member
    · rw [List.mem_singleton.mp member]
      exact last

/-- A value that is kept stays the first of the nearest. -/
theorem Holds.keep
    (holds : Holds side key seen (some (i, v)))
    (last : side.Reaches w key → side.Reaches w v) :
    Holds side key (seen ++ [w]) (some (i, v)) := by
  obtain ⟨position, isNearest, first⟩ := holds
  have inside : i < seen.length := (List.getElem?_eq_some_iff.mp position).1
  refine ⟨?_, isNearest_append_iff.mpr ⟨isNearest, last⟩, ?_⟩
  · rw [List.getElem?_append_left inside, position]
  · rw [List.take_append_of_le_length (Nat.le_of_lt inside)]
    exact fun u member earlier => first u member (isNearest_append_iff.mp earlier).1

/-- A value that is no candidate changes nothing. -/
theorem Holds.skip
    {best : Option (Nat × Value)}
    (holds : Holds side key seen best)
    (skipped : ¬side.Reaches w key) :
    Holds side key (seen ++ [w]) best := by
  cases best with
  | none =>
      intro u member
      rcases List.mem_append.mp member with member | member
      · exact holds u member
      · rw [List.mem_singleton.mp member]
        exact skipped
  | some best =>
      exact Holds.keep holds fun reaches => absurd reaches skipped

/-- The last value is the first of the nearest if it is nearest and
none before it is. -/
theorem Holds.last
    (isNearest : IsNearest side key (seen ++ [w]) w)
    (first : ∀ u ∈ seen, ¬IsNearest side key (seen ++ [w]) u) :
    Holds side key (seen ++ [w]) (some (seen.length, w)) := by
  refine ⟨List.getElem?_concat_length, isNearest, ?_⟩
  rw [List.take_left]
  exact first

/-- One step compares two values at most, and those can be compared. -/
theorem Holds.better
    {best : Option (Nat × Value)}
    (defined : ∀ v ∈ seen, v.IsDefined)
    (lastDefined : w.IsDefined)
    (holds : Holds side key seen best) :
    ∃ next, better side key best (seen.length, w) = .ok next ∧
      Holds side key (seen ++ [w]) next := by
  unfold Lookup.better candidateOrder?
  cases ordered : w.order? key with
  | none =>
      refine ⟨best, rfl, holds.skip ?_⟩
      rintro ⟨o, ordered', -⟩
      cases ordered.symm.trans ordered'
  | some o =>
      by_cases admitted : side.admits o = true
      · have reaches : side.Reaches w key := ⟨o, ordered, admitted⟩
        simp only [admitted, Bool.not_true, Bool.false_eq_true, if_false]
        cases best with
        | none =>
            refine ⟨_, rfl,
              .last (isNearest_append_iff.mpr ⟨⟨reaches, ?_⟩, fun _ => ?_⟩) ?_⟩
            · exact fun u member candidate => absurd candidate (holds u member)
            · exact reaches.refl lastDefined
            · exact fun u member earlier => holds u member earlier.reaches
        | some best =>
            obtain ⟨i, v⟩ := best
            obtain ⟨position, isNearest, first⟩ := id holds
            have bestDefined : v.IsDefined :=
              defined v (List.mem_of_getElem? position)
            obtain ⟨p, compared⟩ := reaches.exists_order isNearest.reaches
            simp only [Value.compareValues, compared, Except.map]
            refine ⟨_, rfl, ?_⟩
            split
            next nearer =>
              obtain ⟨farther, notBack⟩ :=
                Side.Reaches.of_improves lastDefined bestDefined compared nearer
              refine
                .last (isNearest_append_iff.mpr ⟨⟨reaches, ?_⟩, fun _ => ?_⟩) ?_
              · intro u member candidate
                exact (isNearest.nearest u member candidate).trans
                  (defined u member) bestDefined lastDefined farther
              · exact reaches.refl lastDefined
              · intro u member earlier
                have there : side.Reaches w u :=
                  (isNearest_append_iff.mp earlier).2 reaches
                have back : side.Reaches u v :=
                  isNearest.nearest u member earlier.reaches
                exact notBack
                  (there.trans lastDefined (defined u member) bestDefined back)
            next worse =>
              exact holds.keep fun _ =>
                .of_not_improves compared (Bool.eq_false_iff.mpr worse)
      · simp only [admitted, Bool.not_false, if_true]
        refine ⟨best, rfl, holds.skip ?_⟩
        rintro ⟨p, ordered', admitted'⟩
        obtain rfl : o = p := Option.some.inj (ordered.symm.trans ordered')
        exact admitted admitted'

/-! ## Whole searches -/

theorem Holds.foldlM
    {best : Option (Nat × Value)}
    (rest : List Value)
    (defined : ∀ v ∈ seen ++ rest, v.IsDefined)
    (holds : Holds side key seen best) :
    ∃ last,
      (numbered seen.length rest).foldlM (Lookup.better side key) best = .ok last ∧
      Holds side key (seen ++ rest) last := by
  induction rest generalizing seen best with
  | nil =>
      refine ⟨best, rfl, ?_⟩
      rwa [List.append_nil]
  | cons w rest ih =>
      obtain ⟨next, stepped, holds⟩ := holds.better
        (fun v member => defined v (List.mem_append_left _ member))
        (defined w (List.mem_append_right _ List.mem_cons_self))
      rw [List.append_cons] at defined ⊢
      obtain ⟨last, ran, holds⟩ := ih defined holds
      refine ⟨last, ?_, holds⟩
      rw [numbered, List.foldlM_cons, stepped]
      rwa [List.length_append] at ran

/-- The search for the nearest value always comes to an end, with the first of
the nearest values or, if there is no candidate, with none. -/
theorem nearest_spec
    (side : Side)
    (key : Value)
    (defined : ∀ v ∈ values, v.IsDefined) :
    ∃ hit, nearest side key values = .ok hit ∧
      (∀ i, hit = some i ↔ FirstAt (IsNearest side key values) values i) ∧
      (hit = none ↔ ∀ v ∈ values, ¬side.Reaches v key) := by
  have start : Holds side key [] none :=
    fun v member => absurd member List.not_mem_nil
  obtain ⟨last, ran, holds⟩ := start.foldlM values defined
  refine ⟨last.map Prod.fst, ?_, ?_⟩
  · rw [nearest]
    exact congrArg (· >>= fun best => pure (best.map Prod.fst)) ran
  · cases last with
    | none =>
        refine ⟨fun i => ⟨nofun, ?_⟩, fun _ => holds, fun _ => rfl⟩
        rintro ⟨v, position, isNearest, -⟩
        exact absurd isNearest.reaches (holds v (List.mem_of_getElem? position))
    | some best =>
        obtain ⟨i, v⟩ := best
        have first : FirstAt (IsNearest side key values) values i := ⟨v, holds⟩
        refine ⟨fun j => ⟨?_, fun other => congrArg some (first.unique other)⟩,
          nofun, fun none => ?_⟩
        · rintro ⟨⟩
          exact first
        · exact absurd holds.2.1.reaches (none v (List.mem_of_getElem? holds.1))

/-- The search for an equal value finds the first one. -/
theorem firstEqual_spec (key : Value) (values : List Value) :
    (∀ i, firstEqual? key values = some i ↔
        FirstAt (fun v => v.equal key = true) values i) ∧
      (firstEqual? key values = none ↔ ∀ v ∈ values, ¬v.equal key = true) := by
  constructor
  · intro i
    rw [firstEqual?, List.findIdx?_eq_some_iff_getElem]
    constructor
    · rintro ⟨inside, same, first⟩
      refine ⟨values[i], List.getElem?_eq_getElem inside, same, fun w member => ?_⟩
      obtain ⟨j, bound, rfl⟩ := List.mem_take_iff_getElem.mp member
      exact first j (Nat.lt_of_lt_of_le bound (Nat.min_le_left ..))
    · rintro ⟨v, position, same, first⟩
      obtain ⟨inside, rfl⟩ := List.getElem?_eq_some_iff.mp position
      refine ⟨inside, same,
        fun j less => first _ (List.mem_take_iff_getElem.mpr ⟨j, ?_, rfl⟩)⟩
      exact Nat.lt_min.mpr ⟨less, Nat.lt_trans less inside⟩
  · simp only [firstEqual?, List.findIdx?_eq_none_iff, Bool.not_eq_true]

/-- What a function searches for. -/
inductive Search where
  | equal
  | nearest (side : Side)

namespace Search

/-- What a search does with a list of values. -/
def run
    (key : Value)
    (values : List Value) : Search → Except OperationError (Option Nat)
  | equal => .ok (firstEqual? key values)
  | nearest side => Lookup.nearest side key values

/-- A value that a search may find. -/
def Qualifies (key v : Value) : Search → Prop
  | equal => v.equal key = true
  | nearest side => side.Reaches v key

/-- A value that a search would find if it came first. -/
def Accepts (key : Value) (values : List Value) : Search → Value → Prop
  | equal, v => v.equal key = true
  | nearest side, v => IsNearest side key values v

/-- The search of a table function. -/
def ofExact (exact : Bool) : Search :=
  if exact then equal else nearest .below

/-- The search of a match type. -/
def ofMode? (mode : Int) : Option Search :=
  if mode = 0 then some equal
  else if mode = 1 then some (nearest .below)
  else if mode = -1 then some (nearest .above)
  else none

theorem ofMode?_cases
    {mode : Int}
    {search : Search}
    (isMode : ofMode? mode = some search) :
    (mode = 0 ∧ search = equal) ∨
      (mode = 1 ∧ search = nearest .below) ∨
      (mode = -1 ∧ search = nearest .above) := by
  unfold ofMode? at isMode
  split at isMode
  next exact => exact .inl ⟨exact, (Option.some.inj isMode).symm⟩
  next =>
    split at isMode
    next below => exact .inr (.inl ⟨below, (Option.some.inj isMode).symm⟩)
    next =>
      split at isMode
      next above => exact .inr (.inr ⟨above, (Option.some.inj isMode).symm⟩)
      next => cases isMode

end Search

/-- A search comes to an end with the first value that it accepts, and with none
exactly if no value qualifies. -/
theorem run_spec
    (search : Search)
    (key : Value)
    (defined : ∀ v ∈ values, v.IsDefined) :
    ∃ hit, search.run key values = .ok hit ∧
      (∀ i, hit = some i ↔ FirstAt (search.Accepts key values) values i) ∧
      (hit = none ↔ ∀ v ∈ values, ¬search.Qualifies key v) := by
  cases search with
  | equal => exact ⟨_, rfl, firstEqual_spec key values⟩
  | nearest side => exact nearest_spec side key defined

/-- If a value is equal to an ordered key, the nearest values are the equal ones. -/
theorem isNearest_iff_equal
    {kind : Value.Kind}
    (keyDefined : key.IsDefined)
    (defined : ∀ v ∈ values, v.IsDefined)
    (ordered : kind ∈ Value.orderedKinds)
    (ofKind : key.kind? = some kind)
    (found : w ∈ values)
    (same : w.equal key = true)
    (member : v ∈ values) :
    IsNearest side key values v ↔ v.equal key = true := by
  have level {v w : Value} (level : v.order? w = some .eq) : side.Reaches v w :=
    ⟨.eq, level, by cases side <;> rfl⟩
  have toKey {v : Value} (same : v.equal key = true) : v.order? key = some .eq :=
    Value.order?_of_equal keyDefined ordered ofKind same
  constructor
  · intro isNearest
    have there : side.Reaches key w :=
      level (Value.order?_swap (defined w found) keyDefined (toKey same))
    have back : side.Reaches key v :=
      there.trans keyDefined (defined w found) (defined v member)
        (isNearest.nearest w found (level (toKey same)))
    exact isNearest.reaches.equal (defined v member) keyDefined back
  · intro same
    refine ⟨level (toKey same), fun u candidate reaches => ?_⟩
    exact reaches.trans (defined u candidate) keyDefined (defined v member)
      (level (Value.order?_swap (defined v member) keyDefined (toKey same)))

theorem FirstAt.congr
    {P Q : Value → Prop}
    (same : ∀ v ∈ values, P v ↔ Q v) :
    FirstAt P values i ↔ FirstAt Q values i := by
  have one {P Q : Value → Prop} (same : ∀ v ∈ values, P v ↔ Q v)
      (first : FirstAt P values i) :
      FirstAt Q values i := by
    obtain ⟨v, position, holds, before⟩ := first
    refine ⟨v, position, (same v (List.mem_of_getElem? position)).mp holds,
      fun w member => ?_⟩
    exact mt (same w (List.mem_of_mem_take member)).mpr (before w member)
  exact ⟨one same, one fun v member => (same v member).symm⟩

/-- An exact and an approximate search find the same for an ordered key to
which a value is equal. -/
theorem nearest_eq_firstEqual
    {kind : Value.Kind}
    (side : Side)
    (keyDefined : key.IsDefined)
    (defined : ∀ v ∈ values, v.IsDefined)
    (ordered : kind ∈ Value.orderedKinds)
    (ofKind : key.kind? = some kind)
    (found : w ∈ values)
    (same : w.equal key = true) :
    nearest side key values = .ok (firstEqual? key values) := by
  obtain ⟨hit, ran, selected, -⟩ := nearest_spec side key defined
  obtain ⟨selectedEqual, none⟩ := firstEqual_spec key values
  rw [ran]
  refine congrArg Except.ok ?_
  cases first : firstEqual? key values with
  | none => exact absurd same (none.mp first w found)
  | some i =>
      refine (selected i).mpr
        ((FirstAt.congr fun v member => ?_).mpr ((selectedEqual i).mp first))
      exact isNearest_iff_equal keyDefined defined ordered ofKind found same member

/-! ## Lookup functions -/

/-- A function answers with what belongs to the first value that its search
accepts, and reports that the key was not found exactly if no value qualifies. -/
def Answers
    (search : Search)
    (key : Value)
    (values : List Value)
    (function : String)
    (answer : Nat → Value)
    (result : Except OperationError Value) : Prop :=
  (∀ i, FirstAt (search.Accepts key values) values i → result = .ok (answer i)) ∧
    (result = .error (.notFound function key.display) ↔
      ∀ v ∈ values, ¬search.Qualifies key v)

theorem answers
    {function : String}
    {answer : Nat → Value}
    {result : Except OperationError Value}
    (search : Search)
    (defined : ∀ v ∈ values, v.IsDefined)
    (runs : result = do
      let hit ← found function key (← search.run key values)
      return answer hit) :
    Answers search key values function answer result := by
  obtain ⟨hit, ran, selected, none⟩ := run_spec search key defined
  rw [ran] at runs
  subst runs
  cases hit with
  | none =>
      refine ⟨fun i first => ?_, fun _ => none.mp rfl, fun _ => rfl⟩
      cases (selected i).mpr first
  | some hit =>
      refine ⟨fun i first => ?_, nofun, fun missing => ?_⟩
      · obtain rfl : hit = i := Option.some.inj ((selected i).mpr first)
        rfl
      · cases none.mpr missing

theorem find_eq_run (exact : Bool) :
    find key exact values = (Search.ofExact exact).run key values := by
  cases exact <;> rfl

theorem offset_eq_ok
    {function what : String}
    {position : Int}
    {extent : Nat}
    (inside : 1 ≤ position ∧ position ≤ extent) :
    offset function what position extent = .ok (position - 1).toNat :=
  if_pos inside

theorem requireTable_eq_ok
    {function : String}
    {table : Value}
    {rows : List (List Value)}
    (isTable : table.table? = some rows) :
    requireTable function table = .ok rows := by
  rw [requireTable, isTable]

/-- An array of arrays has them as its rows. -/
theorem rows?_map_array (rows : List (List Value)) :
    Value.rows? (rows.map .array) = some rows := by
  induction rows with
  | nil =>
      rfl
  | cons row rest inductionHypothesis =>
      unfold Value.rows? at inductionHypothesis ⊢
      rw [List.map_cons, List.mapM_cons, inductionHypothesis]
      rfl

/-- What the searches in a list of values find, and what the lookup
functions make of it. -/
structure Finds (key : Value) (values : List Value) : Prop where
  /-- A search finds the first value that it accepts, and nothing only if
  no value qualifies. -/
  search : ∀ search : Search, ∃ hit, search.run key values = .ok hit ∧
    (∀ i, hit = some i ↔ FirstAt (search.Accepts key values) values i) ∧
    (hit = none ↔ ∀ v ∈ values, ¬search.Qualifies key v)
  /-- If a value is equal to an ordered key, all searches find the same. -/
  agree : ∀ kind ∈ Value.orderedKinds, key.kind? = some kind →
    ∀ v ∈ values, v.equal key = true →
      ∀ side, (Search.nearest side).run key values = Search.equal.run key values
  vlookup : ∀ table rows column exact position,
    table.table? = some rows → (rows.map fun row => element row 0) = values →
    requirePosition "vlookup" column "column" = .ok position →
    1 ≤ position ∧ position ≤ width rows →
    Answers (.ofExact exact.isTruthy) key values "vlookup"
      (fun i => element (rowAt rows i) (position - 1).toNat)
      (vlookup key table column exact)
  hlookup : ∀ table rows row exact position,
    table.table? = some rows → rowAt rows 0 = values →
    requirePosition "hlookup" row "row" = .ok position →
    1 ≤ position ∧ position ≤ rows.length →
    Answers (.ofExact exact.isTruthy) key values "hlookup"
      (fun i => element (rowAt rows (position - 1).toNat) i)
      (hlookup key table row exact)
  matchPosition : ∀ mode chosen search,
    (∀ v ∈ values, v.isArray = false) →
    requirePosition "match" mode "match_type" = .ok chosen →
    Search.ofMode? chosen = some search →
    Answers search key values "match" (fun i => .int (i + 1))
      (matchPosition key (.array values) mode)

/-- Searches find what they promise in all lists of values that are not
the undefined float. -/
theorem finds_of_defined
    (keyDefined : key.IsDefined)
    (defined : ∀ v ∈ values, v.IsDefined) :
    Finds key values where
  search search := run_spec search key defined
  agree kind ordered ofKind v member same side :=
    nearest_eq_firstEqual side keyDefined defined ordered ofKind member same
  vlookup := by
    intro table rows column exact position isTable firstColumn isPosition inside
    refine answers _ defined ?_
    rw [vlookup, requireTable_eq_ok isTable, isPosition]
    simp only [bind, Except.bind, offset_eq_ok inside, firstColumn, find_eq_run]
  hlookup := by
    intro table rows row exact position isTable firstRow isPosition inside
    refine answers _ defined ?_
    rw [hlookup, requireTable_eq_ok isTable, isPosition]
    simp only [bind, Except.bind, offset_eq_ok inside, firstRow, find_eq_run]
  matchPosition := by
    intro mode chosen search flat isPosition isMode
    have vector : requireVector "match" (.array values) "array" = .ok values :=
      if_neg (by simpa using flat)
    refine answers _ defined ?_
    rw [Lookup.matchPosition, vector, isPosition]
    rcases Search.ofMode?_cases isMode with
      ⟨rfl, rfl⟩ | ⟨rfl, rfl⟩ | ⟨rfl, rfl⟩ <;> rfl

/-- Values of several kinds in no order, with the number 2 in both forms. -/
def assortment : List Value :=
  [.string "b", .int 3, .float 1.5, .null, .float 2, .int 2]

/-- The first of the two equal numbers is found. -/
theorem finds_of_defined_assortment :
    (∀ v ∈ assortment, v.IsDefined) ∧
      (Search.nearest .below).run (.int 2) assortment = .ok (some 4) ∧
      Finds (.int 2) assortment := by
  have defined : ∀ v ∈ assortment, v.IsDefined := by
    intro v member
    simp only [assortment, List.mem_cons, List.not_mem_nil, or_false] at member
    rcases member with rfl | rfl | rfl | rfl | rfl | rfl
    · exact (Value.Definite.string "b").isDefined
    · exact (Value.Definite.int 3).isDefined
    · exact (Value.Definite.float (by decide)).isDefined
    · exact Value.Definite.null.isDefined
    · exact (Value.Definite.float (by decide)).isDefined
    · exact (Value.Definite.int 2).isDefined
  exact ⟨defined, rfl, finds_of_defined (Value.Definite.int 2).isDefined defined⟩

end GridScript.Lookup
