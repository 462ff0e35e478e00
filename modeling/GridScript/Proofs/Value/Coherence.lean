import GridScript.Proofs.Value.Order
import GridScript.Value.Arithmetic
import Mathlib.Algebra.Order.Field.Power
import Mathlib.Algebra.Order.Field.Rat
import Mathlib.Data.Rat.Cast.Order
import Mathlib.Order.Compare
import Mathlib.Order.WithBotTop

namespace GridScript

/-!
# Coherence of equality and order

Every value without the undefined float has a meaning, in which both forms of a
number are one. Equality is sameness of meaning, and the order of two values is
the order of the keys that they mean. So the equality of searches, the operator
`=` and the ordering operators never disagree.
-/

namespace Number

/-! ## Exact values as rationals -/

/-- The place of an exact value among the rationals and both infinities. -/
def Exact.rank? : Exact → Option (WithBot (WithTop ℚ))
  | .finite negative mantissa exponent =>
      some (((signed negative mantissa : ℚ) * 2 ^ exponent : ℚ) : WithTop ℚ)
  | .infinite true => some ⊥
  | .infinite false => some ((⊤ : WithTop ℚ) : WithBot (WithTop ℚ))
  | .undefined => none

theorem scaled_eq
    {base exponent : Int}
    (below : base ≤ exponent)
    (n : Int) :
    (n : ℚ) * 2 ^ exponent =
      ((n * 2 ^ (exponent - base).toNat : Int) : ℚ) * 2 ^ base := by
  have power : (2 : ℚ) ^ exponent = 2 ^ (exponent - base).toNat * 2 ^ base := by
    rw [← zpow_natCast, ← zpow_add₀ (by decide)]
    congr 1
    omega
  rw [power, ← mul_assoc]
  push_cast
  rfl

/-- Whole numbers times powers of two are compared as rationals. -/
theorem compareScaled_eq (l leftExponent r rightExponent : Int) :
    compareScaled l leftExponent r rightExponent =
      compare ((l : ℚ) * 2 ^ leftExponent) ((r : ℚ) * 2 ^ rightExponent) := by
  have grows :
      StrictMono fun n : Int => (n : ℚ) * 2 ^ min leftExponent rightExponent :=
    fun a b less =>
      mul_lt_mul_of_pos_right (Int.cast_lt.mpr less) (zpow_pos (by decide) _)
  rw [scaled_eq (min_le_left leftExponent rightExponent) l,
    scaled_eq (min_le_right leftExponent rightExponent) r, ← cmp_eq_compare]
  exact (cmp_eq_compare _ _).symm.trans (grows.cmp_map_eq _ _).symm

theorem compare_coe {α : Type} [LinearOrder α] (a b : α) :
    compare (a : WithBot (WithTop α)) (b : WithBot (WithTop α)) = compare a b := by
  have grows : StrictMono fun a : α => ((a : WithTop α) : WithBot (WithTop α)) :=
    fun a b less => WithBot.coe_lt_coe.mpr (WithTop.coe_lt_coe.mpr less)
  rw [← cmp_eq_compare, ← cmp_eq_compare]
  exact grows.cmp_map_eq a b

/-- Exact values are compared by their places. -/
theorem Exact.compare?_eq (a b : Exact) :
    a.compare? b = a.rank?.bind fun x => b.rank?.map fun y => compare x y := by
  cases a with
  | undefined => rfl
  | infinite left =>
      cases b with
      | undefined => cases left <;> rfl
      | infinite right =>
          cases left <;> cases right <;> rfl
      | finite negative mantissa exponent =>
          cases left
          · refine congrArg some (compare_gt_iff_gt.mpr ?_).symm
            exact WithBot.coe_lt_coe.mpr (WithTop.coe_lt_top _)
          · exact congrArg some (compare_lt_iff_lt.mpr (WithBot.bot_lt_coe _)).symm
  | finite negative mantissa exponent =>
      cases b with
      | undefined => rfl
      | infinite right =>
          cases right
          · refine congrArg some (compare_lt_iff_lt.mpr ?_).symm
            exact WithBot.coe_lt_coe.mpr (WithTop.coe_lt_top _)
          · exact congrArg some (compare_gt_iff_gt.mpr (WithBot.bot_lt_coe _)).symm
      | finite otherNegative otherMantissa otherExponent =>
          exact congrArg some ((compareScaled_eq ..).trans (compare_coe _ _).symm)

theorem Exact.exists_rank
    {a : Exact}
    (defined : a ≠ .undefined) :
    ∃ place, a.rank? = some place := by
  cases a with
  | undefined => exact absurd rfl defined
  | infinite negative => cases negative <;> exact ⟨_, rfl⟩
  | finite negative mantissa exponent => exact ⟨_, rfl⟩

/-- Two numbers are equal exactly if they have the same place. -/
theorem equal_iff_rank {m n : Number} :
    m.equal n = true ↔
      ∃ place, m.exact.rank? = some place ∧ n.exact.rank? = some place := by
  rw [equal, Exact.compare?_eq]
  cases m.exact.rank? <;> cases n.exact.rank? <;> simp
  exact eq_comm

end Number

/-! ## Keys -/

/-- What the order of a value depends on. -/
inductive Key where
  | number (place : WithBot (WithTop ℚ))
  | string (s : String)
  | bool (b : Bool)

namespace Key

/-- Order of two keys of one kind. -/
def compare? : Key → Key → Option Ordering
  | number l, number r => some (compare l r)
  | string l, string r => some (compare l r)
  | bool l, bool r => some (compare l r)
  | _, _ => none

variable {k l m : Key} {o p : Ordering}

theorem compare?_swap
    (compared : k.compare? l = some o) :
    l.compare? k = some o.swap := by
  cases k <;> cases l <;>
    simp only [compare?, Option.some.injEq, reduceCtorEq] at compared ⊢
  all_goals
    rw [← compared]
    exact Std.OrientedOrd.eq_swap

theorem compare?_eq_iff :
    k.compare? l = some .eq ↔ k = l := by
  cases k <;> cases l <;>
    simp only [compare?, Option.some.injEq, reduceCtorEq, number.injEq,
      string.injEq, bool.injEq]
  all_goals exact Std.LawfulEqOrd.compare_eq_iff_eq

/-- Two orders in one direction add up. -/
theorem compare_then {α : Type} [Ord α] [Std.TransOrd α] {a b c : α}
    (first : (compare a b).isLE = true)
    (second : (compare b c).isLE = true) :
    compare a c = (compare a b).then (compare b c) := by
  cases step : compare a b with
  | lt =>
      exact Std.TransCmp.lt_of_lt_of_isLE step second
  | eq =>
      exact Std.TransCmp.congr_left step
  | gt =>
      rw [step] at first
      cases first

theorem compare?_trans
    (first : k.compare? l = some o)
    (second : l.compare? m = some p)
    (firstBelow : o.isLE = true)
    (secondBelow : p.isLE = true) :
    k.compare? m = some (o.then p) := by
  cases k <;> cases l <;> cases m <;>
    simp only [compare?, Option.some.injEq, reduceCtorEq] at first second ⊢
  all_goals
    subst first second
    exact compare_then firstBelow secondBelow

end Key

namespace Value

/-- The key of a number, a text or a truth value; the undefined float has none. -/
def key? : Value → Option Key
  | bool b => some (.bool b)
  | int i => (Number.int i).exact.rank?.map .number
  | float x => (Number.float x).exact.rank?.map .number
  | string s => some (.string s)
  | _ => none

/-- The value is not the undefined float. -/
def IsDefined (v : Value) : Prop :=
  ∀ n, v.number? = some n → n.exact ≠ .undefined

variable {v w u : Value} {k l : Key} {o : Ordering}

/-- A value with a key is a number, a text or a truth value. -/
theorem key?_cases
    (keyed : v.key? = some k) :
    (∃ (n : Number) (place : _), v = n.value ∧ n.exact.rank? = some place ∧
        k = .number place) ∨
      (∃ s, v = .string s ∧ k = .string s) ∨
      (∃ b, v = .bool b ∧ k = .bool b) := by
  cases v with
  | int i =>
      simp only [key?, Option.map_eq_some_iff] at keyed
      obtain ⟨place, ranked, rfl⟩ := keyed
      exact .inl ⟨.int i, place, rfl, ranked, rfl⟩
  | float x =>
      simp only [key?, Option.map_eq_some_iff] at keyed
      obtain ⟨place, ranked, rfl⟩ := keyed
      exact .inl ⟨.float x, place, rfl, ranked, rfl⟩
  | string s =>
      exact .inr (.inl ⟨s, rfl, (Option.some.inj keyed).symm⟩)
  | bool b =>
      exact .inr (.inr ⟨b, rfl, (Option.some.inj keyed).symm⟩)
  | null | array _ | sheet _ | error _ => cases keyed

theorem order?_number (m n : Number) :
    m.value.order? n.value = some (m.order n) := by
  cases m <;> cases n
  case int.int i j =>
    rw [Number.order, Number.compare_int]
    rfl
  all_goals rfl

theorem equal_number (m n : Number) :
    m.value.equal n.value = m.equal n := by
  cases m <;> cases n
  case int.int i j =>
    have same : compare i j = .eq ↔ i = j := Std.LawfulEqOrd.compare_eq_iff_eq
    rw [Number.equal, Number.compare_int, Bool.eq_iff_iff]
    simp [Number.value, equal, same]
  all_goals rw [Number.value, Number.value, equal]

/-- Values with keys are ordered as their keys. -/
theorem order?_of_key
    (left : v.key? = some k)
    (right : w.key? = some l) :
    v.order? w = k.compare? l := by
  rcases key?_cases left with
      ⟨m, x, rfl, first, rfl⟩ | ⟨s, rfl, rfl⟩ | ⟨b, rfl, rfl⟩ <;>
    rcases key?_cases right with
      ⟨n, y, rfl, second, rfl⟩ | ⟨t, rfl, rfl⟩ | ⟨c, rfl, rfl⟩
  case inl.inl =>
    rw [order?_number, Number.order, Number.Exact.compare?_eq, first, second]
    rfl
  case inl.inr.inl => cases m <;> rfl
  case inl.inr.inr => cases m <;> rfl
  case inr.inl.inl => cases n <;> rfl
  case inr.inr.inl => cases n <;> rfl
  all_goals rfl

/-- Values with keys are equal if their keys are. -/
theorem equal_of_key
    (left : v.key? = some k)
    (right : w.key? = some l) :
    v.equal w = true ↔ k = l := by
  rcases key?_cases left with
      ⟨m, x, rfl, first, rfl⟩ | ⟨s, rfl, rfl⟩ | ⟨b, rfl, rfl⟩ <;>
    rcases key?_cases right with
      ⟨n, y, rfl, second, rfl⟩ | ⟨t, rfl, rfl⟩ | ⟨c, rfl, rfl⟩
  case inl.inl =>
    rw [equal_number, Number.equal, Number.Exact.compare?_eq, first, second]
    simp
  case inl.inr.inl => cases m <;> simp [Number.value, equal]
  case inl.inr.inr => cases m <;> simp [Number.value, equal]
  case inr.inl.inl => cases n <;> simp [Number.value, equal]
  case inr.inr.inl => cases n <;> simp [Number.value, equal]
  all_goals simp [equal]

/-- The kinds of values that are ordered. -/
def orderedKinds : List Kind :=
  [.number, .string, .bool]

/-- Two values are ordered exactly if they are of one of the ordered kinds. -/
theorem exists_order_iff :
    (∃ o, v.order? w = some o) ↔
      ∃ kind ∈ orderedKinds, v.kind? = some kind ∧ w.kind? = some kind := by
  cases v <;> cases w <;> simp [order?, kind?, orderedKinds]

theorem exists_key
    {kind : Kind}
    (defined : v.IsDefined)
    (ordered : kind ∈ orderedKinds)
    (ofKind : v.kind? = some kind) :
    ∃ k, v.key? = some k := by
  cases v with
  | int i =>
      obtain ⟨place, ranked⟩ := Number.Exact.exists_rank (defined _ rfl)
      exact ⟨.number place, congrArg (Option.map Key.number) ranked⟩
  | float x =>
      obtain ⟨place, ranked⟩ := Number.Exact.exists_rank (defined _ rfl)
      exact ⟨.number place, congrArg (Option.map Key.number) ranked⟩
  | string _ | bool _ =>
      exact ⟨_, rfl⟩
  | null | array _ | sheet _ | error _ =>
      cases ofKind <;> simp [orderedKinds] at ordered

/-- Defined values are ordered as their keys, and not at all if one has none. -/
theorem order?_eq_some
    (left : v.IsDefined)
    (right : w.IsDefined) :
    v.order? w = some o ↔
      ∃ k l, v.key? = some k ∧ w.key? = some l ∧ k.compare? l = some o := by
  constructor
  · intro ordered
    obtain ⟨kind, isOrdered, leftKind, rightKind⟩ :=
      exists_order_iff.mp ⟨o, ordered⟩
    obtain ⟨k, leftKey⟩ := exists_key left isOrdered leftKind
    obtain ⟨l, rightKey⟩ := exists_key right isOrdered rightKind
    exact ⟨k, l, leftKey, rightKey, order?_of_key leftKey rightKey ▸ ordered⟩
  · rintro ⟨k, l, leftKey, rightKey, compared⟩
    rw [order?_of_key leftKey rightKey, compared]

/-- The order of two defined values is reversed when they are swapped. -/
theorem order?_swap
    (left : v.IsDefined)
    (right : w.IsDefined)
    (ordered : v.order? w = some o) :
    w.order? v = some o.swap := by
  obtain ⟨k, l, leftKey, rightKey, compared⟩ :=
    (order?_eq_some left right).mp ordered
  exact (order?_eq_some right left).mpr
    ⟨l, k, rightKey, leftKey, Key.compare?_swap compared⟩

/-- Orders of defined values in one direction add up. -/
theorem order?_trans
    {p : Ordering}
    (first : v.IsDefined)
    (second : w.IsDefined)
    (third : u.IsDefined)
    (firstOrder : v.order? w = some o)
    (secondOrder : w.order? u = some p)
    (firstBelow : o.isLE = true)
    (secondBelow : p.isLE = true) :
    v.order? u = some (o.then p) := by
  obtain ⟨k, l, firstKey, secondKey, compared⟩ :=
    (order?_eq_some first second).mp firstOrder
  obtain ⟨l', m, secondKey', thirdKey, compared'⟩ :=
    (order?_eq_some second third).mp secondOrder
  obtain rfl : l = l' := Option.some.inj (secondKey.symm.trans secondKey')
  exact (order?_eq_some first third).mpr
    ⟨k, m, firstKey, thirdKey,
      Key.compare?_trans compared compared' firstBelow secondBelow⟩

/-- Ordered values are level exactly if they are equal. -/
theorem order?_eq_iff_equal
    (left : v.IsDefined)
    (right : w.IsDefined)
    (ordered : v.order? w = some o) :
    o = .eq ↔ v.equal w = true := by
  obtain ⟨k, l, leftKey, rightKey, compared⟩ :=
    (order?_eq_some left right).mp ordered
  rw [equal_of_key leftKey rightKey, ← Key.compare?_eq_iff, compared,
    Option.some.injEq]

end Value

/-! ## Meanings -/

/-- What a value means, with both forms of a number as one. -/
inductive Meaning where
  | null
  | key (k : Key)
  | array (items : List Meaning)
  | sheet (ref : SheetRef)

namespace Value

mutual

/-- The meaning of a value; the undefined float and an error cell have none. -/
def meaning? : Value → Option Meaning
  | null => some .null
  | array items => (meanings? items).map .array
  | sheet ref => some (.sheet ref)
  | v => v.key?.map .key

/-- The meanings of all values of a list. -/
def meanings? : List Value → Option (List Meaning)
  | [] => some []
  | v :: rest => do return (← v.meaning?) :: (← meanings? rest)

end

theorem equal_numbers_iff (m n : Number) :
    m.value.equal n.value = true ↔
      ∃ meaning, m.value.meaning? = some meaning ∧
        n.value.meaning? = some meaning := by
  have meaning (n : Number) :
      n.value.meaning? = n.exact.rank?.map fun place => .key (.number place) := by
    cases n <;> simp [Number.value, meaning?, key?, Function.comp_def]
  rw [equal_number, Number.equal_iff_rank, meaning, meaning]
  simp only [Option.map_eq_some_iff]
  constructor
  · rintro ⟨place, left, right⟩
    exact ⟨_, ⟨place, left, rfl⟩, place, right, rfl⟩
  · rintro ⟨_, ⟨place, left, rfl⟩, place', right, same⟩
    exact ⟨place, left, Key.number.inj (Meaning.key.inj same) ▸ right⟩

theorem meanings?_nil : meanings? [] = some [] :=
  rfl

theorem meanings?_cons
    {v : Value}
    {rest : List Value}
    {ms : List Meaning} :
    meanings? (v :: rest) = some ms ↔
      ∃ m others, v.meaning? = some m ∧ meanings? rest = some others ∧
        ms = m :: others := by
  rw [meanings?]
  cases v.meaning? <;> cases meanings? rest <;> simp [eq_comm]

variable {v w u : Value}

mutual

/-- Two values are equal exactly if they have the same meaning. -/
theorem equal_iff_meaning (v w : Value) :
    v.equal w = true ↔ ∃ m, v.meaning? = some m ∧ w.meaning? = some m := by
  cases v <;> cases w
  case int.int i j => exact equal_numbers_iff (.int i) (.int j)
  case int.float i y => exact equal_numbers_iff (.int i) (.float y)
  case float.int x j => exact equal_numbers_iff (.float x) (.int j)
  case float.float x y => exact equal_numbers_iff (.float x) (.float y)
  case array.array ls rs =>
    rw [equal, equalItems_iff_meanings ls rs]
    simp only [meaning?, Option.map_eq_some_iff]
    constructor
    · rintro ⟨ms, left, right⟩
      exact ⟨_, ⟨ms, left, rfl⟩, ms, right, rfl⟩
    · rintro ⟨_, ⟨ms, left, rfl⟩, ms', right, same⟩
      exact ⟨ms, left, (Meaning.array.inj same) ▸ right⟩
  case bool.bool | string.string | sheet.sheet => simpa [equal, meaning?, key?]
    using eq_comm
  all_goals simp [equal, meaning?, key?]

/-- Two lists are equal exactly if their items have the same meanings. -/
theorem equalItems_iff_meanings (ls rs : List Value) :
    equalItems ls rs = true ↔
      ∃ ms, meanings? ls = some ms ∧ meanings? rs = some ms := by
  cases ls with
  | nil =>
      cases rs with
      | nil => simp [equalItems, meanings?]
      | cons r rs => simp [equalItems, meanings?_cons, meanings?_nil]
  | cons l ls =>
      cases rs with
      | nil => simp [equalItems, meanings?_cons, meanings?_nil]
      | cons r rs =>
          rw [equalItems, Bool.and_eq_true, equal_iff_meaning l r,
            equalItems_iff_meanings ls rs]
          simp only [meanings?_cons]
          constructor
          · rintro ⟨⟨m, left, right⟩, ms, lefts, rights⟩
            exact ⟨_, ⟨m, ms, left, lefts, rfl⟩, m, ms, right, rights, rfl⟩
          · rintro ⟨_, ⟨m, ms, left, lefts, rfl⟩, m', ms', right, rights, same⟩
            obtain ⟨rfl, rfl⟩ := List.cons.inj same
            exact ⟨⟨m, left, right⟩, ms, lefts, rights⟩

end

theorem equal_symm
    (same : v.equal w = true) :
    w.equal v = true := by
  obtain ⟨m, left, right⟩ := (equal_iff_meaning v w).mp same
  exact (equal_iff_meaning w v).mpr ⟨m, right, left⟩

theorem equal_trans
    (first : v.equal w = true)
    (second : w.equal u = true) :
    v.equal u = true := by
  obtain ⟨m, left, middle⟩ := (equal_iff_meaning v w).mp first
  obtain ⟨m', middle', right⟩ := (equal_iff_meaning w u).mp second
  obtain rfl : m = m' := Option.some.inj (middle.symm.trans middle')
  exact (equal_iff_meaning v u).mpr ⟨m, left, right⟩

theorem meaning?_eq_key_iff
    {k : Key} :
    v.meaning? = some (.key k) ↔ v.key? = some k := by
  cases v <;> simp [meaning?, key?]

/-- A value that is equal to an ordered one is level with it. -/
theorem order?_of_equal
    {kind : Kind}
    (defined : w.IsDefined)
    (ordered : kind ∈ orderedKinds)
    (ofKind : w.kind? = some kind)
    (same : v.equal w = true) :
    v.order? w = some .eq := by
  obtain ⟨k, right⟩ := exists_key defined ordered ofKind
  obtain ⟨m, leftMeaning, rightMeaning⟩ := (equal_iff_meaning v w).mp same
  obtain rfl : m = .key k :=
    Option.some.inj (rightMeaning.symm.trans (meaning?_eq_key_iff.mpr right))
  have left : v.key? = some k := meaning?_eq_key_iff.mp leftMeaning
  rw [order?_of_key left right, Key.compare?_eq_iff]

/-! ## Definite values -/

/-- The values of scripts without the undefined float in them. -/
inductive Definite : Value → Prop where
  | null : Definite .null
  | bool (b : Bool) : Definite (.bool b)
  | int (i : Int) : Definite (.int i)
  | float
      {x : Float}
      (defined : Number.Exact.ofFloat x ≠ .undefined) :
      Definite (.float x)
  | string (s : String) : Definite (.string s)
  | array
      {items : List Value}
      (each : ∀ v ∈ items, Definite v) :
      Definite (.array items)
  | sheet (ref : SheetRef) : Definite (.sheet ref)

theorem Definite.isDefined
    (definite : v.Definite) :
    v.IsDefined := by
  intro n number
  cases definite with
  | int i =>
      cases number
      exact Number.Exact.noConfusion
  | float defined =>
      cases number
      exact defined
  | null | bool _ | string _ | array _ | sheet _ =>
      cases number

theorem exists_meanings
    {items : List Value}
    (each : ∀ v ∈ items, ∃ m, v.meaning? = some m) :
    ∃ ms, meanings? items = some ms := by
  induction items with
  | nil => exact ⟨[], rfl⟩
  | cons v rest ih =>
      obtain ⟨m, first⟩ := each v List.mem_cons_self
      obtain ⟨ms, others⟩ :=
        ih fun w member => each w (List.mem_cons_of_mem v member)
      exact ⟨m :: ms, meanings?_cons.mpr ⟨m, ms, first, others, rfl⟩⟩

theorem Definite.exists_meaning
    (definite : v.Definite) :
    ∃ m, v.meaning? = some m := by
  induction definite with
  | null | bool _ | string _ | sheet _ => exact ⟨_, rfl⟩
  | int i => exact ⟨_, rfl⟩
  | float defined =>
      obtain ⟨place, ranked⟩ := Number.Exact.exists_rank defined
      exact ⟨.key (.number place), by simp [meaning?, key?, Number.exact, ranked]⟩
  | array each ih =>
      obtain ⟨ms, all⟩ := exists_meanings ih
      exact ⟨.array ms, congrArg (Option.map Meaning.array) all⟩

theorem Definite.equal_refl
    (definite : v.Definite) :
    v.equal v = true := by
  obtain ⟨m, meaning⟩ := definite.exists_meaning
  exact (equal_iff_meaning v v).mpr ⟨m, meaning, meaning⟩

/-- A definite value has a kind and a type. -/
theorem Definite.exists_kind
    (definite : v.Definite) :
    ∃ kind type, v.kind? = some kind ∧ v.typeName? = some type ∧
      (kind = .null ↔ v = .null) := by
  cases definite <;> exact ⟨_, _, rfl, rfl, by simp⟩

/-- The operator `=` is decided by the kinds of its operands. -/
theorem strictEqual_eq
    {left right : Kind}
    (leftKind : v.kind? = some left)
    (rightKind : w.kind? = some right) :
    v.strictEqual w =
      if left = .null ∨ right = .null ∨ left = right then .ok (v.equal w)
      else .error (kindError2 .compare v w) := by
  cases v <;> cases leftKind <;> cases w <;> cases rightKind <;>
    simp [strictEqual, kind?, equal]

/-- The operands are refused for their types. -/
def Refused
    (make : TypeName → TypeName → KindError)
    (v w : Value)
    (result : Except OperationError α) : Prop :=
  ∃ left right, v.typeName? = some left ∧ w.typeName? = some right ∧
    result = .error (.kind (make left right))

theorem Definite.kindError2_eq
    (left : v.Definite)
    (right : w.Definite)
    (make : TypeName → TypeName → KindError)
    {result : Except OperationError α}
    (failed : result = .error (kindError2 make v w)) :
    Refused make v w result := by
  obtain ⟨-, leftType, -, leftTyped, -⟩ := left.exists_kind
  obtain ⟨-, rightType, -, rightTyped, -⟩ := right.exists_kind
  refine ⟨leftType, rightType, leftTyped, rightTyped, ?_⟩
  rw [failed, kindError2, leftTyped, rightTyped]

theorem compareValues_eq_ok
    {o : Ordering} :
    v.compareValues w = .ok o ↔ v.order? w = some o := by
  rw [compareValues]
  cases v.order? w <;> simp

/-- Operands that are not null and of different kinds are refused by the
operator `=`, and others are compared by equality. -/
theorem Definite.strictEqual_spec
    (left : v.Definite)
    (right : w.Definite) :
    (v ≠ .null ∧ w ≠ .null ∧ v.kind? ≠ w.kind? ∧
        Refused .compare v w (v.strictEqual w)) ∨
      ((v = .null ∨ w = .null ∨ v.kind? = w.kind?) ∧
        v.strictEqual w = .ok (v.equal w)) := by
  obtain ⟨leftKind, -, leftOf, -, leftNull⟩ := left.exists_kind
  obtain ⟨rightKind, -, rightOf, -, rightNull⟩ := right.exists_kind
  have decided := strictEqual_eq leftOf rightOf
  have kinds : leftKind = rightKind ↔ v.kind? = w.kind? := by
    rw [leftOf, rightOf, Option.some_inj]
  split at decided
  next comparable =>
    rw [leftNull, rightNull, kinds] at comparable
    exact .inr ⟨comparable, decided⟩
  next refused =>
    rw [leftNull, rightNull, kinds, not_or, not_or] at refused
    exact .inl ⟨refused.1, refused.2.1, refused.2.2,
      left.kindError2_eq right _ decided⟩

/-- Exactly one of the operators `<`, `=` and `>` holds of two operands, and
`<=` holds if one of the first two does. -/
def Trichotomous (v w : Value) : Prop :=
  ∃ less same greater : Bool,
    applyBinary .less v w = .ok (.bool less) ∧
      applyBinary .equal v w = .ok (.bool same) ∧
      applyBinary .greater v w = .ok (.bool greater) ∧
      applyBinary .lessEqual v w = .ok (.bool (less || same)) ∧
      [less, same, greater].count true = 1

theorem orderingValues_ok
    {o : Ordering}
    (ordered : v.order? w = some o)
    (holds : Ordering → Bool) :
    orderingValues holds v w = .ok (.bool (holds o)) := by
  rw [orderingValues, compareValues_eq_ok.mpr ordered]
  rfl

theorem exists_order_of_less
    {below : Value}
    (compared : applyBinary .less v w = .ok below) :
    ∃ o, v.order? w = some o := by
  cases ordered : v.order? w with
  | some o =>
      exact ⟨o, rfl⟩
  | none =>
      simp [applyBinary, orderingValues, compareValues, ordered, liftError, fail,
        bind, Except.bind] at compared

theorem Definite.trichotomous
    {o : Ordering}
    (left : v.Definite)
    (right : w.Definite)
    (ordered : v.order? w = some o) :
    Trichotomous v w := by
  obtain ⟨kind, -, leftKind, rightKind⟩ := exists_order_iff.mp ⟨o, ordered⟩
  have level := order?_eq_iff_equal left.isDefined right.isDefined ordered
  have same : v.strictEqual w = .ok (o == .eq) := by
    rcases left.strictEqual_spec right with ⟨-, -, differ, -⟩ | ⟨-, decided⟩
    · exact absurd (leftKind.trans rightKind.symm) differ
    · rw [decided, Bool.eq_iff_iff.mpr (level.symm.trans (beq_iff_eq ..).symm)]
  have equal : applyBinary .equal v w = .ok (.bool (o == .eq)) := by
    rw [applyBinary, same]
    rfl
  refine ⟨o == .lt, o == .eq, o == .gt, orderingValues_ok ordered _, equal,
    orderingValues_ok ordered _, ?_, ?_⟩
  · rw [applyBinary, orderingValues_ok ordered]
    cases o <;> rfl
  · cases o <;> rfl

/-- What equality, the operator `=` and the order of values promise each other. -/
structure Coherent (v w u : Value) : Prop where
  equal_refl : v.equal v = true
  equal_symm : v.equal w = true → w.equal v = true
  equal_trans : v.equal w = true → w.equal u = true → v.equal u = true
  /-- What the operator `=` answers is equality. -/
  strictEqual_ok : ∀ same, v.strictEqual w = .ok same → same = v.equal w
  /-- The operator `=` refuses different kinds other than null. -/
  strictEqual_refused :
    Refused .compare v w (v.strictEqual w) ↔
      v ≠ .null ∧ w ≠ .null ∧ v.kind? ≠ w.kind?
  /-- The operator `=` fails in no other way. -/
  strictEqual_error :
    ∀ error, v.strictEqual w = .error error → Refused .compare v w (v.strictEqual w)
  /-- Two numbers, two texts and two truth values are ordered,
  and nothing else is. -/
  compareValues_ok :
    (∃ o, v.compareValues w = .ok o) ↔
      ∃ kind ∈ orderedKinds, v.kind? = some kind ∧ w.kind? = some kind
  compareValues_swap :
    ∀ o, v.compareValues w = .ok o → w.compareValues v = .ok o.swap
  /-- Orders in one direction add up. -/
  compareValues_trans :
    ∀ o p, v.compareValues w = .ok o → w.compareValues u = .ok p →
    o.isLE = true → p.isLE = true → v.compareValues u = .ok (o.then p)
  compareValues_eq : ∀ o, v.compareValues w = .ok o → (o = .eq ↔ v.equal w = true)
  /-- Operands that `<` accepts are less, equal or greater. -/
  trichotomous : ∀ below, applyBinary .less v w = .ok below → Trichotomous v w

/-- Equality and order are coherent on all values without the undefined float. -/
theorem coherent_of_definite
    (first : v.Definite)
    (second : w.Definite)
    (third : u.Definite) :
    Coherent v w u where
  equal_refl := first.equal_refl
  equal_symm := Value.equal_symm
  equal_trans := Value.equal_trans
  strictEqual_ok := by
    intro same answered
    rcases first.strictEqual_spec second with
      ⟨-, -, -, _, _, -, -, refused⟩ | ⟨-, decided⟩
    · cases answered.symm.trans refused
    · exact Except.ok.inj (answered.symm.trans decided)
  strictEqual_refused := by
    rcases first.strictEqual_spec second with
      ⟨left, right, differ, refused⟩ | ⟨comparable, decided⟩
    · exact ⟨fun _ => ⟨left, right, differ⟩, fun _ => refused⟩
    · refine ⟨fun ⟨_, _, _, _, refused⟩ => ?_, fun ⟨left, right, differ⟩ => ?_⟩
      · cases decided.symm.trans refused
      · rcases comparable with null | null | same
        · exact absurd null left
        · exact absurd null right
        · exact absurd same differ
  strictEqual_error := by
    intro error failed
    rcases first.strictEqual_spec second with ⟨-, -, -, refused⟩ | ⟨-, decided⟩
    · exact refused
    · cases failed.symm.trans decided
  compareValues_ok := by
    simp only [compareValues_eq_ok]
    exact exists_order_iff
  compareValues_swap := by
    intro o ordered
    rw [compareValues_eq_ok] at ordered ⊢
    exact order?_swap first.isDefined second.isDefined ordered
  compareValues_trans := by
    intro o p firstOrder secondOrder
    rw [compareValues_eq_ok] at firstOrder secondOrder ⊢
    exact order?_trans first.isDefined second.isDefined third.isDefined firstOrder
      secondOrder
  compareValues_eq := by
    intro o ordered
    exact order?_eq_iff_equal first.isDefined second.isDefined
      (compareValues_eq_ok.mp ordered)
  trichotomous := by
    intro below compared
    obtain ⟨o, ordered⟩ := exists_order_of_less compared
    exact first.trichotomous second ordered

/-- The numbers 2 and 0.5 in one array, the first as an integer. -/
def halfOfTwo : Value :=
  .array [.int 2, .array [.float 0.5, .null]]

/-- The numbers 2 and 0.5 in one array, both as floats. -/
def halfOfTwoFloats : Value :=
  .array [.float 2, .array [.float 0.5, .null]]

theorem Definite.pair
    (first : v.Definite)
    (second : w.Definite) :
    Definite (.array [v, w]) :=
  .array (List.forall_mem_cons.mpr ⟨first, List.forall_mem_singleton.mpr second⟩)

/-- Arrays that hold the same numbers in both forms are equal, and
coherent with their parts. -/
theorem coherent_of_definite_halves :
    halfOfTwo.Definite ∧ halfOfTwoFloats.Definite ∧
      halfOfTwo.equal halfOfTwoFloats = true ∧
      Coherent halfOfTwo halfOfTwoFloats halfOfTwo := by
  have half : Definite (.array [.float 0.5, .null]) :=
    .pair (.float (by decide)) .null
  have ints : halfOfTwo.Definite := .pair (.int 2) half
  have floats : halfOfTwoFloats.Definite := .pair (.float (by decide)) half
  exact ⟨ints, floats, by decide, coherent_of_definite ints floats ints⟩

end Value

end GridScript
