import GridScript.Log.Redaction

namespace GridScript.Log

/-!
# What a redaction depends on and what it keeps

Two contexts that differ in secrets only should look the same once they are
redacted. They do, except where a secret stands in an array that is itself
an item of an array: redaction passes such an inner array on as it is. So
the redactions of contexts that differ in secrets only are equal exactly if
the inner arrays are.
-/

mutual

/-- Two documents agree but for values under sensitive keys, at any depth. -/
inductive AgreeOpenly : Json → Json → Prop where
  | same (document : Json) : AgreeOpenly document document
  | array
      {left right : List Json}
      (items : AgreeItems left right) :
      AgreeOpenly (.array left) (.array right)
  | object
      {left right : List (String × Json)}
      (members : AgreeMembers left right) :
      AgreeOpenly (.object left) (.object right)

/-- Two lists of items agree one by one. -/
inductive AgreeItems : List Json → List Json → Prop where
  | nil : AgreeItems [] []
  | cons
      {left right : Json}
      {lefts rights : List Json}
      (first : AgreeOpenly left right)
      (rest : AgreeItems lefts rights) :
      AgreeItems (left :: lefts) (right :: rights)

/-- Two lists of members have the same keys, and agree in the values
that are no secrets. -/
inductive AgreeMembers : List (String × Json) → List (String × Json) → Prop where
  | nil : AgreeMembers [] []
  | secret
      {key : String}
      (left right : Json)
      {lefts rights : List (String × Json)}
      (sensitive : isSensitive key = true)
      (rest : AgreeMembers lefts rights) :
      AgreeMembers ((key, left) :: lefts) ((key, right) :: rights)
  | shown
      (key : String)
      {left right : Json}
      {lefts rights : List (String × Json)}
      (value : AgreeOpenly left right)
      (rest : AgreeMembers lefts rights) :
      AgreeMembers ((key, left) :: lefts) ((key, right) :: rights)

end

mutual

/-- The arrays that are items of arrays, outside of secrets and of
each other, in order. -/
def innerArrays : Json → List (List Json)
  | .object members => innerArraysOfMembers members
  | .array items => innerArraysOfItems items
  | _ => []

/-- The inner arrays of the items of an array. -/
def innerArraysOfItems : List Json → List (List Json)
  | [] => []
  | .array inner :: rest => inner :: innerArraysOfItems rest
  | item :: rest => innerArrays item ++ innerArraysOfItems rest

/-- The inner arrays of the members of an object. -/
def innerArraysOfMembers : List (String × Json) → List (List Json)
  | [] => []
  | (key, value) :: rest =>
      (if isSensitive key then [] else innerArrays value) ++
        innerArraysOfMembers rest

end

/-- The document is no array. -/
def IsNoArray (item : Json) : Prop :=
  ∀ inner, item ≠ .array inner

theorem innerArraysOfItems_cons
    {item : Json}
    (noArray : IsNoArray item)
    (rest : List Json) :
    innerArraysOfItems (item :: rest) =
      innerArrays item ++ innerArraysOfItems rest := by
  cases item with
  | array inner =>
      exact (noArray inner rfl).elim
  | _ =>
      rfl

/-- An item that is no array is redacted as a value. -/
theorem redactItems_cons
    {item : Json}
    (noArray : IsNoArray item)
    (rest : List Json) :
    redactItems (item :: rest) = redactValue item :: redactItems rest := by
  cases item with
  | array inner =>
      exact (noArray inner rfl).elim
  | _ =>
      rfl

/-- Redaction makes no arrays of other values. -/
theorem IsNoArray.redactValue
    {item : Json}
    (noArray : IsNoArray item) :
    IsNoArray (redactValue item) := by
  cases item with
  | array inner =>
      exact (noArray inner rfl).elim
  | _ =>
      intro inner same
      cases same

mutual

/-- Redaction passes all inner arrays on. -/
theorem innerArrays_redactValue (value : Json) :
    innerArrays (redactValue value) = innerArrays value := by
  cases value with
  | object members =>
      exact innerArrays_redactMembers members
  | array items =>
      exact innerArrays_redactItems items
  | _ =>
      rfl

theorem innerArrays_redactItems (items : List Json) :
    innerArraysOfItems (redactItems items) = innerArraysOfItems items := by
  cases items with
  | nil =>
      rfl
  | cons item rest =>
      have restSame := innerArrays_redactItems rest
      by_cases isArray : ∃ inner, item = .array inner
      · obtain ⟨inner, rfl⟩ := isArray
        exact congrArg (inner :: ·) restSame
      · have noArray : IsNoArray item := fun inner same => isArray ⟨inner, same⟩
        rw [redactItems_cons noArray, innerArraysOfItems_cons noArray.redactValue,
          innerArraysOfItems_cons noArray, innerArrays_redactValue item, restSame]

theorem innerArrays_redactMembers (members : List (String × Json)) :
    innerArraysOfMembers (redactMembers members) =
      innerArraysOfMembers members := by
  cases members with
  | nil =>
      rfl
  | cons member rest =>
      obtain ⟨key, value⟩ := member
      have valueSame := innerArrays_redactValue value
      have restSame := innerArrays_redactMembers rest
      simp only [redactMembers, innerArraysOfMembers, restSame]
      split
      · rfl
      · rw [valueSame]

end

/-- A document that agrees with one that is no array is none. -/
theorem AgreeOpenly.isNoArray
    {left right : Json}
    (agree : AgreeOpenly left right)
    (noArray : IsNoArray left) :
    IsNoArray right := by
  cases agree with
  | same =>
      exact noArray
  | array items =>
      exact (noArray _ rfl).elim
  | object members =>
      intro inner same
      cases same

/-- Of two documents that agree both are arrays or none is. -/
theorem AgreeOpenly.arrays_or_not
    {left right : Json}
    (agree : AgreeOpenly left right) :
    (∃ lefts rights, left = .array lefts ∧ right = .array rights) ∨
      IsNoArray left ∧ IsNoArray right := by
  by_cases isArray : ∃ inner, left = .array inner
  · left
    obtain ⟨inner, rfl⟩ := isArray
    cases agree with
    | same =>
        exact ⟨inner, inner, rfl, rfl⟩
    | array items =>
        exact ⟨inner, _, rfl, rfl⟩
  · right
    have noArray : IsNoArray left := fun inner same => isArray ⟨inner, same⟩
    exact ⟨noArray, agree.isNoArray noArray⟩

mutual

/-- Documents that agree have equally many inner arrays. -/
theorem AgreeOpenly.length_innerArrays
    {left right : Json}
    (agree : AgreeOpenly left right) :
    (innerArrays left).length = (innerArrays right).length := by
  cases agree with
  | same =>
      rfl
  | array items =>
      exact items.length_innerArrays
  | object members =>
      exact members.length_innerArrays

theorem AgreeItems.length_innerArrays
    {lefts rights : List Json}
    (agree : AgreeItems lefts rights) :
    (innerArraysOfItems lefts).length = (innerArraysOfItems rights).length := by
  cases agree with
  | nil =>
      rfl
  | cons first rest =>
      have firstLength := first.length_innerArrays
      have restLength := rest.length_innerArrays
      rcases first.arrays_or_not with
        ⟨inner, other, rfl, rfl⟩ | ⟨leftNone, rightNone⟩
      · exact congrArg (· + 1) restLength
      · rw [innerArraysOfItems_cons leftNone, innerArraysOfItems_cons rightNone,
          List.length_append, List.length_append, firstLength, restLength]

theorem AgreeMembers.length_innerArrays
    {lefts rights : List (String × Json)}
    (agree : AgreeMembers lefts rights) :
    (innerArraysOfMembers lefts).length = (innerArraysOfMembers rights).length := by
  cases agree with
  | nil =>
      rfl
  | secret left right sensitive rest =>
      have restLength := rest.length_innerArrays
      simpa only [innerArraysOfMembers, sensitive, if_true, List.nil_append]
        using restLength
  | shown key value rest =>
      have valueLength := value.length_innerArrays
      have restLength := rest.length_innerArrays
      simp only [innerArraysOfMembers, List.length_append, restLength]
      split
      · rfl
      · rw [valueLength]

end

mutual

/-- Documents that agree, also in their inner arrays, are redacted to
the same document. -/
theorem AgreeOpenly.redactValue_eq
    {left right : Json}
    (agree : AgreeOpenly left right)
    (inner : innerArrays left = innerArrays right) :
    redactValue left = redactValue right := by
  cases agree with
  | same =>
      rfl
  | array items =>
      exact congrArg Json.array (items.redactItems_eq inner)
  | object members =>
      exact congrArg Json.object (members.redactMembers_eq inner)

theorem AgreeItems.redactItems_eq
    {lefts rights : List Json}
    (agree : AgreeItems lefts rights)
    (inner : innerArraysOfItems lefts = innerArraysOfItems rights) :
    redactItems lefts = redactItems rights := by
  cases agree with
  | nil =>
      rfl
  | cons first rest =>
      rcases first.arrays_or_not with
        ⟨held, other, rfl, rfl⟩ | ⟨leftNone, rightNone⟩
      · obtain ⟨same, restInner⟩ := List.cons.inj inner
        have restSame := rest.redactItems_eq restInner
        rw [same]
        exact congrArg (Json.array other :: ·) restSame
      · rw [innerArraysOfItems_cons leftNone, innerArraysOfItems_cons rightNone]
          at inner
        obtain ⟨firstInner, restInner⟩ :=
          List.append_inj inner first.length_innerArrays
        rw [redactItems_cons leftNone, redactItems_cons rightNone,
          first.redactValue_eq firstInner, rest.redactItems_eq restInner]

theorem AgreeMembers.redactMembers_eq
    {lefts rights : List (String × Json)}
    (agree : AgreeMembers lefts rights)
    (inner : innerArraysOfMembers lefts = innerArraysOfMembers rights) :
    redactMembers lefts = redactMembers rights := by
  cases agree with
  | nil =>
      rfl
  | secret left right sensitive rest =>
      simp only [innerArraysOfMembers, sensitive, if_true, List.nil_append] at inner
      simp only [redactMembers, sensitive, if_true, rest.redactMembers_eq inner]
  | shown key value rest =>
      by_cases sensitive : isSensitive key = true
      · simp only [innerArraysOfMembers, sensitive, if_true, List.nil_append]
          at inner
        simp only [redactMembers, sensitive, if_true, rest.redactMembers_eq inner]
      · simp only [innerArraysOfMembers, sensitive] at inner
        obtain ⟨valueInner, restInner⟩ :=
          List.append_inj inner value.length_innerArrays
        simp only [redactMembers, sensitive, value.redactValue_eq valueInner,
          rest.redactMembers_eq restInner]

end

/--
Secrets leave a redaction alone exactly if they leave the inner arrays alone.

Two contexts that agree but for values under sensitive keys, at any
depth, are redacted to the same context if and only if they have the same
arrays inside of arrays.
-/
theorem redactMembers_eq_iff
    {left right : List (String × Json)}
    (agree : AgreeMembers left right) :
    redactMembers left = redactMembers right ↔
      innerArraysOfMembers left = innerArraysOfMembers right := by
  constructor
  · intro same
    rw [← innerArrays_redactMembers left, same, innerArrays_redactMembers]
  · exact agree.redactMembers_eq

/-- A user, and the attempts to log in. -/
def loginContext (attempts : List Json) : List (String × Json) :=
  [("user", .string "ann"), ("attempts", .array attempts)]

/-- An attempt with a password. -/
def loginAttempt (password : String) : Json :=
  .object [("host", .string "db"), ("password", .string password)]

theorem agreeOpenly_loginAttempt (first second : String) :
    AgreeOpenly (loginAttempt first) (loginAttempt second) :=
  .object (.shown "host" (.same _) (.secret _ _ (by decide +kernel) .nil))

theorem agree_loginContext
    {lefts rights : List Json}
    (agree : AgreeItems lefts rights) :
    AgreeMembers (loginContext lefts) (loginContext rights) :=
  .shown "user" (.same _) (.shown "attempts" (.array agree) .nil)

/-- Passwords in the objects of an array are hidden, also beside an inner array. -/
theorem redactMembers_eq_iff_attempts :
    AgreeMembers
      (loginContext [loginAttempt "first", .array [.int 1]])
      (loginContext [loginAttempt "second", .array [.int 1]]) ∧
    redactMembers (loginContext [loginAttempt "first", .array [.int 1]]) =
      redactMembers (loginContext [loginAttempt "second", .array [.int 1]]) := by
  have agree :=
    agree_loginContext
      (.cons (agreeOpenly_loginAttempt "first" "second")
        (.cons (.same (.array [.int 1])) .nil))
  exact ⟨agree, (redactMembers_eq_iff agree).mpr rfl⟩

/-- A password in an array inside of an array is not hidden. -/
theorem inner_password_shows :
    AgreeMembers
      (loginContext [.array [loginAttempt "first"]])
      (loginContext [.array [loginAttempt "second"]]) ∧
    redactMembers (loginContext [.array [loginAttempt "first"]]) ≠
      redactMembers (loginContext [.array [loginAttempt "second"]]) := by
  refine ⟨agree_loginContext
    (.cons (.array (.cons (agreeOpenly_loginAttempt "first" "second") .nil)) .nil),
    ?_⟩
  intro same
  have inner :=
    (innerArrays_redactMembers _).symm.trans
      ((congrArg innerArraysOfMembers same).trans (innerArrays_redactMembers _))
  have shown : isSensitive "user" = false ∧ isSensitive "attempts" = false := by
    decide +kernel
  simp [loginContext, loginAttempt, innerArraysOfMembers, innerArrays,
    innerArraysOfItems, shown] at inner

/-!
## The shape of a redacted context

Redaction replaces the values under sensitive keys and cuts long texts; a
cut text is cut again to itself. Outside of such values every object keeps
its keys in order, every array its length and every value that is no text
itself. What stands in a value under a sensitive key is gone with it, keys
and items included.
-/

/-! ### Places -/

/--
The keys on the way to a place in a document, and what stands there.

A place counts members and items from the outside in.
-/
def locate? : Json → List Nat → Option (List String × Json)
  | document, [] => some ([], document)
  | .object members, i :: place => do
      let (key, value) ← members[i]?
      let (keys, part) ← locate? value place
      return (key :: keys, part)
  | .array items, i :: place => do
      let item ← items[i]?
      locate? item place
  | _, _ :: _ => none

/--
A part of a document has kept its shape.

An object has its keys in order, an array its length, and another value that is
no text is itself. A text is itself or has been cut.
-/
def KeepsShape : Json → Json → Prop
  | .object members, .object others => others.map Prod.fst = members.map Prod.fst
  | .array items, .array others => others.length = items.length
  | .string s, .string t => t = s ∨ t = shorten s
  | part, other => other = part

theorem KeepsShape.refl (part : Json) : KeepsShape part part := by
  cases part with
  | string s =>
      exact .inl rfl
  | _ =>
      rfl

/-! ### Redaction one by one -/

/-- A redacted item of an array. -/
def redactItem : Json → Json
  | .array inner => .array inner
  | item => redactValue item

/-- A redacted member of an object. -/
def redactMember (member : String × Json) : String × Json :=
  (member.1, if isSensitive member.1 then redacted else redactValue member.2)

theorem redactItems_eq_map (items : List Json) :
    redactItems items = items.map redactItem := by
  induction items with
  | nil =>
      rfl
  | cons item rest inductionHypothesis =>
      cases item with
      | _ =>
          rw [List.map_cons, ← inductionHypothesis]
          rfl

theorem redactMembers_eq_map (members : List (String × Json)) :
    redactMembers members = members.map redactMember := by
  induction members with
  | nil =>
      rfl
  | cons member rest inductionHypothesis =>
      rw [List.map_cons, ← inductionHypothesis]
      rfl

theorem keepsShape_redactValue (part : Json) :
    KeepsShape part (redactValue part) := by
  cases part with
  | string s =>
      exact .inr rfl
  | array items =>
      show (redactItems items).length = items.length
      rw [redactItems_eq_map, List.length_map]
  | object members =>
      show (redactMembers members).map Prod.fst = members.map Prod.fst
      rw [redactMembers_eq_map, List.map_map]
      rfl
  | _ =>
      rfl

/-! ### Places outside of secrets -/

/-- No key on the way speaks of a secret. -/
def IsOpen (keys : List String) : Prop :=
  ∀ key ∈ keys, isSensitive key = false

/-- What stands outside of secrets stands at its place in a redacted value as
well, redacted, or as it is inside of an inner array. -/
theorem locate?_redactValue
    {document part : Json}
    {place : List Nat}
    {keys : List String}
    (located : locate? document place = some (keys, part))
    (isOpen : IsOpen keys) :
    locate? (redactValue document) place = some (keys, redactValue part) ∨
      locate? (redactValue document) place = some (keys, part) := by
  induction place generalizing document keys with
  | nil =>
      cases located
      exact .inl rfl
  | cons i place inductionHypothesis =>
      cases document with
      | object members =>
          simp only [locate?, Option.bind_eq_bind, Option.bind_eq_some_iff]
            at located
          obtain ⟨⟨key, value⟩, isMember, ⟨later, found⟩, isFound, isPair⟩ :=
            located
          cases isPair
          obtain ⟨notSensitive, laterOpen⟩ := List.forall_mem_cons.mp isOpen
          have redactedMember :
              (redactMembers members)[i]? = some (key, redactValue value) := by
            rw [redactMembers_eq_map, List.getElem?_map, isMember]
            simp [redactMember, notSensitive]
          rcases inductionHypothesis isFound laterOpen with shown | shown
          · left
            simp [redactValue, locate?, redactedMember, shown]
          · right
            simp [redactValue, locate?, redactedMember, shown]
      | array items =>
          simp only [locate?, Option.bind_eq_bind, Option.bind_eq_some_iff]
            at located
          obtain ⟨item, isItem, isFound⟩ := located
          have redactedItem : (redactItems items)[i]? = some (redactItem item) := by
            rw [redactItems_eq_map, List.getElem?_map, isItem]
            rfl
          have step : locate? (redactValue (.array items)) (i :: place) =
              locate? (redactItem item) place := by
            simp [redactValue, locate?, redactedItem]
          rw [step]
          cases item with
          | array inner =>
              exact .inr isFound
          | _ =>
              exact inductionHypothesis isFound isOpen
      | _ =>
          cases located

/-! ### Redaction twice -/

/-- A text that was cut is cut to itself. -/
theorem shorten_shorten (s : String) : shorten (shorten s) = shorten s := by
  by_cases short : s.length ≤ maxTextLength
  · have whole : shorten s = s := if_pos short
    rw [whole, whole]
  · have kept : (s.toList.take maxTextLength).length = maxTextLength := by
      rw [List.length_take, String.length_toList]
      omega
    have isCut :
        (shorten s).toList =
          s.toList.take maxTextLength ++ "...[truncated]".toList := by
      rw [shorten, if_neg short, String.toList_append, String.toList_ofList]
    have long : ¬(shorten s).length ≤ maxTextLength := by
      rw [← String.length_toList, isCut, List.length_append, kept]
      decide
    rw [shorten, if_neg long, isCut, List.take_left' kept, shorten, if_neg short]

mutual

/-- A redacted value is redacted already. -/
theorem redactValue_redactValue (value : Json) :
    redactValue (redactValue value) = redactValue value := by
  cases value with
  | object members =>
      exact congrArg Json.object (redactMembers_redactMembers members)
  | array items =>
      exact congrArg Json.array (redactItems_redactItems items)
  | string s =>
      exact congrArg Json.string (shorten_shorten s)
  | _ =>
      rfl

theorem redactItems_redactItems (items : List Json) :
    redactItems (redactItems items) = redactItems items := by
  cases items with
  | nil =>
      rfl
  | cons item rest =>
      have restSame := redactItems_redactItems rest
      by_cases isArray : ∃ inner, item = .array inner
      · obtain ⟨inner, rfl⟩ := isArray
        exact congrArg (Json.array inner :: ·) restSame
      · have noArray : IsNoArray item := fun inner same => isArray ⟨inner, same⟩
        rw [redactItems_cons noArray, redactItems_cons noArray.redactValue,
          redactValue_redactValue item, restSame]

theorem redactMembers_redactMembers (members : List (String × Json)) :
    redactMembers (redactMembers members) = redactMembers members := by
  cases members with
  | nil =>
      rfl
  | cons member rest =>
      obtain ⟨key, value⟩ := member
      have valueSame := redactValue_redactValue value
      have restSame := redactMembers_redactMembers rest
      simp only [redactMembers, restSame]
      split
      · rfl
      · rw [valueSame]

end

/--
A redacted context is redacted already, and has kept its shape.

Every object that stands outside of values under sensitive keys has its
keys in order, every array there its length, and every value there that
is no text itself.
-/
theorem redactMembers_keepsShape (context : List (String × Json)) :
    redactMembers (redactMembers context) = redactMembers context ∧
      ∀ place keys part, locate? (.object context) place = some (keys, part) →
        IsOpen keys →
        ∃ shown,
          locate? (.object (redactMembers context)) place = some (keys, shown) ∧
          KeepsShape part shown := by
  refine ⟨redactMembers_redactMembers context,
    fun place keys part located isOpen => ?_⟩
  rcases locate?_redactValue located isOpen with shown | shown
  · exact ⟨_, shown, keepsShape_redactValue part⟩
  · exact ⟨_, shown, .refl part⟩

/-- A user with a password and a count of logins. -/
def userContext : List (String × Json) :=
  [("user", .object [
    ("name", .string "ann"), ("password", .string "first"),
    ("logins", .array [.int 3, .null])])]

/-- The count stands where it stood. -/
theorem redactMembers_keepsShape_logins :
    locate? (.object userContext) [0, 2, 0] = some (["user", "logins"], .int 3) ∧
      IsOpen ["user", "logins"] ∧
      locate? (.object (redactMembers userContext)) [0, 2, 0] =
        some (["user", "logins"], .int 3) := by
  have located :
      locate? (.object userContext) [0, 2, 0] = some (["user", "logins"], .int 3) :=
      rfl
  have isOpen : IsOpen ["user", "logins"] := by
    unfold IsOpen
    decide +kernel
  obtain ⟨shown, isShown, kept⟩ :=
    (redactMembers_keepsShape userContext).2 _ _ _ located isOpen
  obtain rfl : shown = .int 3 := by
    cases shown <;> exact kept
  exact ⟨located, isOpen, isShown⟩

/-- An object under a sensitive key is gone, and its keys with it. -/
theorem keys_under_secret_are_lost :
    locate? (.object [("password", .object [("user", .string "ann")])]) [0] =
        some (["password"], .object [("user", .string "ann")]) ∧
      ¬∃ keys members,
        locate?
          (.object
              (redactMembers [("password", .object [("user", .string "ann")])]))
              [0] =
            some (keys, .object members) ∧
          members.map Prod.fst = ["user"] := by
  have sensitive : isSensitive "password" = true := by
    decide +kernel
  refine ⟨rfl, ?_⟩
  rintro ⟨keys, members, located, -⟩
  simp [redactMembers, sensitive, redacted, locate?] at located

end GridScript.Log
