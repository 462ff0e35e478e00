import GridScript.Value.Failure

namespace GridScript

/-!
# Equality and order of values

Numbers compare by their exact values, whatever their form. Values of different
kinds are unequal; the equality operator refuses to compare them, except that
null may be compared with anything. Numbers, strings and booleans are ordered;
the undefined float counts as neither less nor greater than any number.
-/

open GridScript.Number

namespace Number

/-- The exact value of a number. -/
def exact : Number → Exact
  | int i => Exact.ofInt i
  | float x => Exact.ofFloat x

/-- Order of two numbers; the undefined float is level with every number. -/
def order (left right : Number) : Ordering :=
  (left.exact.compare? right.exact).getD .eq

/-- Two numbers are equal; the undefined float equals nothing. -/
def equal (left right : Number) : Bool :=
  left.exact.compare? right.exact == some .eq

/-- A number less than another. -/
def less (left right : Number) : Bool :=
  left.exact.compare? right.exact == some .lt

/-- A number less than another or equal to it. -/
def atMost (left right : Number) : Bool :=
  (left.exact.compare? right.exact).any Ordering.isLE

/-- The number is zero, with either sign. -/
def isZero (n : Number) : Bool :=
  n.equal (.int 0)

end Number

namespace Value

mutual

/-- Two values are of one kind and equal; values of different kinds are unequal. -/
def equal : Value → Value → Bool
  | null, null => true
  | bool l, bool r => l == r
  | int l, int r => l == r
  | int l, float r => (Number.int l).equal (.float r)
  | float l, int r => (Number.float l).equal (.int r)
  | float l, float r => (Number.float l).equal (.float r)
  | string l, string r => l == r
  | array l, array r => equalItems l r
  | sheet l, sheet r => l == r
  | _, _ => false

/-- Two lists of values are equally long and equal item by item. -/
def equalItems : List Value → List Value → Bool
  | [], [] => true
  | l :: ls, r :: rs => l.equal r && equalItems ls rs
  | _, _ => false

end

/-- The kinds within which the equality operator compares. -/
inductive Kind where
  | null
  | bool
  | number
  | string
  | array
  | sheet
  deriving Repr, DecidableEq

/-- The kind of a value; both number forms are one kind, and an
error cell has none. -/
def kind? : Value → Option Kind
  | .null => some .null
  | .bool _ => some .bool
  | .int _ => some .number
  | .float _ => some .number
  | .string _ => some .string
  | .array _ => some .array
  | .sheet _ => some .sheet
  | .error _ => none

/-- Equality as the operator `=` decides it. -/
def strictEqual (left right : Value) : Except OperationError Bool :=
  match left, right with
  | .null, .null => .ok true
  | .null, _ => .ok false
  | _, .null => .ok false
  | _, _ =>
      match left.kind?, right.kind? with
      | some l, some r =>
          if l = r then .ok (left.equal right)
          else .error (kindError2 .compare left right)
      | _, _ => .error (.kind .errorCell)

/-- Order of two numbers, two strings or two booleans. -/
def order? : Value → Value → Option Ordering
  | .int l, .int r => some (compare l r)
  | .int l, .float r => some ((Number.int l).order (.float r))
  | .float l, .int r => some ((Number.float l).order (.int r))
  | .float l, .float r => some ((Number.float l).order (.float r))
  | .string l, .string r => some (compare l r)
  | .bool l, .bool r => some (compare l r)
  | _, _ => none

/-- Order as the ordering operators decide it. -/
def compareValues (left right : Value) : Except OperationError Ordering :=
  match left.order? right with
  | some o => .ok o
  | none => .error (kindError2 .order left right)

end Value

/-- The number of an order: -1, 0 or 1. -/
def orderSign : Ordering → Int
  | .lt => -1
  | .eq => 0
  | .gt => 1

end GridScript
