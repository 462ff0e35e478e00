namespace GridScript

/-!
# Values

Scripts and formulas compute with the same values. Integers are unbounded here:
only the operators hold results to the 64-bit range. A value that stands for an
error cell never comes out of a script; it takes part in the operations below so
that they are total.
-/

/-- The errors that a cell can hold. -/
inductive ErrorTag where
  | notAvailable
  | reference
  | value
  | divisionByZero
  | number
  | name
  | null
  deriving Repr, DecidableEq

namespace ErrorTag

/-- The text of an error cell. -/
def text : ErrorTag → String
  | notAvailable => "#N/A"
  | reference => "#REF!"
  | value => "#VALUE!"
  | divisionByZero => "#DIV/0!"
  | number => "#NUM!"
  | name => "#NAME?"
  | null => "#NULL!"

/-- Every error tag. -/
def all : List ErrorTag :=
  [notAvailable, reference, value, divisionByZero, number, name, null]

/-- The error that a text names. -/
def ofText? (text : String) : Option ErrorTag :=
  all.find? fun tag => tag.text == text

end ErrorTag

/--
A handle to a sheet of a book.

The handle names the sheet and never owns it, so it stops resolving when the
sheet is removed or renamed.
-/
structure SheetRef where
  book : Nat
  name : String
  deriving Repr, DecidableEq

/-- The values of scripts and formulas. -/
inductive Value where
  | null
  | bool (b : Bool)
  | int (i : Int)
  | float (x : Float)
  | string (s : String)
  | array (items : List Value)
  | sheet (ref : SheetRef)
  | error (tag : ErrorTag)
  deriving Repr, Inhabited

/-- The types that messages and the type query name. -/
inductive TypeName where
  | null
  | bool
  | int
  | float
  | string
  | array
  | sheet
  deriving Repr, DecidableEq

/-- The word for a type. -/
def TypeName.text : TypeName → String
  | null => "null"
  | bool => "bool"
  | int => "int"
  | float => "float"
  | string => "string"
  | array => "array"
  | sheet => "sheet"

/-- The two forms of numbers. -/
inductive Number where
  | int (i : Int)
  | float (x : Float)
  deriving Repr

namespace Number

/-- A number as a value. -/
def value : Number → Value
  | int i => .int i
  | float x => .float x

end Number

namespace Value

/-- The type of a value; an error cell has none. -/
def typeName? : Value → Option TypeName
  | null => some .null
  | bool _ => some .bool
  | int _ => some .int
  | float _ => some .float
  | string _ => some .string
  | array _ => some .array
  | sheet _ => some .sheet
  | error _ => none

/-- The number that a value is; booleans are none. -/
def number? : Value → Option Number
  | int i => some (.int i)
  | float x => some (.float x)
  | _ => none

/-- The value is a number. -/
def isNumber (v : Value) : Bool :=
  v.number?.isSome

/-- Null, false, zero, empty text and the empty array count as
false, all else as true. -/
def isTruthy : Value → Bool
  | null => false
  | bool b => b
  | int i => i != 0
  | float x => x != 0
  | string s => !s.isEmpty
  | array items => !items.isEmpty
  | sheet _ => true
  | error _ => true

/-- The items of an array. -/
def array? : Value → Option (List Value)
  | array items => some items
  | _ => none

/-- The value is an array. -/
def isArray (v : Value) : Bool :=
  v.array?.isSome

/-- The rows of an array of arrays. -/
def rows? (items : List Value) : Option (List (List Value)) :=
  items.mapM array?

/-- The rows of a non-empty array of equally long arrays. -/
def table? : Value → Option (List (List Value))
  | array items =>
      match rows? items with
      | some (first :: rest) =>
          if rest.all fun row => row.length == first.length then
            some (first :: rest)
          else none
      | _ => none
  | _ => none

/-- The value is a non-empty rectangular array of arrays. -/
def isTable (v : Value) : Bool :=
  v.table?.isSome

end Value

/-!
## Literals

The constants that can be written in a script or a formula.
-/

/-- A constant in a program text. -/
inductive Literal where
  | null
  | bool (b : Bool)
  | int (i : Int)
  | float (x : Float)
  | string (s : String)
  deriving Repr

/-- The value of a literal. -/
def Literal.value : Literal → Value
  | null => .null
  | bool b => .bool b
  | int i => .int i
  | float x => .float x
  | string s => .string s

end GridScript
