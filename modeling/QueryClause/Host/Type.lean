import QueryClause.Number.Power

/-!
# Host types

`HostType` holds the types of the values and expressions that are compiled: the basic types,
enumerations, entities (which are stored in tables) and other objects, arrays and lists, and types
that also allow null.
-/

namespace QueryClause

/-- A named constant of an enumeration. -/
structure EnumMember where
  name : String
  value : Int64
  deriving DecidableEq, Repr

/-- An enumeration. -/
structure EnumType where
  name : String
  members : List EnumMember
  deriving DecidableEq, Repr

namespace EnumType

/-- The name of the first member with a value. -/
def nameOf? (e : EnumType) (value : Int64) : Option String :=
  (e.members.find? fun m => m.value == value).map EnumMember.name

/-- The value of the first member with a name. -/
def valueOf? (e : EnumType) (name : String) : Option Int64 :=
  (e.members.find? fun m => m.name == name).map EnumMember.value

end EnumType

/-- The integer types by size and sign. -/
inductive IntType where
  | int8
  | int16
  | int32
  | int64
  | uint8
  | uint16
  | uint32
  | uint64
  deriving DecidableEq, Repr

/-- The type of a host value or expression. -/
inductive HostType where
  | bool
  | int (t : IntType)
  | float32
  | float64
  | decimal
  | char
  | string
  | dateTime
  | timeSpan
  | guid
  | enum (e : EnumType)
  /-- An object that is stored in a table. -/
  | entity (name : String)
  /-- Any other object. -/
  | object (name : String)
  | array (item : HostType)
  | list (item : HostType)
  | nullable (t : HostType)
  /-- The type of the null literal. -/
  | null
  deriving DecidableEq, Repr, Inhabited

namespace IntType

/-- The name of an integer type in texts. -/
def text : IntType → String
  | int8 => "SByte"
  | int16 => "Int16"
  | int32 => "Int32"
  | int64 => "Int64"
  | uint8 => "Byte"
  | uint16 => "UInt16"
  | uint32 => "UInt32"
  | uint64 => "UInt64"

/-- The value that keeps the low bits of `n`; values of the widest types stay as they are. -/
def wrap (t : IntType) (n : Int64) : Int64 :=
  match t with
  | int8 => Int64.ofInt (n.toInt.bmod (twoTo 8))
  | int16 => Int64.ofInt (n.toInt.bmod (twoTo 16))
  | int32 => Int64.ofInt (n.toInt.bmod (twoTo 32))
  | uint8 => Int64.ofInt (n.toInt % twoTo 8)
  | uint16 => Int64.ofInt (n.toInt % twoTo 16)
  | uint32 => Int64.ofInt (n.toInt % twoTo 32)
  | int64 | uint64 => n

end IntType

namespace HostType

/-- The name of a type in texts. -/
def text : HostType → String
  | bool => "Boolean"
  | int t => t.text
  | float32 => "Single"
  | float64 => "Double"
  | decimal => "Decimal"
  | char => "Char"
  | string => "String"
  | dateTime => "DateTime"
  | timeSpan => "TimeSpan"
  | guid => "Guid"
  | enum e => e.name
  | entity name => name
  | object name => name
  | array t => t.text ++ "[]"
  | list t => "List<" ++ t.text ++ ">"
  | nullable t => t.text ++ "?"
  | null => "null"

/-- The type that also allows null. -/
def orNull : HostType → HostType
  | nullable t => nullable t
  | t => nullable t

/-- The type without one allowance for null. -/
def underlying : HostType → HostType
  | nullable t => t
  | t => t

/-- Whether the values are integers. -/
def isInteger (t : HostType) : Bool :=
  match t.underlying with
  | int _ => true
  | _ => false

/-- Whether the values are numbers with a fraction. -/
def isFloating (t : HostType) : Bool :=
  match t.underlying with
  | float32 | float64 | decimal => true
  | _ => false

/-- Whether the values are numbers. -/
def isNumeric (t : HostType) : Bool := t.isInteger || t.isFloating

/-- Whether the values can be searched for an item; texts cannot. -/
def isEnumerable (t : HostType) : Bool :=
  match t.underlying with
  | array _ | list _ => true
  | _ => false

/-- The enumeration that the values belong to. -/
def enumType? (t : HostType) : Option EnumType :=
  match t.underlying with
  | enum e => some e
  | _ => none

/-- Whether the values belong to an enumeration. -/
def isEnum (t : HostType) : Bool := t.enumType?.isSome

/-- The name of an entity or object type. -/
def entityName? (t : HostType) : Option String :=
  match t.underlying with
  | entity name | object name => some name
  | _ => none

/-- The type of the items of an array or list. -/
def itemType? (t : HostType) : Option HostType :=
  match t.underlying with
  | array item | list item => some item
  | _ => none

/-! ### Types that allow null -/

@[simp] theorem underlying_orNull (t : HostType) : t.orNull.underlying = t.underlying := by
  cases t <;> rfl

theorem orNull_ne_null (t : HostType) : t.orNull ≠ null := by cases t <;> exact nofun

end HostType

end QueryClause
