import QueryClause.Calendar.Notation
import QueryClause.Calendar.TimeSpan
import QueryClause.Decimal.Float
import QueryClause.Guid
import QueryClause.Host.Type
import QueryClause.Number.FloatText

/-!
# Host values

A `Value` is what a host expression without free variables evaluates to.  `Value.hostType` gives the
type of a value, `Value.text` its plain text, and `Value.same` says when two values have the same
parts.
-/

namespace QueryClause

/-- A value of the host. -/
inductive Value where
  | null
  | bool (b : Bool)
  | int (n : Int64)
  | float (x : Float)
  | decimal (d : Decimal)
  | char (c : Char)
  | string (s : String)
  | dateTime (t : DateTime)
  | timeSpan (s : TimeSpan)
  | guid (g : Guid)
  /-- A constant of an enumeration; the number need not belong to a member. -/
  | enum (e : EnumType) (n : Int64)
  | list (items : List Value)
  /-- An object with its fields in order. -/
  | object (typeName : String) (fields : List (String × Value))
  deriving Repr, Inhabited

namespace Value

/-- Whether the value is null. -/
def isNull : Value → Bool
  | null => true
  | _ => false

mutual

/-- The type of a value. -/
def hostType : Value → HostType
  | null => .null
  | bool _ => .bool
  | int _ => .int .int64
  | float _ => .float64
  | decimal _ => .decimal
  | char _ => .char
  | string _ => .string
  | dateTime _ => .dateTime
  | timeSpan _ => .timeSpan
  | guid _ => .guid
  | enum e _ => .enum e
  | list items => .list (itemsType items)
  | object typeName _ => .object typeName

/-- The type of the first item that is not null. -/
def itemsType : List Value → HostType
  | [] => .null
  | v :: rest => if v.isNull then itemsType rest else hostType v

end

mutual

/-- The plain text of a value. -/
def text : Value → String
  | null => "null"
  | bool b => if b then "true" else "false"
  | int n => Text.ofInt n.toInt
  | float x => FloatText.plain x
  | decimal d => d.text
  | char c => String.singleton c
  | string s => s
  | dateTime t => t.text
  | timeSpan s => Text.ofInt s.ticks.toInt
  | guid g => g.text
  | enum e n => (e.nameOf? n).getD (Text.ofInt n.toInt)
  | list items => Text.join "," (texts items)
  | object typeName _ => typeName

/-- The plain texts of some values. -/
def texts : List Value → List String
  | [] => []
  | v :: rest => text v :: texts rest

end

mutual

/-- Whether two values have the same parts.  Numbers are compared by value, so an undefined float
differs from itself. -/
def same : Value → Value → Bool
  | null, null => true
  | bool a, bool b => a == b
  | int a, int b => a == b
  | float a, float b => a == b
  | decimal a, decimal b => a.compare b == .eq
  | char a, char b => a == b
  | string a, string b => a == b
  | dateTime a, dateTime b => a == b
  | timeSpan a, timeSpan b => a == b
  | guid a, guid b => a == b
  | enum e a, enum f b => e == f && a == b
  | list as, list bs => sameItems as bs
  | object t as, object u bs => t == u && sameFields as bs
  | _, _ => false

/-- Whether two lists have the same items. -/
def sameItems : List Value → List Value → Bool
  | [], [] => true
  | a :: as, b :: bs => same a b && sameItems as bs
  | _, _ => false

/-- Whether two lists have the same fields. -/
def sameFields : List (String × Value) → List (String × Value) → Bool
  | [], [] => true
  | (n, a) :: as, (m, b) :: bs => n == m && same a b && sameFields as bs
  | _, _ => false

end

/-! ### Views -/

/-- A truth value. -/
def asBool? : Value → Option Bool
  | bool b => some b
  | _ => none

/-- An integer: the number of an enumeration constant, the code point of a character, or a number
without fraction.  A float beyond the range becomes the nearer end of it. -/
def asInt? : Value → Option Int64
  | int n => some n
  | enum _ n => some n
  | char c => some (Int64.ofNat c.toNat)
  | decimal d => if d.isWhole then d.toInt64? else none
  | float x => if Binary64.isWhole x then some (Binary64.toInt64 x) else none
  | _ => none

/-- A number as a float. -/
def asFloat? : Value → Option Float
  | int n => some n.toFloat
  | float x => some x
  | decimal d => some d.toFloat
  | _ => none

/-- A text. -/
def asString? : Value → Option String
  | string s => some s
  | _ => none

/-- The items of a list. -/
def asList? : Value → Option (List Value)
  | list items => some items
  | _ => none

/-- The value of the first field with a name. -/
def field? (name : String) (fields : List (String × Value)) : Option Value :=
  (fields.find? fun f => f.1 == name).map Prod.snd

end Value

end QueryClause
