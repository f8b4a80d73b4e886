import QueryClause.Host.Value
import QueryClause.Decimal.Reader
import QueryClause.Json.Fields

/-!
# Host types and values as JSON

A case is written as an object with the name of the case as its only member, and a case without
content as its name alone.  `Value.encode` leaves open how floats are written; `Value.toJson` writes
them as numbers, and `Value.ofJson?` reads that form.

The reader has one switch, `positional`: whether the fields of a case that has several may also be
given as an array in their order.
-/

namespace QueryClause

open Json

/-! ### Types -/

namespace EnumMember

/-- A member as a record. -/
def toJson (m : EnumMember) : Json :=
  .object [("name", .string m.name), ("value", .int m.value.toInt)]

/-- Read a member. -/
def ofJson? (j : Json) : Option EnumMember := do
  let [name, value] ← fields? ["name", "value"] j | none
  return ⟨← required? string? name, ← required? int64? value⟩

end EnumMember

namespace EnumType

/-- An enumeration as a record. -/
def toJson (e : EnumType) : Json :=
  .object [("name", .string e.name), ("members", .array (e.members.map EnumMember.toJson))]

/-- Read an enumeration. -/
def ofJson? (j : Json) : Option EnumType := do
  let [name, members] ← fields? ["name", "members"] j | none
  return ⟨← required? string? name, ← required? (list? EnumMember.ofJson?) members⟩

end EnumType

namespace HostType

/-- The types that are written as a name alone. -/
def named : List (String × HostType) :=
  [("Bool", bool), ("Int8", int .int8), ("Int16", int .int16), ("Int32", int .int32),
   ("Int64", int .int64), ("UInt8", int .uint8), ("UInt16", int .uint16), ("UInt32", int .uint32),
   ("UInt64", int .uint64), ("Float32", float32), ("Float64", float64), ("Decimal", decimal),
   ("Char", char), ("String", string), ("DateTime", dateTime), ("TimeSpan", timeSpan),
   ("Guid", guid), ("Null", null)]

/-- A type as JSON. -/
def toJson : HostType → Json
  | enum e => .object [("Enum", e.toJson)]
  | entity name => .object [("Entity", .string name)]
  | object name => .object [("Object", .string name)]
  | array t => .object [("Array", toJson t)]
  | list t => .object [("List", toJson t)]
  | nullable t => .object [("Nullable", toJson t)]
  | t => .string (((named.find? fun p => p.2 == t).map Prod.fst).getD "")

/-- Read a type. -/
def ofJson? : Json → Option HostType
  | .object [("Enum", j)] => (EnumType.ofJson? j).map enum
  | .object [("Entity", j)] => (string? j).map entity
  | .object [("Object", j)] => (string? j).map object
  | .object [("Array", j)] => (ofJson? j).map array
  | .object [("List", j)] => (ofJson? j).map list
  | .object [("Nullable", j)] => (ofJson? j).map nullable
  | j => (caseName? j).bind fun name => named.lookup name

end HostType

/-! ### Values -/

namespace Value

mutual

/-- A value as JSON, with floats as `float` writes them. -/
def encode (float : Float → Json) : Value → Json
  | null => .string "Null"
  | bool b => .object [("Bool", .bool b)]
  | int n => .object [("Int", .int n.toInt)]
  | .float x => .object [("Float", float x)]
  | decimal d => .object [("Decimal", .string d.text)]
  | char c => .object [("Char", .string (String.singleton c))]
  | string s => .object [("String", .string s)]
  | dateTime t => .object [("DateTime", .string t.isoText)]
  | timeSpan s => .object [("TimeSpan", .int s.ticks.toInt)]
  | guid g => .object [("Guid", .string g.text)]
  | enum e n => .object [("Enum", .object [("ty", e.toJson), ("value", .int n.toInt)])]
  | list items => .object [("List", .array (encodeItems float items))]
  | object typeName fields =>
    .object [("Object", .object
      [("type_name", .string typeName), ("fields", .array (encodeFields float fields))])]

/-- The items of a list as JSON. -/
def encodeItems (float : Float → Json) : List Value → List Json
  | [] => []
  | v :: rest => encode float v :: encodeItems float rest

/-- The fields of an object as pairs. -/
def encodeFields (float : Float → Json) : List (String × Value) → List Json
  | [] => []
  | (name, v) :: rest => .array [.string name, encode float v] :: encodeFields float rest

end

/-- A value as JSON. -/
def toJson (v : Value) : Json := v.encode .float

/-- A decimal: a text with or without exponent, or a number. -/
def decimalOf? : Json → Option Decimal
  | .string s => (Decimal.ofText? s).or (Decimal.ofScientific? s)
  | .int n => Decimal.ofText? (Text.ofInt n)
  | .float x => Decimal.ofText? (FloatText.plain x)
  | _ => none

/-- An enumeration constant from its two fields. -/
def enumOf? (e n : Option Json) : Option Value := do
  return .enum (← required? EnumType.ofJson? e) (← required? int64? n)

/-- A value that contains no other values. -/
def simpleOf? (positional : Bool) : Json → Option Value
  | .object [("Bool", j)] => (bool? j).map bool
  | .object [("Int", j)] => (int64? j).map int
  | .object [("Float", j)] => (float? j).map float
  | .object [("Decimal", j)] => (decimalOf? j).map decimal
  | .object [("Char", j)] => (char? j).map char
  | .object [("String", j)] => (string? j).map string
  | .object [("DateTime", j)] => ((string? j).bind DateTime.ofIso?).map dateTime
  | .object [("TimeSpan", j)] => (int64? j).map fun n => timeSpan ⟨n⟩
  | .object [("Guid", j)] => ((string? j).bind Guid.ofText?).map guid
  | .object [("Enum", .object members)] =>
    match fields? ["ty", "value"] (.object members) with
    | some [e, n] => enumOf? e n
    | _ => none
  | .object [("Enum", .array [e, n])] => if positional then enumOf? (some e) (some n) else none
  | j => if caseName? j = some "Null" then some null else none

mutual

/-- Read a value. -/
def ofJson? (positional : Bool) : Json → Option Value
  | .object [("List", .array items)] => (itemsOf? positional items).map list
  | .object [("Object", .object members)] =>
    match valuesOf "type_name" members, fieldLists positional members with
    | [.string typeName], [some fields] => some (object typeName fields)
    | _, _ => none
  | .object [("Object", .array [.string typeName, .array fields])] =>
    (pairsOf? positional fields).map (object typeName)
  | j => simpleOf? positional j

/-- Read the items of a list. -/
def itemsOf? (positional : Bool) : List Json → Option (List Value)
  | [] => some []
  | j :: rest => do
    let v ← ofJson? positional j
    return v :: (← itemsOf? positional rest)

/-- Read the fields of an object. -/
def pairsOf? (positional : Bool) : List Json → Option (List (String × Value))
  | [] => some []
  | .array [.string name, j] :: rest => do
    let v ← ofJson? positional j
    return (name, v) :: (← pairsOf? positional rest)
  | _ => none

/-- What the members called `fields` denote. -/
def fieldLists (positional : Bool) : List (String × Json) → List (Option (List (String × Value)))
  | [] => []
  | (name, .array items) :: rest =>
    if name = "fields" then pairsOf? positional items :: fieldLists positional rest
    else fieldLists positional rest
  | (name, _) :: rest =>
    if name = "fields" then none :: fieldLists positional rest else fieldLists positional rest

end

end Value

end QueryClause
