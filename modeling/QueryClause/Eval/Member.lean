import QueryClause.Eval.Error
import QueryClause.Host.Value

/-!
# Members of host values

The properties of values that can be read without help from the environment (`Value.readMember`),
and the constants that belong to a type (`staticMember?`).
-/

namespace QueryClause

namespace DateTime

/-- A property of an instant. -/
def readMember? (t : DateTime) (name : String) : Option Value :=
  let number (n : Nat) : Option Value := some (.int (Int64.ofNat n))
  match name with
  | "Year" => some (.int (Int64.ofInt t.date.civil.year))
  | "Month" => number t.date.civil.month
  | "Day" => number t.date.civil.day
  | "Hour" => number t.time.hour
  | "Minute" => number t.time.minute
  | "Second" => number t.time.second
  | "Millisecond" => number (t.time.nanos / 1000000)
  | "DayOfYear" => number t.date.ordinal
  | "Date" => some (.dateTime ⟨t.date, TimeOfDay.midnight⟩)
  | _ => none

end DateTime

namespace TimeSpan

/-- A property of a span; the whole units are counted toward zero. -/
def readMember? (s : TimeSpan) (name : String) : Option Value :=
  match name with
  | "Ticks" => some (.int s.ticks)
  | "Days" => some (.int (s.ticks / (ticksPerSecond * 86400)))
  | "Hours" => some (.int (s.ticks / (ticksPerSecond * 3600) % 24))
  | "Minutes" => some (.int (s.ticks / (ticksPerSecond * 60) % 60))
  | "Seconds" => some (.int (s.ticks / ticksPerSecond % 60))
  | "TotalDays" => some (.float (s.totalSeconds / 86400.0))
  | "TotalHours" => some (.float (s.totalSeconds / 3600.0))
  | "TotalMinutes" => some (.float (s.totalSeconds / 60.0))
  | "TotalSeconds" => some (.float s.totalSeconds)
  | "TotalMilliseconds" => some (.float (s.ticks.toFloat / ticksPerMillisecond.toFloat))
  | _ => none

end TimeSpan

namespace Value

/-- A property that the kind of the value has. -/
def ownMember? (v : Value) (name : String) : Option Value :=
  match v with
  | object _ fields => field? name fields
  | string s => if name = "Length" then some (int (Int64.ofNat s.length)) else none
  | list items =>
    if name = "Count" || name = "Length" then some (int (Int64.ofNat items.length)) else none
  | dateTime t => t.readMember? name
  | timeSpan s => s.readMember? name
  | _ => none

/-- A property that the kind of the value has to have. -/
def requireMember (v : Value) (name : String) : Except EvalError Value :=
  match v.ownMember? name with
  | some w => .ok w
  | none => .error (.unknownMember v.hostType.text name)

/-- Read a member of a value.  Except on objects, `HasValue` and `Value` tell null from the rest. -/
def readMember (v : Value) (name : String) : Except EvalError Value :=
  match v with
  | null =>
    if name = "HasValue" then .ok (bool false)
    else if name = "Value" then .error (.invalidOperation .valueOfNull)
    else .error (.nullReference (.reading name))
  | object typeName fields => requireMember (object typeName fields) name
  | v =>
    if name = "HasValue" then .ok (bool true)
    else if name = "Value" then .ok v
    else v.requireMember name

end Value

/-- The constants of the basic types. -/
def basicConstant? (owner name : String) : Option Value :=
  match owner, name with
  | "String", "Empty" => some (.string "")
  | "Guid", "Empty" => some (.guid Guid.nil)
  | "DateTime", "MinValue" => some (.dateTime DateTime.first)
  | "DateTime", "MaxValue" => some (.dateTime DateTime.last)
  | "TimeSpan", "Zero" => some (.timeSpan ⟨0⟩)
  | "Int32", "MaxValue" => some (.int 2147483647)
  | "Int32", "MinValue" => some (.int (-2147483648))
  | "Int64", "MaxValue" => some (.int Int64.maxValue)
  | "Int64", "MinValue" => some (.int Int64.minValue)
  | "Decimal", "Zero" => some (.decimal Decimal.zero)
  | "Math", "PI" => some (.float 3.141592653589793)
  | _, _ => none

/-- A constant that belongs to a type; the name of an enumeration stands for its members alone. -/
def staticMember? (owner name : String) (type : HostType) : Option Value :=
  match type.enumType? with
  | some e =>
    if e.name = owner then (e.valueOf? name).map (.enum e) else basicConstant? owner name
  | none => basicConstant? owner name

end QueryClause
