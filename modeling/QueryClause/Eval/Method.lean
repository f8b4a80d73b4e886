import QueryClause.Decimal.Reader
import QueryClause.Eval.Arguments
import QueryClause.Eval.Compare
import QueryClause.Eval.Convert
import QueryClause.Number.Power
import QueryClause.Text.LetterCase
import QueryClause.Text.Search

/-!
# Built-in methods

`callMethod?` answers a call of a method that every host has, on a value or on a type, and is `none`
for any other method.  Positions and lengths in texts count characters.
-/

namespace QueryClause

/-! ### Methods of texts -/

/-- The part of a text from a position, as long as asked for or up to the end. -/
def Text.slice (s : List Char) (start : Int64) (length : Option Int64) :
    Except EvalError (List Char) :=
  let outOfRange {α : Type} (i : Int64) : Except EvalError α :=
    .error (.indexOutOfRange i s.length)
  if start < 0 || s.length < start.toNatClampNeg then outOfRange start
  else
    match length with
    | none => .ok (s.drop start.toNatClampNeg)
    | some l =>
      if l < 0 then outOfRange l
      else if s.length < start.toNatClampNeg + l.toNatClampNeg then outOfRange (start + l)
      else .ok ((s.drop start.toNatClampNeg).take l.toNatClampNeg)

/-- A method of a text. -/
def stringMethod? (s : String) (method : String) (args : List Value) :
    Option (Except EvalError Value) :=
  let cs := s.toList
  let changed (f : List Char → List Char) : Option (Except EvalError Value) :=
    some (.ok (.string (String.ofList (f cs))))
  let onText (f : List Char → Value) : Option (Except EvalError Value) :=
    some ((Arguments.string method args 0).map fun p => f p.toList)
  match method with
  | "ToUpper" | "ToUpperInvariant" => changed Text.toUpper
  | "ToLower" | "ToLowerInvariant" => changed Text.toLower
  | "Trim" => changed Text.trim
  | "TrimStart" => changed Text.trimStart
  | "TrimEnd" => changed Text.trimEnd
  | "Substring" => some do
    let start ← Arguments.int method args 0
    let length ← if args.length ≤ 1 then pure none else some <$> Arguments.int method args 1
    return .string (String.ofList (← Text.slice cs start length))
  | "StartsWith" => onText fun p => .bool (p.isPrefixOf cs)
  | "EndsWith" => onText fun p => .bool (p.isSuffixOf cs)
  | "Contains" => onText fun p => .bool (Text.occurs p cs)
  | "IndexOf" => onText fun p => .int (match Text.findIndex? p cs with
    | some i => Int64.ofNat i
    | none => -1)
  | "Replace" => some do
    let old ← Arguments.string method args 0
    let new ← Arguments.string method args 1
    return .string (String.ofList (Text.replaceAll old.toList new.toList cs))
  | _ => none

/-! ### Methods of instants -/

/-- Shift an instant by milliseconds, rounded to whole ones. -/
def addMillis (method : String) (t : DateTime) (ms : Float) : Except EvalError Value :=
  let n := Binary64.toInt64 (Binary64.round .halfAway ms)
  match if n = Int64.minValue then none else t.shift? (n.toInt * 1000000) with
  | some u => .ok (.dateTime u)
  | none => .error (.overflow method)

/-- Shift an instant by months; of the number of months, the low 32 bits of the magnitude count. -/
def addMonths (method : String) (t : DateTime) (n : Int64) : Except EvalError Value :=
  let k : Nat := n.toInt.natAbs % twoTo 32
  let shifted :=
    if k = 0 then some t
    else if twoTo 31 ≤ k then none
    else t.addMonths? (if n < 0 then -(k : Int) else k)
  match shifted with
  | some u => .ok (.dateTime u)
  | none => .error (.overflow method)

/-- A method of an instant. -/
def dateTimeMethod? (t : DateTime) (method : String) (args : List Value) :
    Option (Except EvalError Value) :=
  let shift (unit : Float) : Option (Except EvalError Value) :=
    some ((Arguments.float method args 0).bind fun x => addMillis method t (x * unit))
  match method with
  | "AddDays" => shift 86400000.0
  | "AddHours" => shift 3600000.0
  | "AddMinutes" => shift 60000.0
  | "AddSeconds" => shift 1000.0
  | "AddMilliseconds" => some ((Arguments.float method args 0).bind (addMillis method t))
  | "AddMonths" => some ((Arguments.int method args 0).bind (addMonths method t))
  | "AddYears" => some ((Arguments.int method args 0).bind fun n => addMonths method t (n * 12))
  | _ => none

/-! ### Methods of any value -/

/-- The number that stands for an order. -/
def orderNumber : Ordering → Int64
  | .lt => -1
  | .eq => 0
  | .gt => 1

/-- A method of a list. -/
def listMethod? (items : List Value) (method : String) (args : List Value) :
    Option (Except EvalError Value) :=
  match method, args with
  | "Contains", [probe] => some (.ok (.bool (Value.contained probe items)))
  | "IndexOf", [probe] => some (.ok (.int (match Value.indexOf? probe items with
    | some i => Int64.ofNat i
    | none => -1)))
  | "Count", [] => some (.ok (.int (Int64.ofNat items.length)))
  | _, _ => none

/-- A method that only values of one kind have. -/
def kindMethod? (v : Value) (method : String) (args : List Value) :
    Option (Except EvalError Value) :=
  match v with
  | .string s => stringMethod? s method args
  | .dateTime t => dateTimeMethod? t method args
  | .list items => listMethod? items method args
  | _ => none

/-- A method of a value other than null. -/
def valueMethod? (v : Value) (method : String) (args : List Value) :
    Option (Except EvalError Value) :=
  match method, args with
  | "ToString", [] => some (.ok (.string v.text))
  | "Equals", [w] => some (.ok (.bool (v.equals w)))
  | "CompareTo", [w] => some (match v.compare? w with
    | some o => .ok (.int (orderNumber o))
    | none => .error (.typeMismatch .methodNotComparable))
  | "GetValueOrDefault", [_] => some (.ok v)
  | _, _ => kindMethod? v method args

/-! ### Methods of types -/

/-- Apply a function to a decimal or a float; an integer stays as it is. -/
def mapNumber (v : Value) (onDecimal : Decimal → Decimal) (onFloat : Float → Float) :
    Except EvalError Value :=
  match v with
  | .decimal d => .ok (.decimal (onDecimal d))
  | .int n => .ok (.int n)
  | .float x => .ok (.float (onFloat x))
  | v => .error (.typeMismatch (.notNumber v.hostType))

/-- Round a float to decimal places, a half to the even neighbour. -/
def roundPlaces (x : Float) (places : Int) : Float :=
  let scale := Binary64.powInt 10.0 places
  Binary64.round .halfEven (x * scale) / scale

/-- A function on numbers. -/
def mathMethod? (method : String) (args : List Value) : Option (Except EvalError Value) :=
  let invalid (fault : ArgumentFault) : Except EvalError Value :=
    .error (.invalidArgument (.inCall "Math" method fault))
  match method, args with
  | "Abs", [.int n] => some (.ok (.int (if n < 0 then -n else n)))
  | "Abs", [v] => some (mapNumber v Decimal.abs Float.abs)
  | "Floor", [v] => some (mapNumber v Decimal.floor (Binary64.round .down))
  | "Ceiling", [v] => some (mapNumber v Decimal.ceil (Binary64.round .up))
  | "Round", [v] => some (mapNumber v (Decimal.roundTo · 0) (Binary64.round .halfEven))
  | "Round", [v, digits] => some <|
    match digits.asInt? with
    | some n =>
      if n < 0 then invalid .negativeDigits
      else
        -- the number of places is taken in 32 bits
        mapNumber v (Decimal.roundTo · (n.toInt.toNat % twoTo 32))
          (roundPlaces · (n.toInt.bmod (twoTo 32)))
    | none => invalid .negativeDigits
  | "Max", [a, b] => some <|
    match a.compare? b with
    | some o => .ok (if o = .lt then b else a)
    | none => invalid .notComparable
  | "Min", [a, b] => some <|
    match a.compare? b with
    | some o => .ok (if o = .lt then a else b)
    | none => invalid .notComparable
  | _, _ => none

/-- A function on texts. -/
def stringFunction? (method : String) (args : List Value) : Option (Except EvalError Value) :=
  match method, args with
  | "IsNullOrEmpty", [v] => some (.ok (.bool (match v with
    | .null => true
    | .string s => s.isEmpty
    | _ => false)))
  | "IsNullOrWhiteSpace", [v] => some (.ok (.bool (match v with
    | .null => true
    | .string s => s.toList.all Text.isBlank
    | _ => false)))
  | "Concat", parts =>
    some (.ok (.string (Text.join "" (parts.map fun v => if v.isNull then "" else v.text))))
  | "Join", [sep, .list items] => some (.ok (.string (Text.join sep.text (items.map Value.text))))
  | _, _ => none

/-- A function on lists. -/
def listFunction? (method : String) (args : List Value) : Option (Except EvalError Value) :=
  match method, args with
  | "Contains", [.list items, probe] => some (.ok (.bool (Value.contained probe items)))
  | "Count", [.list items] => some (.ok (.int (Int64.ofNat items.length)))
  | "Any", [.list items] => some (.ok (.bool !items.isEmpty))
  | _, _ => none

/-- The value that a text denotes, for a type that has a notation. -/
def parseText? (owner : String) (s : String) : Option (Except ArgumentFault Value) :=
  let orFault {α : Type} (fault : ArgumentFault) (wrap : α → Value) :
      Option α → Except ArgumentFault Value
    | some a => .ok (wrap a)
    | none => .error fault
  let trimmed := Text.trim s.toList
  match owner with
  | "Guid" => some (orFault .malformedGuid .guid (Guid.ofText? s))
  | "DateTime" => some (orFault .unrecognizedDateTime .dateTime (DateTime.parse? s))
  | "Int32" | "Int64" => some (match Text.integer trimmed with
    | .ok n => .ok (.int (Int64.ofInt n))
    | .error e => .error (.malformedInteger e))
  | "Decimal" =>
    some (orFault .malformedDecimal .decimal (Decimal.ofText? (String.ofList trimmed)))
  | "Double" => some (match FloatReading.ofText trimmed with
    | .ok x => .ok (.float x)
    | .error e => .error (.malformedFloat e))
  | _ => none

/-- The span of so many units. -/
def spanOf (unitTicks : Float) (method : String) (args : List Value) : Except EvalError Value :=
  (Arguments.float method args 0).map fun x =>
    .timeSpan ⟨Binary64.toInt64 (Binary64.round .halfAway (x * unitTicks))⟩

/-- A function that makes a span. -/
def spanFunction? (method : String) (args : List Value) : Option (Except EvalError Value) :=
  let second := TimeSpan.ticksPerSecond.toFloat
  match method, args with
  | "FromTicks", [v] => some (match v.asInt? with
    | some n => .ok (.timeSpan ⟨n⟩)
    | none => .error (.invalidArgument (.inCall "TimeSpan" method .ticksNotInteger)))
  | "FromMilliseconds", _ => some (spanOf TimeSpan.ticksPerMillisecond.toFloat method args)
  | "FromSeconds", _ => some (spanOf second method args)
  | "FromMinutes", _ => some (spanOf (second * 60.0) method args)
  | "FromHours", _ => some (spanOf (second * 3600.0) method args)
  | "FromDays", _ => some (spanOf (second * 86400.0) method args)
  | _, _ => none

/-- A function that converts. -/
def convertFunction? (method : String) (args : List Value) : Option (Except EvalError Value) :=
  match args with
  | [v] => match method with
    | "ToInt16" => some (v.convert (.int .int16))
    | "ToInt32" => some (v.convert (.int .int32))
    | "ToInt64" => some (v.convert (.int .int64))
    | "ToDecimal" => some (v.convert .decimal)
    | "ToDouble" => some (v.convert .float64)
    | "ToBoolean" => some (v.convert .bool)
    | "ToString" => some (.ok (.string v.text))
    | _ => none
  | _ => none

/-- A function that belongs to a type; `fresh` is the identifier that answers this call if it asks
for a new one. -/
def typeMethod? (fresh : Guid) (owner method : String) (args : List Value) :
    Option (Except EvalError Value) :=
  match method, args with
  | "Parse", [.string s] =>
    (parseText? owner s).map fun r => match r with
      | .ok v => .ok v
      | .error fault => .error (.invalidArgument (.inCall owner method fault))
  | _, _ =>
    match owner with
    | "String" => stringFunction? method args
    | "Math" => mathMethod? method args
    | "Enumerable" => listFunction? method args
    | "Guid" => match method, args with
      | "NewGuid", [] => some (.ok (.guid fresh))
      | _, _ => none
    | "TimeSpan" => spanFunction? method args
    | "Convert" => convertFunction? method args
    | _ => none

/-- Whether a call of a function of a type asks for a new identifier. -/
def asksForGuid (owner : HostType) (method : String) (args : List Value) : Bool :=
  owner.text == "Guid" && method == "NewGuid" && args.isEmpty

/-- A built-in method, of a value or of a type. -/
def callMethod? (fresh : Guid) (owner : HostType) (target : Option Value) (method : String)
    (args : List Value) : Option (Except EvalError Value) :=
  match target with
  | some .null =>
    if method = "GetValueOrDefault" then some (.ok (args.head?.getD .null))
    else some (.error (.nullReference (.calling method)))
  | some v => valueMethod? v method args
  | none => typeMethod? fresh owner.text method args

end QueryClause
