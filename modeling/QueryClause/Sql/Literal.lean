import QueryClause.Host.Json
import QueryClause.Sql.Dialect

/-!
# Literals in SQL

`Target.literal` writes a host value as an SQL literal, by the type that it is declared with; the
null type stands for the type of the value itself.  Texts go into string literals
(`Dialect.quoteString`), lists and objects as JSON; numbers and truth values stay bare except in
Oracle.
-/

namespace QueryClause

namespace Dialect

/-- What a character becomes inside a string literal: a quote is doubled, and in MySQL a backslash
too. -/
def stringChar (d : Dialect) (c : Char) : List Char :=
  if c = '\'' then ['\'', '\''] else if d = mysql && c = '\\' then ['\\', '\\'] else [c]

/-- A string literal. -/
def quoteString (d : Dialect) (s : String) : String :=
  String.ofList ('\'' :: s.toList.flatMap d.stringChar ++ ['\''])

/-- Whether values declared with a type are written as string literals. -/
def shouldQuote (t : HostType) : Bool := !(t.isNumeric || t.underlying == .bool)

end Dialect

namespace Value

/-- The text of a number. -/
def numericText? : Value → Option String
  | int n => some (Text.ofInt n.toInt)
  | float x => some (FloatText.plain x)
  | decimal d => some d.text
  | enum _ n => some (Text.ofInt n.toInt)
  | _ => none

/-- A value whose declared type makes a bare number of it. -/
def bareNumber? (v : Value) (t : HostType) : Option String :=
  match if t.isFloating then v.numericText? else none with
  | some s => some s
  | none =>
    match if t.isInteger then v.asInt? else none with
    | some n => some (Text.ofInt n.toInt)
    | none =>
      match t, v with
      | .timeSpan, timeSpan s => some (Text.ofInt s.ticks.toInt)
      | .timeSpan, int n => some (Text.ofInt n.toInt)
      | _, _ => none

end Value

namespace Target

/-- A literal as all dialects write it that have no rule of their own for the value. -/
def commonLiteral (t : Target) (v : Value) (declared : HostType) : String :=
  if v.isNull then "NULL"
  else
    let type := match declared.underlying with
      | .null => v.hostType
      | type => type
    match v.bareNumber? type with
    | some s => s
    | none =>
      match v, type.enumType? with
      | .list items, _ => t.dialect.quoteString (Value.list items).toJson.text
      | .object name fields, _ => t.dialect.quoteString (Value.object name fields).toJson.text
      | .int n, some e => t.dialect.quoteString ((e.nameOf? n).getD (Text.ofInt n.toInt))
      | v, _ => if Dialect.shouldQuote type then t.dialect.quoteString v.text else v.text

/-- An instant in Oracle: a date alone where the time is midnight, and milliseconds where they
count. -/
def oracleTimestamp (t : Target) (i : DateTime) : String :=
  let millis := i.time.nanos / 1000000 != 0
  let (text, format) :=
    if i.time.seconds = 0 && !millis then (i.date.text, "YYYY-MM-DD")
    else (i.text, if millis then "YYYY-MM-DD HH24:MI:SS.FF3" else "YYYY-MM-DD HH24:MI:SS")
  "TO_TIMESTAMP(" ++ t.dialect.quoteString text ++ ", " ++ t.dialect.quoteString format ++ ")"

/-- The longest number that Oracle is sent. -/
def maxNumberLength : Nat := 20

/-- A literal in Oracle, where truth values and numbers with a fraction are string literals. -/
def oracleLiteral (t : Target) (v : Value) (declared : HostType) : String :=
  match v with
  | .null => "NULL"
  | .guid g =>
    if t.compactGuid then t.dialect.quoteString g.compact
    else "CAST('" ++ g.text ++ "' AS VARCHAR2(37))"
  | .dateTime i => t.oracleTimestamp i
  | .bool b => t.dialect.quoteString (if b then "1" else "0")
  | v =>
    let fractional := match declared.underlying, v with
      | .float32, _ | .float64, _ | .decimal, _ => true
      | .null, .float _ | .null, .decimal _ => true
      | _, _ => false
    match if fractional then v.numericText? else none with
    | some s => t.dialect.quoteString (String.ofList (s.toList.take maxNumberLength))
    | none => t.commonLiteral v declared

/-- An instant in SQL Server: no hyphens, and always milliseconds. -/
def serverTimestamp (t : Target) (i : DateTime) : String :=
  let c := i.date.civil
  t.dialect.quoteString <|
    Calendar.yearText c.year ++ Text.padded 2 c.month ++ Text.padded 2 c.day ++ " " ++
      i.time.clockText ++ "." ++ Text.padded 3 (i.time.nanos / 1000000 % 1000)

/-- A value as an SQL literal, by its declared type. -/
def literal (t : Target) (v : Value) (declared : HostType) : String :=
  match t.dialect, v with
  | .oracle, v => t.oracleLiteral v declared
  | .mysql, .bool b | .sqlite, .bool b | .sqlServer, .bool b => if b then "1" else "0"
  | .sqlServer, .dateTime i => t.serverTimestamp i
  | _, v => t.commonLiteral v declared

/-- A value as an SQL literal, by its own type. -/
def ownLiteral (t : Target) (v : Value) : String := t.literal v v.hostType

/-- The literal for a true column. -/
def trueLiteral (t : Target) : String := t.literal (.bool true) .bool

/-- The literal for a false column. -/
def falseLiteral (t : Target) : String := t.literal (.bool false) .bool

/-- A condition that always holds. -/
def trueCondition (t : Target) : String := "(" ++ t.trueLiteral ++ "=" ++ t.trueLiteral ++ ")"

/-- A condition that never holds. -/
def falseCondition (t : Target) : String := "(" ++ t.trueLiteral ++ "=" ++ t.falseLiteral ++ ")"

end Target

end QueryClause
