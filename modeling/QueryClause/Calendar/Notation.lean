import QueryClause.Calendar.DateTime
import QueryClause.Number.Power
import QueryClause.Text.Blank
import QueryClause.Text.Integer

/-!
# Notation of instants

An instant is written year first.  `DateTime.text` is the plain form, with a blank before the time
and milliseconds where they count; `DateTime.isoText` is the exact form, with a `T` and as many
groups of three digits of the second as are needed.

Both are read through patterns, lists of `Piece`s: `DateTime.parse?` accepts the plain form, the
same with a `T`, and a date alone, and `DateTime.ofIso?` the exact form with blanks after its
numbers.
-/

namespace QueryClause

/-- The year with four digits or more, and with a sign outside of the years 0 to 9999. -/
def Calendar.yearText (y : Int) : String :=
  if 0 ≤ y && y ≤ 9999 then Text.padded 4 y.natAbs
  else (if y < 0 then "-" else "+") ++ Text.padded 4 y.natAbs

/-- Year, month and day with hyphens between them. -/
def Date.text (d : Date) : String :=
  let c := d.civil
  Calendar.yearText c.year ++ "-" ++ Text.padded 2 c.month ++ "-" ++ Text.padded 2 c.day

namespace TimeOfDay

/-- Hour, minute and second with colons between them; a leap second is number 60. -/
def clockText (t : TimeOfDay) : String :=
  Text.padded 2 t.hour ++ ":" ++ Text.padded 2 t.minute ++ ":" ++
    Text.padded 2 (t.second + t.nanos / nanosPerSecond)

/-- A fraction of a second with three, six or nine digits, or nothing. -/
def fractionText (t : TimeOfDay) : String :=
  let n := t.nanos % nanosPerSecond
  if n = 0 then ""
  else if n % 1000000 = 0 then "." ++ Text.padded 3 (n / 1000000)
  else if n % 1000 = 0 then "." ++ Text.padded 6 (n / 1000)
  else "." ++ Text.padded 9 n

end TimeOfDay

namespace DateTime

/-- The plain form; it drops what is less than a millisecond. -/
def text (t : DateTime) : String :=
  let millis := t.time.nanos / 1000000
  t.date.text ++ " " ++ t.time.clockText ++
    if millis = 0 then "" else "." ++ Text.padded 3 (millis % 1000)

/-- The exact form. -/
def isoText (t : DateTime) : String :=
  t.date.text ++ "T" ++ t.time.clockText ++ t.time.fractionText

end DateTime

/-! ### Reading -/

namespace Calendar

/-- The parts of an instant as they have been read. -/
structure Fields where
  year : Int := 0
  month : Nat := 0
  day : Nat := 0
  hour : Nat := 0
  minute : Nat := 0
  second : Nat := 0
  nanos : Nat := 0
  deriving Repr

/-- What a pattern asks for at one place. -/
inductive Piece where
  /-- A year: a sign and digits, or at most four digits. -/
  | year
  /-- A number of at most two digits, and where it goes. -/
  | number (store : Fields → Nat → Fields)
  /-- An optional fraction of a second; digits after the ninth are dropped. -/
  | fraction
  /-- The character itself. -/
  | mark (c : Char)
  /-- Blanks, as many as there are. -/
  | blanks

/-- A number of at least one and at most `width` digits, and the rest. -/
def number? (width : Nat) (s : List Char) : Option (Nat × List Char) :=
  let ds := (s.take width).takeWhile Char.isDigit
  if ds.isEmpty then none else some (Nat.ofDigitChars 10 ds 0, s.drop ds.length)

/-- Read what one piece asks for. -/
def Piece.read? (f : Fields) (s : List Char) : Piece → Option (Fields × List Char)
  | year =>
    let (sign, width, body) : Int × Nat × List Char := match Text.trimStart s with
      | '-' :: t => (-1, t.length, t)
      | '+' :: t => (1, t.length, t)
      | t => (1, 4, t)
    (number? width body).map fun (n, rest) => ({ f with year := sign * n }, rest)
  | number store => (number? 2 (Text.trimStart s)).map fun (n, rest) => (store f n, rest)
  | fraction =>
    match s with
    | '.' :: t =>
      (number? 9 t).map fun (n, rest) =>
        ({ f with nanos := n * tenTo (9 - (t.length - rest.length)) }, rest.dropWhile Char.isDigit)
    | _ => some (f, s)
  | mark c =>
    match s with
    | d :: t => if d = c then some (f, t) else none
    | [] => none
  | blanks => some (f, Text.trimStart s)

/-- Read a whole text by a pattern. -/
def readAll? (f : Fields) (s : List Char) : List Piece → Option Fields
  | [] => if s.isEmpty then some f else none
  | p :: rest =>
    match p.read? f s with
    | some (g, t) => readAll? g t rest
    | none => none

/-- The instant with the given parts, if there is one; second 60 is a leap second. -/
def Fields.instant? (f : Fields) : Option DateTime :=
  match Date.ofCivil? ⟨f.year, f.month, f.day⟩ with
  | none => none
  | some date =>
    let (second, nanos) :=
      if f.second = 60 then (59, nanosPerSecond + f.nanos) else (f.second, f.nanos)
    (TimeOfDay.ofParts? f.hour f.minute second nanos).map fun time => ⟨date, time⟩

/-- A date; each number is followed by `gap`. -/
def datePattern (gap : List Piece) : List Piece :=
  [.year] ++ gap ++ [.mark '-', .number fun f n => { f with month := n }] ++ gap ++
    [.mark '-', .number fun f n => { f with day := n }]

/-- A time of day; hour and minute are followed by `gap`. -/
def clockPattern (gap : List Piece) : List Piece :=
  [.number fun f n => { f with hour := n }] ++ gap ++
    [.mark ':', .number fun f n => { f with minute := n }] ++ gap ++
    [.mark ':', .number fun f n => { f with second := n }, .fraction]

end Calendar

namespace DateTime

open Calendar

/-- The instant that a text denotes by a pattern. -/
def read? (pattern : List Piece) (s : String) : Option DateTime :=
  (readAll? {} s.toList pattern).bind Fields.instant?

/-- Read the plain form, the form with a `T`, or a date alone. -/
def parse? (s : String) : Option DateTime :=
  (read? (datePattern [] ++ [.blanks] ++ clockPattern []) s).or <|
    (read? (datePattern [] ++ [.mark 'T'] ++ clockPattern []) s).or <|
      read? (datePattern []) s

/-- Read the exact form. -/
def ofIso? (s : String) : Option DateTime :=
  let gap := [Piece.blanks]
  read? (datePattern gap ++ gap ++ [.mark 'T'] ++ clockPattern gap ++ gap) s

example : (ofIso? "2016-12-31T23:59:60.5").map isoText = some "2016-12-31T23:59:60.500" := by
  decide

end DateTime

end QueryClause
