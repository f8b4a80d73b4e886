import QueryClause.Calendar.Date
import QueryClause.Number.FloatReading
import QueryClause.Number.Word64
import QueryClause.Text.Hex
import QueryClause.Toml.Basic

/-!
# Scalars of TOML

Numbers, dates and words are read as whole words (`TomlScalar.word?`); strings, which have
delimiters, are read from the front of a text and give the rest back.
-/

namespace QueryClause.TomlScalar

/-! ### Words -/

/-- Digits with single underscores between them. -/
def digitRun? (isDigit : Char → Bool) : List Char → Option (List Char)
  | [] => none
  | [c] => if isDigit c then some [c] else none
  | c :: '_' :: rest => if isDigit c then (digitRun? isDigit rest).map (c :: ·) else none
  | c :: rest => if isDigit c then (digitRun? isDigit rest).map (c :: ·) else none

/-- Split off a sign. -/
def splitSign (s : List Char) : Bool × List Char :=
  match s with
  | '-' :: t => (true, t)
  | '+' :: t => (false, t)
  | t => (false, t)

/-- Decimal digits without a leading zero. -/
def decimalRun? (s : List Char) : Option (List Char) :=
  (digitRun? Char.isDigit s).bind fun ds =>
    if ds.head? = some '0' && 1 < ds.length then none else some ds

/-- The number with the given digits in a base, if it has 64 bits. -/
def inBase? (base : Nat) (s : List Char) : Option Toml :=
  let isDigit (c : Char) : Bool := (Text.hexDigit? c).any (· < base)
  (digitRun? isDigit s).bind fun ds =>
    let n : Nat := ds.foldl (fun n c => base * n + (Text.hexDigit? c).getD 0) 0
    if Word64.fits n then some (.integer n) else none

/-- An integer. -/
def integer? (s : List Char) : Option Toml :=
  match s with
  | '0' :: 'x' :: t => inBase? 16 t
  | '0' :: 'o' :: t => inBase? 8 t
  | '0' :: 'b' :: t => inBase? 2 t
  | s =>
    let (negative, body) := splitSign s
    (decimalRun? body).bind fun ds =>
      let n : Int := FloatReading.natOf ds
      let n := if negative then -n else n
      if Word64.fits n then some (.integer n) else none

/-- The rest of a float after its whole part: a fraction, an exponent, or both. -/
def isFloatTail (s : List Char) : Bool :=
  let isExponent (t : List Char) : Bool := (digitRun? Char.isDigit (splitSign t).2).isSome
  match s with
  | '.' :: t =>
    let (fraction, rest) := t.span fun c => c.isDigit || c == '_'
    (digitRun? Char.isDigit fraction).isSome &&
      match rest with
      | [] => true
      | c :: t => (c == 'e' || c == 'E') && isExponent t
  | c :: t => (c == 'e' || c == 'E') && isExponent t
  | [] => false

/-- A float; one that is too large is refused. -/
def float? (s : List Char) : Option Toml :=
  let (negative, body) := splitSign s
  if body = "inf".toList || body = "nan".toList then some .float
  else
    let (whole, rest) := body.span fun c => c.isDigit || c == '_'
    if (decimalRun? whole).isSome && isFloatTail rest then
      match FloatReading.ofText (body.filter (· != '_')) with
      | .ok x => if negative || Binary64.isFinite x then some .float else none
      | .error _ => none
    else none

/-- A number of exactly `width` digits, and the rest. -/
def fixed? (width : Nat) (s : List Char) : Option (Nat × List Char) :=
  let ds := s.take width
  if ds.length = width && ds.all Char.isDigit then some (FloatReading.natOf ds, s.drop width)
  else none

/-- A character, and the rest. -/
def mark? (c : Char) : List Char → Option (List Char)
  | d :: t => if d = c then some t else none
  | [] => none

/-- A date, and the rest. -/
def date? (s : List Char) : Option (List Char) := do
  let (year, s) ← fixed? 4 s
  let (month, s) ← fixed? 2 (← mark? '-' s)
  let (day, s) ← fixed? 2 (← mark? '-' s)
  if Calendar.isCivil ⟨year, month, day⟩ then some s else none

/-- Hours and minutes, and the rest. -/
def clock? (s : List Char) : Option (List Char) := do
  let (hour, s) ← fixed? 2 s
  let (minute, s) ← fixed? 2 (← mark? ':' s)
  if hour < 24 && minute < 60 then some s else none

/-- A time of day with seconds, and the rest. -/
def time? (s : List Char) : Option (List Char) := do
  let (second, s) ← fixed? 2 (← mark? ':' (← clock? s))
  if 60 < second then none
  else
    match s with
    | '.' :: t =>
      let (ds, rest) := FloatReading.splitDigits t
      if ds.isEmpty then none else some rest
    | s => some s

/-- Nothing, or the distance from universal time. -/
def isOffset (s : List Char) : Bool :=
  match s with
  | [] | ['Z'] | ['z'] => true
  | '+' :: t | '-' :: t => clock? t == some []
  | _ => false

/-- A date, a time of day, or both. -/
def isDateTime (s : List Char) : Bool :=
  match date? s with
  | some [] => true
  | some (c :: t) => (c == 'T' || c == 't' || c == ' ') && (time? t).any isOffset
  | none => time? s == some []

/-- The value of a word. -/
def word? (s : List Char) : Option Toml :=
  if s = "true".toList then some (.boolean true)
  else if s = "false".toList then some (.boolean false)
  else if isDateTime s then some .dateTime
  else (integer? s).or (float? s)

/-- Whether a character can be part of a word. -/
def isWordChar (c : Char) : Bool := c.isAlphanum || "+-_.:".toList.contains c

/-- Split off a word; a date takes a time after a blank with it. -/
def splitWord (s : List Char) : List Char × List Char :=
  let (w, rest) := s.span isWordChar
  match rest with
  | ' ' :: t =>
    let (v, rest') := t.span isWordChar
    if date? w == some [] && (time? v).isSome then (w ++ ' ' :: v, rest') else (w, rest)
  | _ => (w, rest)

/-! ### Strings -/

/-- Whether a character may stand on a line of a string or of a comment. -/
def isPlain (c : Char) : Bool := c == '\t' || (32 ≤ c.toNat && c.toNat != 127)

/-- Whether the characters may stand in a string of several lines. -/
def areLines : List Char → Bool
  | [] => true
  | '\r' :: '\n' :: rest => areLines rest
  | c :: rest => (c == '\n' || isPlain c) && areLines rest

/-- Whether a character is a blank within a line. -/
def isGap (c : Char) : Bool := c == ' ' || c == '\t'

/-- A text after a line break at its front, if there is one. -/
def afterLineBreak? : List Char → Option (List Char)
  | '\n' :: rest => some rest
  | '\r' :: '\n' :: rest => some rest
  | _ => none

/-- Split at the closing quote; with `escapes`, a backslash protects the character after it. -/
def untilQuote? (quote : Char) (escapes : Bool) : List Char → Option (List Char × List Char)
  | [] => none
  | [c] => if c = quote then some ([], []) else none
  | c :: d :: rest =>
    if c = quote then some ([], d :: rest)
    else if escapes && c = '\\' then
      (untilQuote? quote escapes rest).map fun (s, t) => (c :: d :: s, t)
    else (untilQuote? quote escapes (d :: rest)).map fun (s, t) => (c :: s, t)

/-- Split at three closing quotes; up to two more before them belong to the string. -/
def untilQuotes? (quote : Char) (escapes : Bool) : List Char → Option (List Char × List Char)
  | a :: b :: c :: rest =>
    if a = quote && b = quote && c = quote then
      match rest with
      | d :: e :: t =>
        if d = quote && e = quote then some ([quote, quote], t)
        else if d = quote then some ([quote], e :: t)
        else some ([], rest)
      | [d] => if d = quote then some ([quote], []) else some ([], rest)
      | [] => some ([], [])
    else if escapes && a = '\\' then
      (untilQuotes? quote escapes (c :: rest)).map fun (s, t) => (a :: b :: s, t)
    else (untilQuotes? quote escapes (b :: c :: rest)).map fun (s, t) => (a :: s, t)
  | _ => none

/-- The character with a code point written in hexadecimal digits. -/
def codeChar? (ds : List Char) : Option Char := do
  let n := (← ds.mapM Text.hexDigit?).foldl (fun n d => 16 * n + d) 0
  if n.isValidChar then some (Char.ofNat n) else none

/-- The character that a letter after a backslash stands for. -/
def shortEscape? (c : Char) : Option Char :=
  match c with
  | 'b' => some '\x08'
  | 't' => some '\t'
  | 'n' => some '\n'
  | 'f' => some '\x0c'
  | 'r' => some '\r'
  | '"' => some '"'
  | '\\' => some '\\'
  | _ => none

/-- Resolve escapes.  A backslash at the end of a line takes the white space after it away; `skip`
tells that this is going on. -/
def unescape? (skip : Bool) : List Char → Option (List Char)
  | [] => some []
  | '\\' :: 'u' :: a :: b :: c :: d :: rest => do
    return (← codeChar? [a, b, c, d]) :: (← unescape? false rest)
  | '\\' :: 'U' :: a :: b :: c :: d :: e :: f :: g :: h :: rest => do
    return (← codeChar? [a, b, c, d, e, f, g, h]) :: (← unescape? false rest)
  | '\\' :: c :: rest =>
    if isGap c || c = '\n' || c = '\r' then
      if (afterLineBreak? ((c :: rest).dropWhile isGap)).isSome then unescape? true rest else none
    else do return (← shortEscape? c) :: (← unescape? false rest)
  | c :: rest =>
    if skip && (isGap c || c = '\n' || c = '\r') then unescape? true rest
    else if c = '\\' then none
    else (unescape? false rest).map (c :: ·)

/-- The content of a string from what stands between its quotes. -/
def content? (escapes : Bool) (valid : Bool) (raw : List Char) : Option String :=
  if !valid then none
  else if escapes then (unescape? false raw).map String.ofList
  else some (String.ofList raw)

/-- A string on one line, after the opening quote, and the rest. -/
def lineString? (quote : Char) (s : List Char) : Option (String × List Char) := do
  let escapes := quote == '"'
  let (raw, rest) ← untilQuote? quote escapes s
  return (← content? escapes (raw.all isPlain) raw, rest)

/-- A string of several lines, after the opening quotes, and the rest. -/
def linesString? (quote : Char) (s : List Char) : Option (String × List Char) := do
  let escapes := quote == '"'
  let (raw, rest) ← untilQuotes? quote escapes ((afterLineBreak? s).getD s)
  return (← content? escapes (areLines raw) raw, rest)

end QueryClause.TomlScalar
