import QueryClause.Json.Number
import QueryClause.Text.Hex

/-!
# Reading JSON

A text is cut into tokens by `JsonReader.scan`, which goes through its characters once, and the
tokens drive a machine with a stack of open arrays and objects (`JsonReader.step`).  `Json.ofText?`
runs both; it refuses texts that nest more than 127 deep.
-/

namespace QueryClause.JsonReader

/-- A lexical unit; `atom` is a string, a number or a word. -/
inductive Token where
  | openArray
  | closeArray
  | openObject
  | closeObject
  | comma
  | colon
  | atom (v : Json)

/-! ### Strings -/

/-- A unit of a string literal: a character, or a 16-bit unit written with its number. -/
inductive StringUnit where
  | char (c : Char)
  | code (n : Nat)

/-- The character that a letter after a backslash stands for. -/
def shortEscape? (c : Char) : Option Char :=
  match c with
  | '"' => some '"'
  | '\\' => some '\\'
  | '/' => some '/'
  | 'b' => some '\x08'
  | 'f' => some '\x0c'
  | 'n' => some '\n'
  | 'r' => some '\r'
  | 't' => some '\t'
  | _ => none

/-- Resolve the escapes between the quotes of a literal. -/
def unitsOf : List Char → Option (List StringUnit)
  | [] => some []
  | '\\' :: 'u' :: a :: b :: c :: d :: rest => do
    let n := (← [a, b, c, d].mapM Text.hexDigit?).foldl (fun n d => 16 * n + d) 0
    return .code n :: (← unitsOf rest)
  | '\\' :: c :: rest => do
    let e ← shortEscape? c
    return .char e :: (← unitsOf rest)
  | c :: rest =>
    if c = '\\' || c.toNat < 32 then none else (unitsOf rest).map (.char c :: ·)

/-- Put the characters together; two surrogates make one character, and none stands alone. -/
def charsOf : List StringUnit → Option (List Char)
  | [] => some []
  | .char c :: rest => (charsOf rest).map (c :: ·)
  | .code n :: rest =>
    if n < 0xD800 || 0xE000 ≤ n then (charsOf rest).map (Char.ofNat n :: ·)
    else
      match rest with
      | .code m :: rest =>
        if n < 0xDC00 && 0xDC00 ≤ m && m < 0xE000 then
          (charsOf rest).map (Char.ofNat (0x10000 + (n - 0xD800) * 0x400 + (m - 0xDC00)) :: ·)
        else none
      | _ => none

/-- The string that the text between two quotes denotes. -/
def string? (raw : List Char) : Option String :=
  ((unitsOf raw).bind charsOf).map String.ofList

/-! ### Tokens -/

/-- Where the scanner stands; what it has collected is in reverse. -/
inductive Mode where
  | between
  /-- Inside a string literal. -/
  | string (raw : List Char)
  /-- After a backslash inside a string literal. -/
  | escape (raw : List Char)
  /-- Inside a number or a word. -/
  | bare (raw : List Char)

/-- The value of a number or a word. -/
def bareValue? (s : List Char) : Option Json :=
  if s = "null".toList then some .null
  else if s = "true".toList then some (.bool true)
  else if s = "false".toList then some (.bool false)
  else JsonNumber.ofText? s

/-- The tokens that a character outside of a string literal makes, and what comes next. -/
def between (c : Char) : List Token × Mode :=
  match c with
  | ' ' | '\n' | '\r' | '\t' => ([], .between)
  | '[' => ([.openArray], .between)
  | ']' => ([.closeArray], .between)
  | '\x7b' => ([.openObject], .between)
  | '\x7d' => ([.closeObject], .between)
  | ',' => ([.comma], .between)
  | ':' => ([.colon], .between)
  | '"' => ([], .string [])
  | _ => ([], .bare [c])

/-- Whether a character ends a number or a word. -/
def endsBare (c : Char) : Bool :=
  match (between c).2 with
  | .bare _ => false
  | _ => true

/-- Cut a text into tokens. -/
def scan : Mode → List Char → Option (List Token)
  | .between, [] => some []
  | .bare raw, [] => (bareValue? raw.reverse).map fun v => [.atom v]
  | _, [] => none
  | .between, c :: rest => (scan (between c).2 rest).map ((between c).1 ++ ·)
  | .string raw, c :: rest =>
    if c = '"' then do
      let s ← string? raw.reverse
      return .atom (.string s) :: (← scan .between rest)
    else if c = '\\' then scan (.escape (c :: raw)) rest
    else scan (.string (c :: raw)) rest
  | .escape raw, c :: rest => scan (.string (c :: raw)) rest
  | .bare raw, c :: rest =>
    if endsBare c then do
      let v ← bareValue? raw.reverse
      return .atom v :: (between c).1 ++ (← scan (between c).2 rest)
    else scan (.bare (c :: raw)) rest

/-! ### Values -/

/-- An array or object that is still open; its content so far is in reverse. -/
inductive Frame where
  | array (items : List Json)
  | object (members : List (String × Json)) (key : String)

/-- What may come next, inside the open containers. -/
inductive State where
  /-- A value. -/
  | value (outer : List Frame)
  /-- The first item of an array, or its end. -/
  | arrayStart (outer : List Frame)
  /-- A comma, or the end of an array. -/
  | arrayNext (items : List Json) (outer : List Frame)
  /-- The first name of an object, or its end. -/
  | objectStart (outer : List Frame)
  /-- A name. -/
  | name (members : List (String × Json)) (outer : List Frame)
  /-- The colon after a name. -/
  | colon (members : List (String × Json)) (key : String) (outer : List Frame)
  /-- A comma, or the end of an object. -/
  | objectNext (members : List (String × Json)) (outer : List Frame)
  /-- Nothing. -/
  | done (v : Json)

/-- Hand a finished value to the container around it. -/
def deliver (v : Json) : List Frame → State
  | [] => .done v
  | .array items :: outer => .arrayNext (v :: items) outer
  | .object members key :: outer => .objectNext ((key, v) :: members) outer

/-- Begin a value. -/
def begin? (outer : List Frame) : Token → Option State
  | .atom v => some (deliver v outer)
  | .openArray => if outer.length < 127 then some (.arrayStart outer) else none
  | .openObject => if outer.length < 127 then some (.objectStart outer) else none
  | _ => none

/-- Take one token. -/
def step : State → Token → Option State
  | .value outer, t => begin? outer t
  | .arrayStart outer, .closeArray => some (deliver (.array []) outer)
  | .arrayStart outer, t => begin? (.array [] :: outer) t
  | .arrayNext items outer, .comma => some (.value (.array items :: outer))
  | .arrayNext items outer, .closeArray => some (deliver (.array items.reverse) outer)
  | .objectStart outer, .closeObject => some (deliver (.object []) outer)
  | .objectStart outer, .atom (.string key) => some (.colon [] key outer)
  | .name members outer, .atom (.string key) => some (.colon members key outer)
  | .colon members key outer, .colon => some (.value (.object members key :: outer))
  | .objectNext members outer, .comma => some (.name members outer)
  | .objectNext members outer, .closeObject => some (deliver (.object members.reverse) outer)
  | _, _ => none

/-- Take all tokens. -/
def run (s : State) : List Token → Option State
  | [] => some s
  | t :: rest => (step s t).bind fun next => run next rest

end JsonReader

open JsonReader in
/-- The value that a text denotes. -/
def Json.ofText? (s : String) : Option Json :=
  match (scan .between s.toList).bind (run (.value [])) with
  | some (.done v) => some v
  | _ => none

end QueryClause
