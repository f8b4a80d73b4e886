import QueryClause.Decimal.Arithmetic
import QueryClause.Number.Power

/-!
# Reading decimals

`Decimal.ofText?` reads a sign, digits with at most one point, and underscores after digits.  Places
beyond the 28th, and digits behind the point that do not fit the mantissa, are rounded off by the
first of them, a five or more upward, and what follows them is not looked at.
`Decimal.ofScientific?` reads a decimal with an exponent.
-/

namespace QueryClause.Decimal

/-- What has been read of a decimal. -/
structure Reading where
  mantissa : Nat
  /-- The places so far; meaningful once the point has been seen. -/
  scale : Nat
  /-- The point has been seen. -/
  pointed : Bool
  /-- A digit has been seen. -/
  started : Bool

/-- Round the last digit by the character that follows it and stop there. -/
def Reading.roundOff? (r : Reading) (c : Char) : Option Reading :=
  match Text.digit? c with
  | some d =>
    if d < 5 then some r
    else if r.mantissa + 1 < twoTo 96 then some { r with mantissa := r.mantissa + 1 }
    else if r.scale = 0 then none
    else some { r with mantissa := (r.mantissa + 1 + 4) / 10, scale := r.scale - 1 }
  | none => if c = '_' || (c = '.' && r.pointed) then some r else none

/-- Read on; `long` tells whether the text is long enough for the limits to matter. -/
def Reading.run? (long : Bool) (r : Reading) : List Char → Option Reading
  | [] => if r.started then some r else none
  | c :: rest =>
    if long && r.pointed && r.scale = 28 then r.roundOff? c
    else
      match Text.digit? c with
      | some d =>
        let next := r.mantissa * 10 + d
        if next < twoTo 96 then
          run? long ⟨next, if r.pointed then r.scale + 1 else r.scale, r.pointed, true⟩ rest
        else if r.pointed then r.roundOff? c
        else none
      | none =>
        if c = '.' && !r.pointed then run? long { r with pointed := true } rest
        else if c = '_' && r.started then run? long r rest
        else none

/-- The decimal that a text denotes. -/
def ofText? (s : String) : Option Decimal :=
  let (negative, body) := match s.toList with
    | '-' :: t => (true, t)
    | '+' :: t => (false, t)
    | t => (false, t)
  match Reading.run? (18 ≤ s.utf8ByteSize) ⟨0, 0, false, false⟩ body with
  | some r => ofParts? negative r.mantissa r.scale
  | none => none

/-- The value without trailing zeros behind the point. -/
def normalize (d : Decimal) : Decimal :=
  let rec drop : Nat → Nat → Nat × Nat
    | n, 0 => (n, 0)
    | n, k + 1 => if n % 10 = 0 then drop (n / 10) k else (n, k + 1)
  let (n, k) := drop d.mantissa d.scale
  (ofParts? d.negative n k).getD d

/-- The value times `10 ^ k`, multiplied by at most `10 ^ 19` at once. -/
def timesTen? (d : Decimal) (k : Nat) : Option Decimal :=
  let times (d : Decimal) (k : Nat) := (ofParts? false (tenTo k) 0).bind (mul? d)
  if 19 < k then (times d 19).bind fun d => times d (k - 19) else times d k

/-- The unsigned 32-bit number that an exponent denotes, after an optional plus sign. -/
def exponent? (s : List Char) : Option Nat :=
  let body := match s with
    | '+' :: t => t
    | t => t
  if body.isEmpty || !body.all Char.isDigit then none
  else
    let n := Nat.ofDigitChars 10 body 0
    if n < twoTo 32 then some n else none

/-- The decimal that a text with an exponent denotes. -/
def ofScientific? (s : String) : Option Decimal := do
  let isMark (c : Char) : Bool := c = 'e' || c = 'E'
  let base := s.toList.takeWhile fun c => !isMark c
  let _ :: exponent := s.toList.dropWhile fun c => !isMark c | none
  let d ← ofText? (String.ofList base)
  match exponent with
  | '-' :: t =>
    let k ← exponent? t
    if h : d.scale + k ≤ 28 then some { d with scale := d.scale + k, scale_le := h } else none
  | t =>
    let k ← exponent? t
    if k ≤ d.scale then
      some { d with scale := d.scale - k, scale_le := Nat.le_trans (Nat.sub_le _ _) d.scale_le }
    else if 28 < k then none
    else (timesTen? d k).map normalize

example : (ofScientific? "1.2E3").map text = some "1200" := by decide

end QueryClause.Decimal
