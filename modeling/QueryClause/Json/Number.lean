import QueryClause.Json.Basic
import QueryClause.Number.FloatReading
import QueryClause.Number.Power

/-!
# JSON numbers

`JsonNumber.ofText?` reads a number.  A literal without fraction and exponent is a whole number if
it fits 64 bits, signed or unsigned.  Any other is a float: the digits are gathered in an unsigned
64-bit number as far as they fit, and a single product or quotient with a power of ten brings it to
scale, so the result may be a little off the nearest float.  A number beyond the range of floats is
infinite.
-/

namespace QueryClause.JsonNumber

/-- Append digits to a number as long as it stays below the 64th power of two; the number reached,
and how many digits were taken. -/
def absorb (n : Nat) : List Char → Nat × Nat
  | [] => (n, 0)
  | c :: rest =>
    let next := 10 * n + (c.toNat - '0'.toNat)
    if next < twoTo 64 then
      let (m, taken) := absorb next rest
      (m, taken + 1)
    else (n, 0)

/-- The powers of ten up to the 308th, as floats. -/
def powerOfTen (k : Nat) : Float := FloatReading.nearest 1 k

/-- Divide by `10 ^ places`, in steps of 308 places. -/
def scaleDown : Nat → Float → Nat → Float
  | 0, x, _ => x
  | fuel + 1, x, places =>
    if places ≤ 308 then x / powerOfTen places
    else if x == 0.0 then x
    else scaleDown fuel (x / powerOfTen 308) (places - 308)

/-- The float for `n * 10 ^ e`. -/
def scaled (n : Nat) (e : Int) : Float :=
  let x := Binary64.whole false n
  if 0 ≤ e then
    if e ≤ 308 then x * powerOfTen e.toNat else if n = 0 then 0.0 else 1.0 / 0.0
  else scaleDown 4 x e.natAbs

/-- The exponent that follows the mark, held to the range of signed 32-bit integers. -/
def exponent? (s : List Char) : Option Int :=
  let (negative, ds) := match s with
    | '-' :: t => (true, t)
    | '+' :: t => (false, t)
    | t => (false, t)
  if ds.isEmpty || !ds.all Char.isDigit then none
  else
    let n : Int := FloatReading.natOf ds
    some (if negative then -n else n)

/-- Digits before the point, digits after it and the exponent; the latter two are optional. -/
structure Literal where
  whole : List Char
  fraction : Option (List Char)
  exponent : Option Int

/-- Split an unsigned literal. -/
def Literal.ofText? (s : List Char) : Option Literal := do
  let (whole, rest) := FloatReading.splitDigits s
  if whole.isEmpty || (whole.head? == some '0' && 1 < whole.length) then none
  else
    let (fraction, rest) := match rest with
      | '.' :: t =>
        let (ds, rest) := FloatReading.splitDigits t
        (some ds, rest)
      | t => (none, t)
    if fraction == some [] then none
    else
      match rest with
      | [] => some ⟨whole, fraction, none⟩
      | c :: t =>
        if c = 'e' || c = 'E' then (exponent? t).map fun e => ⟨whole, fraction, some e⟩ else none

/-- The magnitude of a literal as a float. -/
def Literal.float (l : Literal) : Float :=
  let (n, taken) := absorb 0 l.whole
  let dropped : Int := (l.whole.length - taken : Nat)
  let (n, places) := absorb n (l.fraction.getD [])
  scaled n (dropped - places + l.exponent.getD 0)

/-- The number that a literal denotes. -/
def ofText? (s : List Char) : Option Json :=
  let (negative, body) := match s with
    | '-' :: t => (true, t)
    | t => (false, t)
  (Literal.ofText? body).map fun l =>
    let n := FloatReading.natOf l.whole
    let plain := l.fraction.isNone && l.exponent.isNone
    if plain && !negative && n < twoTo 64 then .int n
    else if plain && negative && 0 < n && n ≤ twoTo 63 then .int (-n)
    else .float (if negative then -l.float else l.float)

end QueryClause.JsonNumber
