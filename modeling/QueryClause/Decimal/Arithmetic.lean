import QueryClause.Decimal.Basic
import QueryClause.Number.Power

/-!
# Decimal arithmetic

Sums and products are exact numbers brought into range by `Decimal.nearest?`, which gives up as few
places as it can and rounds a half to the even neighbour.  Quotients grow by up to nine places at a
time until nothing is left over or no further place fits; a quotient that was not exact from the
start then sheds trailing zeros.  `none` means that the result is out of range.
-/

namespace QueryClause.Decimal

/-- The quotient rounded to the nearest whole number, a half to the even one; `more` tells that a
little was left over before the division. -/
def halfEven (num den : Nat) (more : Bool) : Nat :=
  let q := num / den
  let rest := num % den
  if den < 2 * rest || (2 * rest == den && (more || q % 2 == 1)) then q + 1 else q

/-- The decimal with most places among those nearest to `± n / 10 ^ scale`. -/
def nearest? (negative : Bool) (n scale : Nat) : Option Decimal :=
  (List.range (scale + 1)).findSome? fun k =>
    ofParts? negative (halfEven n (tenTo k) false) (scale - k)

/-- The sum; a zero gives way to the other operand with its places. -/
def add? (a b : Decimal) : Option Decimal :=
  if a.isZero then some b
  else if b.isZero then some a
  else
    let s := max a.scale b.scale
    let sum := a.unitsAt s + b.unitsAt s
    nearest? (sum < 0) sum.natAbs s

/-- The difference. -/
def sub? (a b : Decimal) : Option Decimal := add? a (if b.isZero then b else b.neg)

/-- The product; one that is far below the last place is a zero without places. -/
def mul? (a b : Decimal) : Option Decimal :=
  let short := a.mantissa < twoTo 32 && b.mantissa < twoTo 32
  if a.isZero || b.isZero || (short && 47 < a.scale + b.scale) then some zero
  else nearest? (a.negative != b.negative) (a.mantissa * b.mantissa) (a.scale + b.scale)

/-! ### Division -/

/-- A quotient under construction: its digits and the places reached, which may be negative. -/
structure Quotient where
  digits : Nat
  places : Int
  deriving DecidableEq, Repr

/-- The largest number of places up to `most` by which `q` can grow within 96 bits. -/
def room (q : Nat) : Nat → Nat
  | 0 => 0
  | k + 1 => if q * tenTo (k + 1) < twoTo 96 then k + 1 else room q k

/-- Bring a quotient one unit too long back into range by giving up a place. -/
def shorten? (q : Quotient) (more : Bool) : Option Quotient :=
  if q.places ≤ 0 then none else some ⟨halfEven q.digits 10 more, q.places - 1⟩

/-- Round the last place by what is left over. -/
def roundOff? (q : Quotient) (rest divisor : Nat) : Option Quotient :=
  if divisor < 2 * rest || (2 * rest == divisor && q.digits % 2 == 1) then
    if q.digits + 1 < twoTo 96 then some { q with digits := q.digits + 1 }
    else shorten? { q with digits := q.digits + 1 } true
  else some q

/-- Extend the quotient until nothing is left over and no place is missing, or no place fits.  Each
step adds a place, and there are at most 56 to add. -/
def extend? (divisor : Nat) : Nat → Quotient → Nat → Option Quotient
  | 0, q, _ => some q
  | fuel + 1, q, rest =>
    if rest = 0 then
      if 0 ≤ q.places then some q
      else
        let k := min 9 q.places.natAbs
        let digits := q.digits * tenTo k
        if digits < twoTo 96 then extend? divisor fuel ⟨digits, q.places + k⟩ 0 else none
    else
      let k := room q.digits (min 9 (28 - q.places).toNat)
      if k < 9 && k + q.places < 0 then none
      else if k = 0 then roundOff? q rest divisor
      else
        let scaled := rest * tenTo k
        let next : Quotient := ⟨q.digits * tenTo k + scaled / divisor, q.places + k⟩
        if next.digits < twoTo 96 then extend? divisor fuel next (scaled % divisor)
        else shorten? next (scaled % divisor != 0)

/-- Drop `k` places if the digits allow it. -/
def shed (k : Nat) (q : Quotient) : Quotient :=
  if k ≤ q.places && q.digits % tenTo k = 0 then ⟨q.digits / tenTo k, q.places - k⟩ else q

/-- Drop eight places if the digits allow it and are a multiple of `2 ^ 32`. -/
def shedEight (q : Quotient) : Quotient := if q.digits % twoTo 32 = 0 then shed 8 q else q

/-- Shed places that hold only zeros: eights as long as they go, then four, two and one. -/
def shedZeros (q : Quotient) : Quotient :=
  shed 1 (shed 2 (shed 4 (shedEight (shedEight (shedEight q)))))

/-- The quotient, for a divisor other than zero. -/
def div? (a b : Decimal) : Option Decimal :=
  if a.isZero then some zero
  else
    let rest := a.mantissa % b.mantissa
    let start : Quotient := ⟨a.mantissa / b.mantissa, (a.scale : Int) - b.scale⟩
    match extend? b.mantissa 57 start rest with
    | none => none
    | some q =>
      let q := if rest = 0 then q else shedZeros q
      ofParts? (a.negative != b.negative) q.digits q.places.toNat

/-- The remainder of the division toward zero, for a divisor other than zero. -/
def rem? (a b : Decimal) : Option Decimal :=
  if a.isZero then some zero
  else
    match compare a.abs b.abs with
    | .eq => some zero
    | .lt => some a
    | .gt =>
      let s := max a.scale b.scale
      ofParts? a.negative ((a.unitsAt s).natAbs % (b.unitsAt s).natAbs) s

end QueryClause.Decimal
