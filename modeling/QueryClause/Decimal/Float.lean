import QueryClause.Decimal.Rounding
import QueryClause.Number.Binary64
import QueryClause.Number.Power

/-!
# Decimals and floats

`Decimal.toFloat` adds the whole part and the places as floats and rounds the sum at the last
place. `Decimal.ofFloat?` trades the binary exponent of a float for a decimal one, within 96 bits,
and keeps about sixteen digits.
-/

namespace QueryClause.Decimal

/-- The float that stands for the decimal. -/
def toFloat (d : Decimal) : Float :=
  let whole := Binary64.whole false d.trunc.mantissa
  let size :=
    if d.scale = 0 then whole
    else
      let fraction :=
        Binary64.whole false (d.mantissa % tenTo d.scale) / Binary64.whole false (tenTo d.scale)
      if fraction == 0.0 then whole
      else
        let unit := Binary64.powInt 10.0 d.scale
        Binary64.round .halfAway ((whole + fraction) * unit) / unit
  if d.negative then -size else size

/-- A mantissa with a power of ten. -/
structure Scaled where
  mantissa : Nat
  tens : Int

/-- Multiply by `2 ^ -n`, as `5 ^ n / 10 ^ n`; halves the mantissa where a factor five is too much.
-/
def withoutHalves : Nat → Scaled → Scaled
  | 0, v => v
  | n + 1, v =>
    if v.mantissa % 2 = 0 || twoTo 96 ≤ v.mantissa * 5 then
      withoutHalves n ⟨v.mantissa / 2, v.tens + 1⟩
    else withoutHalves n ⟨v.mantissa * 5, v.tens⟩

/-- Multiply by `2 ^ n`, as `10 ^ n / 5 ^ n`; divides by five where the mantissa cannot double. -/
def withoutDoubles : Nat → Scaled → Scaled
  | 0, v => v
  | n + 1, v =>
    if v.mantissa < twoTo 95 then withoutDoubles n ⟨v.mantissa * 2, v.tens - 1⟩
    else withoutDoubles n ⟨v.mantissa / 5, v.tens⟩

/-- Drop the last digit, a five or more upward. -/
def dropDigit (v : Scaled) : Scaled :=
  ⟨v.mantissa / 10 + (if 5 ≤ v.mantissa % 10 then 1 else 0), v.tens + 1⟩

/-- Drop digits until there are at most 28 places; a mantissa that vanishes is zero. -/
def limitPlaces : Nat → Scaled → Scaled
  | 0, v => v
  | n + 1, v =>
    if v.tens < -28 then
      if v.mantissa / 10 = 0 then ⟨0, 0⟩ else limitPlaces n (dropDigit v)
    else v

/-- Drop digits behind the point until the mantissa has at most 52 bits. -/
def limitDigits : Nat → Scaled → Scaled
  | 0, v => v
  | n + 1, v => if v.tens < 0 && twoTo 52 ≤ v.mantissa then limitDigits n (dropDigit v) else v

/-- Drop trailing zeros behind the point. -/
def dropZeros : Nat → Scaled → Scaled
  | 0, v => v
  | n + 1, v =>
    if v.tens < 0 && v.mantissa % 10 = 0 then dropZeros n ⟨v.mantissa / 10, v.tens + 1⟩ else v

/-- The decimal that stands for a float, if it is finite and in range. -/
def ofFloat? (x : Float) : Option Decimal :=
  match Binary64.ofFloat x with
  | .finite negative m e =>
    if m = 0 then some { zero with negative }
    else
      let v : Scaled :=
        if e < 0 then withoutHalves e.natAbs ⟨m, e⟩ else withoutDoubles e.natAbs ⟨m, e⟩
      let v : Scaled := if 0 < v.tens then ⟨v.mantissa * tenTo v.tens.toNat, 0⟩ else v
      let v := dropZeros 28 (limitDigits 28 (limitPlaces v.tens.natAbs v))
      (ofParts? false v.mantissa v.tens.natAbs).map fun d => { d with negative }
  | _ => none

end QueryClause.Decimal
