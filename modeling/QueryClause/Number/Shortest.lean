import QueryClause.Number.Binary64
import QueryClause.Number.Power

/-!
# Shortest digits

`Shortest.digits` selects the decimal numeral of fewest digits among those that lie in the rounding
interval of a binary64 number, and of these the nearest to the number.  For one, two, and more
digits it tests the two neighbours of the number on the decimal grid with that many digits; the
first grid with a hit decides.
-/

namespace QueryClause

/-- The decimal number `digits * 10 ^ exponent`. -/
structure ScaledDigits where
  digits : Nat
  exponent : Int
  deriving DecidableEq, Repr

namespace Shortest

/-- Which of two equally near numerals is taken. -/
inductive Tie where
  | upper
  | even
  deriving DecidableEq, Repr

/-- Drop trailing zeros, at most `fuel` of them. -/
def strip (fuel : Nat) (d : ScaledDigits) : ScaledDigits :=
  match fuel with
  | 0 => d
  | k + 1 =>
    if d.digits % 10 = 0 && d.digits != 0 then strip k ⟨d.digits / 10, d.exponent + 1⟩ else d

/-- `d * 10 ^ g` lies in the rounding interval of `m * 2 ^ e`; the grid `g` enters as the fraction
`unit / den = 2 ^ e / 10 ^ g`.  The interval reaches half-way to the neighbours, the lower of which
is nearer below a power of two, and has its ends exactly when `m` is even. -/
def readsBack (m : Nat) (e : Int) (unit den d : Nat) : Bool :=
  let low := if m = twoTo 52 && e != -1074 then 4 * m - 1 else 4 * m - 2
  let at4 := 4 * d * den
  if m % 2 = 0 then low * unit ≤ at4 && at4 ≤ (4 * m + 2) * unit
  else low * unit < at4 && at4 < (4 * m + 2) * unit

/-- The numeral on the grid `10 ^ g` that reads back as `m * 2 ^ e`, the nearer one if both
neighbours do. -/
def onGrid (tie : Tie) (m : Nat) (e g : Int) : Option ScaledDigits :=
  let unit := twoTo e.toNat * tenTo (-g).toNat
  let den := twoTo (-e).toNat * tenTo g.toNat
  let d := m * unit / den
  match readsBack m e unit den d, readsBack m e unit den (d + 1) with
  | false, false => none
  | true, false => some ⟨d, g⟩
  | false, true => some ⟨d + 1, g⟩
  | true, true =>
    match compare (2 * m * unit) ((2 * d + 1) * den) with
    | .lt => some ⟨d, g⟩
    | .gt => some ⟨d + 1, g⟩
    | .eq => some (if tie = .even && d % 2 = 0 then ⟨d, g⟩ else ⟨d + 1, g⟩)

/-- The least `k` with `m * 2 ^ e < 10 ^ k`, for positive `m`. -/
def magnitude (m : Nat) (e : Int) : Int :=
  -- scaled by 10 ^ places the number is at least one, and keeps its count of digits
  let places := (-e).toNat
  (Nat.toDigits 10 (m * twoTo e.toNat * tenTo places / twoTo (-e).toNat)).length - places

/-- The exact decimal value of `m * 2 ^ e`. -/
def exact (m : Nat) (e : Int) : ScaledDigits := ⟨m * twoTo e.toNat * Nat.pow 5 (-e).toNat, min e 0⟩

/-- The shortest digits of the positive number `m * 2 ^ e`. -/
def digits (tie : Tie) (m : Nat) (e : Int) : ScaledDigits :=
  let k := magnitude m e
  let found := (List.range 17).findSome? fun n : Nat => onGrid tie m e (k - n - 1)
  strip 1100 (found.getD (exact m e))

end Shortest

end QueryClause
