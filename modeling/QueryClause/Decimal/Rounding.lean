import QueryClause.Decimal.Arithmetic
import QueryClause.Number.Power

/-!
# Rounding of decimals

Removal of places: toward zero, down, up, and to the nearest with a half to the even neighbour.
-/

namespace QueryClause.Decimal

theorem div_lt_of_mantissa (d : Decimal) (k : Nat) : d.mantissa / k < twoTo 96 :=
  Nat.lt_of_le_of_lt (Nat.div_le_self _ _) d.mantissa_lt

/-- The value without its places; the sign stays. -/
def trunc (d : Decimal) : Decimal :=
  whole d.negative (d.mantissa / tenTo d.scale) (div_lt_of_mantissa d _)

/-- Whether the places hold only zeros. -/
def isWhole (d : Decimal) : Bool := d.mantissa % tenTo d.scale == 0

/-- The greatest whole number that is not above. -/
def floor (d : Decimal) : Decimal :=
  if d.scale = 0 then d
  else if d.negative && !d.isWhole then (d.trunc.sub? one).getD d.trunc
  else d.trunc

/-- The least whole number that is not below. -/
def ceil (d : Decimal) : Decimal :=
  if d.scale = 0 then d
  else if !d.negative && !d.isWhole then (d.trunc.add? one).getD d.trunc
  else d.trunc

/-- The nearest decimal with `places` places, a half to the even neighbour; shorter ones stay. -/
def roundTo (d : Decimal) (places : Nat) : Decimal :=
  if d.isZero then { d with scale := min places 28, scale_le := by omega }
  else if d.scale ≤ places then d
  else (ofParts? d.negative (halfEven d.mantissa (tenTo (d.scale - places)) false) places).getD d

/-- The integer left when the places are dropped, if it has at most 64 bits. -/
def toInt64? (d : Decimal) : Option Int64 :=
  let n : Int := if d.negative then -(d.trunc.mantissa : Int) else d.trunc.mantissa
  Word64.ofInt? n

end QueryClause.Decimal
