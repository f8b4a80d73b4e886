import QueryClause.Number.Power
import QueryClause.Text.Integer

/-!
# Decimal numbers

A `Decimal` is a sign, a mantissa of at most 96 bits and a scale of at most 28 decimal places, and
stands for `± mantissa / 10 ^ scale`.  The scale is kept as it was written, so `1.50` and `1.5` are
two decimals of one value; `Decimal.compare` looks at the value alone.  Zero may carry a sign, which
shows in its text and nowhere else.
-/

namespace QueryClause

/-- A decimal number with its number of places. -/
structure Decimal where
  negative : Bool
  mantissa : Nat
  scale : Nat
  mantissa_lt : mantissa < twoTo 96
  scale_le : scale ≤ 28
  deriving DecidableEq, Repr

namespace Decimal

/-- The decimal with the given parts, if they are in range; zero gets no sign. -/
def ofParts? (negative : Bool) (mantissa scale : Nat) : Option Decimal :=
  if h : mantissa < twoTo 96 ∧ scale ≤ 28 then
    some ⟨negative && mantissa != 0, mantissa, scale, h.1, h.2⟩
  else none

/-- The decimal with the given mantissa and no places. -/
def whole (negative : Bool) (mantissa : Nat) (h : mantissa < twoTo 96) : Decimal :=
  ⟨negative, mantissa, 0, h, by decide⟩

/-- The number zero without places. -/
def zero : Decimal := whole false 0 (by decide)

/-- The number one without places. -/
def one : Decimal := whole false 1 (by decide)

instance : Inhabited Decimal := ⟨zero⟩

/-- Whether the value is zero. -/
def isZero (d : Decimal) : Bool := d.mantissa == 0

/-- The integer as a decimal without places; integers beyond 64 bits are not asked for. -/
def ofInt64 (n : Int64) : Decimal :=
  whole (n.toInt < 0) n.toInt.natAbs <| by
    have h₁ := n.le_toInt
    have h₂ := n.toInt_lt
    have h₃ : twoTo 96 = 79228162514264337593543950336 := rfl
    omega

/-- The mantissa with its sign, after more places have been added up to `scale`. -/
def unitsAt (d : Decimal) (scale : Nat) : Int :=
  let n : Int := d.mantissa * tenTo (scale - d.scale)
  if d.negative then -n else n

/-- Order of the values. -/
def compare (a b : Decimal) : Ordering :=
  let s := max a.scale b.scale
  Ord.compare (a.unitsAt s) (b.unitsAt s)

/-- The value with the opposite sign. -/
def neg (d : Decimal) : Decimal := { d with negative := !d.negative }

/-- The value without its sign. -/
def abs (d : Decimal) : Decimal := { d with negative := false }

/-- Digits with zeros in front, so that one is left of the point after `scale` places. -/
def paddedDigits (d : Decimal) : List Char :=
  let ds := Text.digits d.mantissa
  List.replicate (d.scale + 1 - ds.length) '0' ++ ds

/-- Decimal notation with all places of the scale. -/
def text (d : Decimal) : String :=
  let ds := d.paddedDigits
  let body :=
    if d.scale = 0 then ds
    else ds.take (ds.length - d.scale) ++ '.' :: ds.drop (ds.length - d.scale)
  String.ofList (if d.negative then '-' :: body else body)

end Decimal

end QueryClause
