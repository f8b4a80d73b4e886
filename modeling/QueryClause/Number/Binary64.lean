import QueryClause.Number.Power
import QueryClause.Number.Word64

/-!
# Binary64 numbers taken apart

`Binary64.ofFloat` decodes a `Float` from its bits into an exact value, and the operations here are
computed on that value in integer arithmetic: the part toward zero, rounding to a whole number in
five directions, the remainder of a division, and powers with an integer exponent.
-/

namespace QueryClause

/-- The exact meaning of a binary64 number. -/
inductive Binary64 where
  | nan
  | infinite (negative : Bool)
  /-- The value `significand * 2 ^ exponent` with its sign; zero has a sign too. -/
  | finite (negative : Bool) (significand : Nat) (exponent : Int)
  deriving DecidableEq, Repr

namespace Binary64

/-- The exact value of a number. -/
def ofFloat (x : Float) : Binary64 :=
  let bits := x.toBits.toNat
  let negative := bits / twoTo 63 == 1
  let e : Nat := bits / twoTo 52 % 2048
  let f : Nat := bits % twoTo 52
  if e = 2047 then (if f = 0 then .infinite negative else .nan)
  else if e = 0 then .finite negative f (-1074)
  else .finite negative (twoTo 52 + f) ((e : Int) - 1075)

/-- The float `m * 2 ^ e`, for `m` up to `2 ^ 53` and `e` from `-1074` up within the finite range.
-/
def encode (m : Nat) (e : Int) : Float :=
  if m = 0 then 0
  else
    let shift := 52 - m.log2
    let bits :=
      if e - shift < -1074 then m * twoTo (e + 1074).toNat
      else (e - shift + 1074).toNat * twoTo 52 + m * twoTo shift
    Float.ofBits (UInt64.ofNat bits)

/-- Which of two neighbouring whole numbers a value between them becomes. -/
inductive Rounding where
  | towardZero
  | down
  | up
  /-- To the nearest, a half away from zero. -/
  | halfAway
  /-- To the nearest, a half to the even neighbour. -/
  | halfEven
  deriving DecidableEq, Repr

namespace Rounding

/-- Round the magnitude `num / den` of a value with the given sign to a whole number. -/
def apply (r : Rounding) (negative : Bool) (num den : Nat) : Nat :=
  let q := num / den
  let rest := num % den
  let further := match r with
    | towardZero => false
    | down => negative && rest != 0
    | up => !negative && rest != 0
    | halfAway => den ≤ 2 * rest
    | halfEven => den < 2 * rest || (den == 2 * rest && q % 2 == 1)
  if further then q + 1 else q

end Rounding

/-- The float nearest to `num / den`, a half to the even neighbour; infinite beyond the range. -/
def nearest (num den : Nat) : Float :=
  if num = 0 then 0
  else
    let scaledNum (q : Int) : Nat := num * twoTo (-q).toNat
    let scaledDen (q : Int) : Nat := den * twoTo q.toNat
    -- in units of `2 ^ low` the quotient has 53 or 54 bits
    let low : Int := (num.log2 : Int) - den.log2 - 53
    let q := max (-1074) (if scaledNum low / scaledDen low < twoTo 53 then low else low + 1)
    if 971 < q then 1.0 / 0.0
    else encode (Rounding.halfEven.apply false (scaledNum q) (scaledDen q)) q

/-- The float nearest to a whole number with a sign. -/
def whole (negative : Bool) (n : Nat) : Float := if negative then -(nearest n 1) else nearest n 1

/-- The float nearest to an integer. -/
def ofInt (n : Int) : Float := whole (n < 0) n.natAbs

/-- The whole number next to `x` in the given direction; it keeps the sign of `x`. -/
def round (r : Rounding) (x : Float) : Float :=
  match ofFloat x with
  | .finite negative m e =>
    if 0 ≤ e then x else whole negative (r.apply negative m (twoTo e.natAbs))
  | _ => x

/-- The integer left when the fraction is dropped, for a finite number. -/
def toInt? (x : Float) : Option Int :=
  match ofFloat x with
  | .finite negative m e =>
    let n := if 0 ≤ e then m * twoTo e.natAbs else m / twoTo e.natAbs
    some (if negative then -n else n)
  | _ => none

/-- Whether the number is finite and has no fraction. -/
def isWhole (x : Float) : Bool :=
  match ofFloat x with
  | .finite _ m e => 0 ≤ e || m % twoTo e.natAbs == 0
  | _ => false

/-- Whether the number is neither infinite nor undefined. -/
def isFinite (x : Float) : Bool :=
  match ofFloat x with
  | .finite .. => true
  | _ => false

/-- The 64-bit integer nearest to `x` toward zero; values out of range go to the nearest end and an
undefined one to zero. -/
def toInt64 (x : Float) : Int64 :=
  match ofFloat x with
  | .nan => 0
  | .infinite negative => if negative then Int64.minValue else Int64.maxValue
  | .finite .. => Word64.clamp ((toInt? x).getD 0)

/-- The remainder of the division of `x` by `y` toward zero; it has the sign of `x`. -/
def remainder (x y : Float) : Float :=
  match ofFloat x, ofFloat y with
  | .finite negative m e, .finite _ n f =>
    if n = 0 then 0.0 / 0.0
    else
      let low := min e f
      let r := (m * twoTo (e - low).natAbs) % (n * twoTo (f - low).natAbs)
      let size := encode r low
      if negative then -size else size
  | .finite .., .infinite _ => x
  | _, _ => 0.0 / 0.0

/-- Repeated squaring: multiply `acc` by the powers of `base` that the bits of `n` call for. -/
def powNat (acc base : Float) (n : Nat) : Float :=
  if n = 0 then acc
  else
    let acc := if n % 2 = 1 then acc * base else acc
    if n < 2 then acc else powNat acc (base * base) (n / 2)

/-- The power with an integer exponent, rounded after each multiplication. -/
def powInt (base : Float) (n : Int) : Float :=
  let p := powNat 1 base n.natAbs
  if n < 0 then 1 / p else p

/-- The number rounded to binary32 precision. -/
def toSingle (x : Float) : Float := x.toFloat32.toFloat

end Binary64

end QueryClause
