import QueryClause.Number.Binary64
import QueryClause.Text.Integer

/-!
# Reading floats

`FloatReading.ofText` reads decimal notation with an optional fraction and exponent, and the words
for infinity and the undefined number, and rounds once to the nearest float.
-/

namespace QueryClause

/-- Why a text is no float. -/
inductive FloatError where
  | empty
  | invalid
  deriving DecidableEq, Repr

namespace FloatError

/-- The wording of the fault. -/
def message : FloatError → String
  | empty => "cannot parse float from empty string"
  | invalid => "invalid float literal"

end FloatError

namespace FloatReading

/-- The longest run of decimal digits at the front, and the rest. -/
def splitDigits (s : List Char) : List Char × List Char :=
  (s.takeWhile Char.isDigit, s.dropWhile Char.isDigit)

/-- The number that a run of digits denotes. -/
def natOf (ds : List Char) : Nat := Nat.ofDigitChars 10 ds 0

/-- The float nearest to `n * 10 ^ e`. -/
def nearest (n : Nat) (e : Int) : Float :=
  -- far outside the range of floats the power need not be computed
  if n = 0 then 0
  else
    let lead := e + (Text.digits n).length
    if 400 < lead then 1.0 / 0.0
    else if lead < -400 then 0
    else Binary64.nearest (n * tenTo e.toNat) (tenTo (-e).toNat)

/-- The exponent that a text denotes; nothing at all stands for zero. -/
def exponent? (s : List Char) : Option Int :=
  match s with
  | [] => some 0
  | c :: rest =>
    if c = 'e' || c = 'E' then
      let (negative, body) := match rest with
        | '-' :: t => (true, t)
        | '+' :: t => (false, t)
        | t => (false, t)
      if !body.isEmpty && body.all Char.isDigit then
        some (if negative then -(natOf body) else natOf body)
      else none
    else none

/-- An unsigned number in decimal notation. -/
def unsigned? (s : List Char) : Option Float :=
  let (whole, rest) := splitDigits s
  let (fraction, rest) := match rest with
    | '.' :: t => splitDigits t
    | t => ([], t)
  if whole.isEmpty && fraction.isEmpty then none
  else
    (exponent? rest).map fun e => nearest (natOf (whole ++ fraction)) (e - fraction.length)

/-- An unsigned number or one of the words for a number that is not finite, in any letter case. -/
def magnitude? (s : List Char) : Option Float :=
  let word := String.ofList (s.map Char.toLower)
  if word = "inf" || word = "infinity" then some (1.0 / 0.0)
  else if word = "nan" then some (0.0 / 0.0)
  else unsigned? s

/-- The float that a text denotes. -/
def ofText (s : List Char) : Except FloatError Float :=
  match s with
  | [] => .error .empty
  | _ =>
    let (negative, body) := match s with
      | '-' :: t => (true, t)
      | '+' :: t => (false, t)
      | t => (false, t)
    match magnitude? body with
    | some x => .ok (if negative then -x else x)
    | none => .error .invalid

end FloatReading

end QueryClause
