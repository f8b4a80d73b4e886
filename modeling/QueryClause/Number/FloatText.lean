import QueryClause.Number.Shortest
import QueryClause.Text.Integer

/-!
# Floats as text

Two ways to write a float with its shortest digits.  `FloatText.plain` never uses an exponent and
writes whole numbers without a point; `FloatText.json` always marks a float by a point or an
exponent and has no word for numbers that are not finite.
-/

namespace QueryClause.FloatText

/-- Zeros in a row. -/
def zeros (n : Nat) : List Char := List.replicate n '0'

/-- Positional notation of `ds * 10 ^ e`; `tail` follows a number without a fraction. -/
def positional (ds : List Char) (e : Int) (tail : List Char) : List Char :=
  if 0 ≤ e then ds ++ zeros e.toNat ++ tail
  else
    let places := e.natAbs
    if places < ds.length then
      ds.take (ds.length - places) ++ '.' :: ds.drop (ds.length - places)
    else '0' :: '.' :: zeros (places - ds.length) ++ ds

/-- Notation with an exponent, one digit before the point. -/
def scientific (ds : List Char) (e : Int) : List Char :=
  let lead := e + ds.length - 1
  let mantissa := match ds with
    | d :: d' :: rest => d :: '.' :: d' :: rest
    | _ => ds
  mantissa ++ 'e' :: (if lead < 0 then '-' else '+') :: Text.digits lead.natAbs

/-- A sign in front of a text. -/
def signed (negative : Bool) (s : List Char) : String :=
  String.ofList (if negative then '-' :: s else s)

/-- Shortest digits without an exponent; of two equally near numerals the upper one. -/
def plain (x : Float) : String :=
  match Binary64.ofFloat x with
  | .nan => "NaN"
  | .infinite negative => signed negative "inf".toList
  | .finite negative m e =>
    if m = 0 then signed negative ['0']
    else
      let d := Shortest.digits .upper m e
      signed negative (positional (Text.digits d.digits) d.exponent [])

/-- Shortest digits with a point or an exponent; positional for leading digits from `10 ^ -5` to
`10 ^ 15`.  Numbers that are not finite are `null`. -/
def json (x : Float) : String :=
  match Binary64.ofFloat x with
  | .nan | .infinite _ => "null"
  | .finite negative m e =>
    if m = 0 then signed negative "0.0".toList
    else
      let d := Shortest.digits .even m e
      let ds := Text.digits d.digits
      let lead := d.exponent + ds.length - 1
      signed negative <|
        if -5 ≤ lead && lead < 16 then positional ds d.exponent ".0".toList
        else scientific ds d.exponent

example : plain 0.1 = "0.1" ∧ json 1e16 = "1e+16" ∧ plain (-0.0) = "-0" := by decide

end QueryClause.FloatText
