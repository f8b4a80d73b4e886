import QueryClause.Eval.Numeric

/-!
# Conversion of host values

`Value.convert` brings a value to a type.  Null stays null; a number becomes an integer by dropping
its fraction and keeping the low bits of the target; a type without a rule of its own keeps the
value.
-/

namespace QueryClause.Value

/-- There is no way from a value to a type. -/
def noConversion (v : Value) (target : HostType) : EvalError :=
  .typeMismatch (.noConversion v.hostType target)

/-- The integer that a value is converted through. -/
def integerPart (v : Value) (target : HostType) : Except EvalError Int64 :=
  match v with
  | decimal d => match d.toInt64? with
    | some n => .ok n
    | none => .error (.overflow "Convert")
  | float x =>
    if Binary64.isFinite x then .ok (Binary64.toInt64 x) else .error (v.noConversion target)
  | v => match v.asInt? with
    | some n => .ok n
    | none => .error (v.noConversion target)

/-- The character with a code point. -/
def charOfCode? (n : Int64) : Option Char :=
  if h : 0 ≤ n.toInt ∧ n.toInt.toNat.isValidChar then some (Char.ofNatAux n.toInt.toNat h.2)
  else none

/-- Bring a value other than null to a type that does not allow null. -/
def convertTo (v : Value) (target : HostType) : Except EvalError Value :=
  let orMismatch : Option Value → Except EvalError Value
    | some w => .ok w
    | none => .error (v.noConversion target)
  match target with
  | .int t => (v.integerPart target).map fun n => int (t.wrap n)
  -- an allowance for null that is left over turns off the range of the integer type
  | .nullable (.int _) => (v.integerPart target).map int
  | .float32 => orMismatch ((Numeric.ofValue? v).map fun n => float (Binary64.toSingle n.toFloat))
  | .float64 => orMismatch ((Numeric.ofValue? v).map fun n => float n.toFloat)
  | .decimal => orMismatch (((Numeric.ofValue? v).bind Numeric.toDecimal?).map decimal)
  | .char =>
    match v with
    | char c => .ok (char c)
    | v => orMismatch ((v.asInt?.bind charOfCode?).map char)
  | .enum e => orMismatch (v.asInt?.map (enum e))
  | .bool | .string | .dateTime | .timeSpan | .guid =>
    if v.hostType = target then .ok v else .error (v.noConversion target)
  | _ => .ok v

/-- Bring a value to a type. -/
def convert (v : Value) (type : HostType) : Except EvalError Value :=
  if v.isNull then .ok null else v.convertTo type.underlying

end QueryClause.Value
