import QueryClause.Eval.Error
import QueryClause.Host.Value

/-!
# Numbers among the host values

`Numeric` is a value seen as a number.  Of two numbers, a float makes a float of the other one, and
a decimal makes a decimal of an integer; `Numeric.compare?` and `Numeric.arithmetic` work after
that promotion.
-/

namespace QueryClause

/-- A value seen as a number. -/
inductive Numeric where
  | int (n : Int64)
  | decimal (d : Decimal)
  | float (x : Float)

namespace Numeric

/-- The number that a value is; an enumeration constant and a character count as integers. -/
def ofValue? : Value → Option Numeric
  | .int n => some (int n)
  | .enum _ n => some (int n)
  | .char c => some (int (Int64.ofNat c.toNat))
  | .decimal d => some (decimal d)
  | .float x => some (float x)
  | _ => none

/-- The number as a float. -/
def toFloat : Numeric → Float
  | int n => n.toFloat
  | decimal d => d.toFloat
  | float x => x

/-- The number as a decimal, if it is in range. -/
def toDecimal? : Numeric → Option Decimal
  | int n => some (Decimal.ofInt64 n)
  | decimal d => some d
  | float x => Decimal.ofFloat? x

/-- The order of two floats, if both are numbers. -/
def compareFloats? (x y : Float) : Option Ordering :=
  if x < y then some .lt else if x == y then some .eq else if y < x then some .gt else none

/-- The order of two numbers; there is none if one is an undefined float. -/
def compare? : Numeric → Numeric → Option Ordering
  | int m, int n => some (Ord.compare m.toInt n.toInt)
  | float x, b => compareFloats? x b.toFloat
  | a, float y => compareFloats? a.toFloat y
  | a, b => do return Decimal.compare (← a.toDecimal?) (← b.toDecimal?)

/-! ### Arithmetic -/

/-- An operation on floats. -/
def onFloats (op : BinaryOp) (x y : Float) : Except EvalError Value :=
  match op with
  | .add => .ok (.float (x + y))
  | .subtract => .ok (.float (x - y))
  | .multiply => .ok (.float (x * y))
  | .divide => .ok (.float (x / y))
  | .modulo => .ok (.float (Binary64.remainder x y))
  | op => .error (.typeMismatch (.onNumbers op "floats"))

/-- A result, or an overflow in the operator. -/
def orOverflow {α : Type} (op : BinaryOp) (wrap : α → Value) : Option α → Except EvalError Value
  | some a => .ok (wrap a)
  | none => .error (.overflow op.name)

/-- Whether the operator divides. -/
def divides : BinaryOp → Bool
  | .divide | .modulo => true
  | _ => false

/-- An operation on decimals. -/
def onDecimals (op : BinaryOp) (x y : Decimal) : Except EvalError Value :=
  if divides op && y.isZero then .error .divideByZero
  else
    match op with
    | .add => orOverflow op .decimal (x.add? y)
    | .subtract => orOverflow op .decimal (x.sub? y)
    | .multiply => orOverflow op .decimal (x.mul? y)
    | .divide => orOverflow op .decimal (x.div? y)
    | .modulo => orOverflow op .decimal (x.rem? y)
    | op => .error (.typeMismatch (.onNumbers op "decimals"))

/-- An operation on integers. -/
def onInts (op : BinaryOp) (x y : Int64) : Except EvalError Value :=
  if divides op && y == 0 then .error .divideByZero
  else
    let quotient? := Word64.ofInt? (x.toInt.tdiv y.toInt)
    match op with
    | .add => orOverflow op .int (Word64.ofInt? (x.toInt + y.toInt))
    | .subtract => orOverflow op .int (Word64.ofInt? (x.toInt - y.toInt))
    | .multiply => orOverflow op .int (Word64.ofInt? (x.toInt * y.toInt))
    | .divide => orOverflow op .int quotient?
    -- a remainder is refused where the quotient is
    | .modulo => orOverflow op .int (quotient?.map fun _ => x % y)
    | .and => .ok (.int (x &&& y))
    | .or => .ok (.int (x ||| y))
    | .exclusiveOr => .ok (.int (x ^^^ y))
    | .shiftLeft => .ok (.int (x <<< y))
    | .shiftRight => .ok (.int (x >>> y))
    | op => .error (.typeMismatch (.onNumbers op "integers"))

/-- An operation on two numbers. -/
def arithmetic (op : BinaryOp) : Numeric → Numeric → Except EvalError Value
  | int m, int n => onInts op m n
  | float x, b => onFloats op x b.toFloat
  | a, float y => onFloats op a.toFloat y
  | a, b =>
    match a.toDecimal?, b.toDecimal? with
    | some x, some y => onDecimals op x y
    | _, _ => .error (.overflow op.name)

end Numeric

end QueryClause
