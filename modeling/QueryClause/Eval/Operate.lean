import QueryClause.Eval.Compare
import QueryClause.Eval.Convert

/-!
# Operators on host values

`BinaryOp.apply` and `UnaryOp.apply` compute an operator from its evaluated operands.  With null,
arithmetic gives null, a comparison by order is false, and a text takes nothing from it.
-/

namespace QueryClause

/-- What a value contributes to a text. -/
def Value.concatText : Value → String
  | .null => ""
  | v => v.text

namespace BinaryOp

/-- An operator on two truth values. -/
def onBools? (op : BinaryOp) (a b : Bool) : Option Bool :=
  match op with
  | and | andAlso => some (a && b)
  | or | orElse => some (a || b)
  | exclusiveOr => some (a != b)
  | equal => some (a == b)
  | notEqual => some (a != b)
  | _ => none

/-- Whether an order satisfies a comparison operator. -/
def accepts (op : BinaryOp) (o : Ordering) : Bool :=
  match op with
  | lessThan => o == .lt
  | lessThanOrEqual => o != .gt
  | greaterThan => o == .gt
  | _ => o != .lt

/-- The comparison of two values by order. -/
def applyOrder (op : BinaryOp) (a b : Value) : Except EvalError Value :=
  if a.isNull || b.isNull then .ok (.bool false)
  else
    match a.compare? b with
    | some o => .ok (.bool (op.accepts o))
    | none => .error (.typeMismatch (.notComparable a.hostType b.hostType))

/-- The item at a position. -/
def applyIndex (a b : Value) : Except EvalError Value :=
  match a.asList?, b.asInt? with
  | none, _ => .error (.typeMismatch (.notIndexable a.hostType))
  | _, none => .error (.typeMismatch .indexNotInteger)
  | some items, some i =>
    match if i < 0 then none else items[i.toNatClampNeg]? with
    | some v => .ok v
    | none => .error (.indexOutOfRange i items.length)

/-- Shift an instant by a span. -/
def shiftBy (op : BinaryOp) (t : DateTime) (s : TimeSpan) : Except EvalError Value :=
  Numeric.orOverflow op .dateTime (t.shift? s.nanos)

/-- Arithmetic with instants and spans; `none` if the operands are of other kinds. -/
def applyTemporal? (op : BinaryOp) (a b : Value) : Option (Except EvalError Value) :=
  match op, a, b with
  | add, .dateTime t, .timeSpan s => some (shiftBy op t s)
  | add, .timeSpan s, .dateTime t => some (shiftBy op t s)
  | subtract, .dateTime t, .timeSpan s => some (shiftBy op t s.reverse)
  | subtract, .dateTime t, .dateTime u => some (.ok (.timeSpan (TimeSpan.ofNanos (t.since u))))
  | add, .timeSpan s, .timeSpan t =>
    some (Numeric.orOverflow op (fun n => .timeSpan ⟨n⟩)
      (Word64.ofInt? (s.ticks.toInt + t.ticks.toInt)))
  | subtract, .timeSpan s, .timeSpan t =>
    some (Numeric.orOverflow op (fun n => .timeSpan ⟨n⟩)
      (Word64.ofInt? (s.ticks.toInt - t.ticks.toInt)))
  | _, _, _ => none

/-- Arithmetic with numbers. -/
def applyNumeric (op : BinaryOp) (a b : Value) : Except EvalError Value :=
  match Numeric.ofValue? a, Numeric.ofValue? b with
  | some x, some y => Numeric.arithmetic op x y
  | _, _ => .error (.typeMismatch (.undefinedBinary op a.hostType b.hostType))

/-- Whether an operand is a text. -/
def isText (v : Value) : Bool := v.asString?.isSome

/-- An operator that neither compares nor selects. -/
def applyOther (op : BinaryOp) (a b : Value) : Except EvalError Value :=
  match a.asBool?.bind fun x => b.asBool?.bind fun y => op.onBools? x y with
  | some r => .ok (.bool r)
  | none =>
    if op = add && (isText a || isText b) then .ok (.string (a.concatText ++ b.concatText))
    else if a.isNull || b.isNull then .ok .null
    else
      match op.applyTemporal? a b with
      | some r => r
      | none => op.applyNumeric a b

/-- Apply a binary operator to its operands. -/
def apply (op : BinaryOp) (a b : Value) : Except EvalError Value :=
  match op with
  | equal => .ok (.bool (a.equals b))
  | notEqual => .ok (.bool (!a.equals b))
  | lessThan | lessThanOrEqual | greaterThan | greaterThanOrEqual => op.applyOrder a b
  | coalesce => .ok (if a.isNull then b else a)
  | arrayIndex => applyIndex a b
  | op => op.applyOther a b

end BinaryOp

namespace UnaryOp

/-- Apply a unary operator to its operand; `type` is the type that a conversion leads to. -/
def apply (op : UnaryOp) (v : Value) (type : HostType) : Except EvalError Value :=
  let undefined : Except EvalError Value :=
    .error (.typeMismatch (.undefinedUnary op v.hostType))
  match op with
  | not => match v with
    | .bool b => .ok (.bool !b)
    | .int n => .ok (.int (~~~n))
    | .null => .ok .null
    | _ => undefined
  | negate => match v with
    | .int n => match Word64.ofInt? (-n.toInt) with
      | some m => .ok (.int m)
      | none => .error (.overflow "Negate")
    | .decimal d => .ok (.decimal d.neg)
    | .float x => .ok (.float (-x))
    | .timeSpan s => .ok (.timeSpan ⟨-s.ticks⟩)
    | .null => .ok .null
    | _ => undefined
  | convert => v.convert type
  | typeAs => match v.convert type with
    | .ok w => .ok w
    | .error _ => .ok .null
  | arrayLength => match v with
    | .list items => .ok (.int (Int64.ofNat items.length))
    | _ => undefined
  | quote => .ok v

end UnaryOp

end QueryClause
