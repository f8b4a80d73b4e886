import QueryClause.Compile.Column

/-!
# Operators in SQL

An operator on two values is computed; otherwise it is written with its operands.  Next to a column
of an enumeration, a value is written as the name of a member; next to null, equality becomes a
test for null.
-/

namespace QueryClause

namespace Context

variable {m : Type → Type} [Monad m] [MonadLiftT (Except CompileError) m]

/-- The text of a binary operator between the texts of its operands. -/
def operatorText (op : BinaryOp) (left right : String) : String :=
  let nullTest := String.ofList (right.toList.map Char.toLower) == "null"
  match op with
  | .modulo | .coalesce => op.sqlToken ++ "(" ++ left ++ "," ++ right ++ ")"
  | .equal => "(" ++ left ++ (if nullTest then " is " else " = ") ++ right ++ ")"
  | .notEqual => "(" ++ left ++ (if nullTest then " is not " else " <> ") ++ right ++ ")"
  | op => "(" ++ left ++ " " ++ op.sqlToken ++ " " ++ right ++ ")"

/-- A value beside a column of an enumeration. -/
def coerced (c : Context) (e : EnumType) (v : Value) : Fragment :=
  .sql <| match v.asInt? with
    | some n => c.target.dialect.quoteString ((e.nameOf? n).getD (Text.ofInt n.toInt))
    | none => c.target.ownLiteral v

/-- Two operands, after a value has been adapted to a column of an enumeration beside it. -/
def adapted (c : Context) (l r : Fragment) : Fragment × Fragment :=
  match l, r with
  | .enumColumn _ e, .native v => (l, c.coerced e v)
  | .native v, .enumColumn _ e => (c.coerced e v, r)
  | _, _ => (l, r)

/-- An operator other than a connective; the types are those of the operand expressions. -/
def operator (c : Context) (op : BinaryOp) (leftType rightType : HostType) (l r : Fragment) :
    Compiled :=
  match c.adapted l r with
  | (.native a, .native b) => .ofValue (op.apply a b)
  | (l, r) =>
    .ok (.sql (operatorText op (l.renderAs c.target leftType) (r.renderAs c.target rightType)))

/-- An operand of a connective as a condition. -/
def condition (c : Context) : Fragment → Except CompileError String
  | .native (.bool true) => .ok c.target.trueCondition
  | .native (.bool false) => .ok c.target.falseCondition
  | .native v => .error (.evaluation (.typeMismatch (.notCondition v.hostType)))
  | f => .ok (f.render c.target)

/-- A connective; `e` is the whole expression, which `fold` computes if neither operand is SQL. -/
def connectiveM (fold : Expr → m Value) (c : Context) (e : Expr) (op : BinaryOp) (l r : Fragment) :
    m Fragment := do
  if l.isSql || r.isSql then
    let l ← c.condition l
    let r ← c.condition r
    return .sql (operatorText op l r)
  else return .sql (c.target.literal (← fold e) .bool)

/-- A unary operator on a fragment; only a negation shows in SQL. -/
def unaryOperator (c : Context) (op : UnaryOp) (type : HostType) (ofColumn : Bool) (f : Fragment) :
    Compiled :=
  match f with
  | .native v => .ofValue (op.apply v type)
  | f =>
    if op = .not then
      .ok (.sql ("NOT (" ++ (if ofColumn then c.isTrue f else f.render c.target) ++ ")"))
    else .ok f

end Context

end QueryClause
