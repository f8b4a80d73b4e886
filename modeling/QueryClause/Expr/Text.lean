import QueryClause.Expr.Basic

/-!
# The text of an expression

`Expr.text` prints an expression for messages, close to how it would be written.
-/

namespace QueryClause.Expr

/-- A constant; texts and characters are between quotes. -/
def constantText : Value → String
  | .string s => "\"" ++ s ++ "\""
  | .char c => "'" ++ String.singleton c ++ "'"
  | v => v.text

/-- The parameters of a lambda; a single one stands without parentheses. -/
def paramsText : List Param → String
  | [p] => p.name
  | params => "(" ++ Text.join ", " (params.map Param.name) ++ ")"

/-- An operator applied to the text of its operand. -/
def unaryText (op : UnaryOp) (operand : String) (type : HostType) : String :=
  match op with
  | .not => "Not(" ++ operand ++ ")"
  | .negate => "-" ++ operand
  | .convert => "Convert(" ++ operand ++ ", " ++ type.text ++ ")"
  | .arrayLength => "ArrayLength(" ++ operand ++ ")"
  | .quote => operand
  | .typeAs => "(" ++ operand ++ " As " ++ type.text ++ ")"

/-- An operator between the texts of its operands. -/
def binaryText (op : BinaryOp) (left right : String) : String :=
  match op with
  | .arrayIndex => left ++ "[" ++ right ++ "]"
  | op => "(" ++ left ++ " " ++ op.symbol ++ " " ++ right ++ ")"

mutual

/-- The text of an expression. -/
def text : Expr → String
  | lambda params body => paramsText params ++ " => " ++ text body
  | member target name _ _ => text target ++ "." ++ name
  | staticMember owner name _ => owner.getD "?" ++ "." ++ name
  | constant v _ => constantText v
  | binary op left right => binaryText op (text left) (text right)
  | unary op operand type _ => unaryText op (text operand) type
  | parameter name _ => name
  | call target method args _ _ =>
    text target ++ "." ++ method ++ "(" ++ Text.join ", " (texts args) ++ ")"
  | staticCall owner method args _ =>
    owner.text ++ "." ++ method ++ "(" ++ Text.join ", " (texts args) ++ ")"
  | new type args _ => "new " ++ type.text ++ "(" ++ Text.join ", " (texts args) ++ ")"
  | newArray itemType items =>
    "new " ++ itemType.text ++ "[] \x7b" ++ Text.join ", " (texts items) ++ "\x7d"
  | memberInit type bindings =>
    "new " ++ type.text ++ " \x7b" ++ Text.join ", " (bindingTexts bindings) ++ "\x7d"

/-- The texts of some expressions. -/
def texts : List Expr → List String
  | [] => []
  | e :: rest => text e :: texts rest

/-- The texts of the bindings of an object. -/
def bindingTexts : List (String × Expr) → List String
  | [] => []
  | (name, e) :: rest => (name ++ " = " ++ text e) :: bindingTexts rest

end

end QueryClause.Expr
