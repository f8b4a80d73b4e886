import QueryClause.Proofs.Sql.Condition

/-!
# Arithmetic in SQL

`SqlArithmetic` is the syntax of the arithmetic that the generic dialect gets: columns and numbers,
and sums, differences and products in parentheses.  `SqlArithmetic.text` writes it and
`SqlArithmetic.number?` computes it on a row, over the integers.

As with conditions, a text can be read in one way at most (`SqlArithmetic.arithmetic_text_inj`).
-/

namespace QueryClause

/-- An operator of arithmetic. -/
inductive ArithmeticOp where
  | add
  | subtract
  | multiply
  deriving DecidableEq, Repr

namespace ArithmeticOp

/-- The operator of host expressions. -/
def op : ArithmeticOp → BinaryOp
  | add => .add
  | subtract => .subtract
  | multiply => .multiply

/-- The result on two integers. -/
def compute : ArithmeticOp → Int → Int → Int
  | add, a, b => a + b
  | subtract, a, b => a - b
  | multiply, a, b => a * b

theorem arithmetic_token_inj {o o' : ArithmeticOp}
    (h : o.op.sqlToken.toList = o'.op.sqlToken.toList) : o = o' := by
  cases o <;> cases o' <;> first | rfl | cases h

theorem blank_not_mem_arithmetic_token (o : ArithmeticOp) : ' ' ∉ o.op.sqlToken.toList := by
  cases o <;> decide

end ArithmeticOp

/-- An arithmetic expression. -/
inductive SqlArithmetic where
  | operand (x : SqlOperand)
  | operate (o : ArithmeticOp) (a b : SqlArithmetic)
  deriving DecidableEq, Repr

namespace SqlArithmetic

/-- The text of an arithmetic expression. -/
def text : SqlArithmetic → String
  | operand x => x.text
  | operate o a b => "(" ++ a.text ++ " " ++ o.op.sqlToken ++ " " ++ b.text ++ ")"

/-- The number that an expression stands for on a row; `none` if a column has none. -/
def number? (row : SqlRow) : SqlArithmetic → Option Int
  | operand x => x.number? row
  | operate o a b => do return o.compute (← a.number? row) (← b.number? row)

/-- The columns of an expression are references. -/
def Proper : SqlArithmetic → Prop
  | operand x => x.Proper
  | operate _ a b => a.Proper ∧ b.Proper

/-- The layout of an expression. -/
def layout : SqlArithmetic → Layout
  | operand x => .word x.text.toList
  | operate o a b => .group a.layout o.op.sqlToken.toList b.layout

variable {a b : SqlArithmetic}

theorem chars_arithmetic_layout (a : SqlArithmetic) : a.layout.chars = a.text.toList := by
  induction a with
  | operand x => rfl
  | operate o a b iha ihb => simp [layout, Layout.chars, text, iha, ihb]

theorem proper_arithmetic_layout (ha : a.Proper) : a.layout.Proper := by
  induction a with
  | operand x => exact ⟨x.isWord_text ha, x.text_ne_notWord ha⟩
  | operate o a b iha ihb => exact ⟨iha ha.1, o.blank_not_mem_arithmetic_token, ihb ha.2⟩

theorem arithmetic_layout_inj (ha : a.Proper) (hb : b.Proper) (h : a.layout = b.layout) :
    a = b := by
  induction a generalizing b with
  | operand x =>
    cases b with
    | operand y => rw [SqlOperand.operand_text_inj ha hb (Layout.word.inj h)]
    | operate => cases h
  | operate o a a' ih ih' =>
    cases b with
    | operand => cases h
    | operate o' b b' =>
      obtain ⟨hl, ho, hr⟩ := Layout.group.inj h
      rw [ih ha.1 hb.1 hl, ArithmeticOp.arithmetic_token_inj ho, ih' ha.2 hb.2 hr]

/-- **Unique reading**: a text is written by one arithmetic expression at most. -/
theorem arithmetic_text_inj (ha : a.Proper) (hb : b.Proper) (h : a.text = b.text) : a = b := by
  have hchars : a.layout.chars = b.layout.chars := by
    rw [chars_arithmetic_layout, chars_arithmetic_layout, h]
  exact arithmetic_layout_inj ha hb
    (Layout.chars_inj (proper_arithmetic_layout ha) (proper_arithmetic_layout hb) hchars)

end SqlArithmetic

end QueryClause
