import QueryClause.Proofs.Compile.Predicate
import QueryClause.Proofs.Sql.Arithmetic

/-!
# Compiled arithmetic

`Context.IsArithmetic` describes the sums, differences, products and opposites of numbers and of
columns of numbers.  In the generic dialect such an expression compiles to a text that can be read
in exactly one way as arithmetic, and on every row where the evaluator stays within 64 bits, the
text gives the number that the evaluator finds (`Context.number_of_sql`).

The opposite of a column is the exception: a unary operator on SQL does not show, so what the text
computes is the expression without these signs (`Expr.unsigned`).  Without them it might leave the
64 bits, so that its number is the exact one (`Expr.integer`).
-/

namespace QueryClause

namespace Expr

/-- Whether a node is the opposite of something with a column. -/
def isLostSign : Expr → Bool
  | unary .negate operand _ _ => operand.any isColumn
  | _ => false

/-- An expression of arithmetic without the signs that do not show in SQL. -/
def unsigned : Expr → Expr
  | binary op left right => binary op left.unsigned right.unsigned
  | unary op operand type via =>
    if (unary op operand type via).isLostSign then operand.unsigned
    else unary op operand.unsigned type via
  | e => e

/-- Without signs to lose, nothing is lost. -/
theorem unsigned_eq_self {e : Expr} (h : e.Lacks isLostSign) : e.unsigned = e := by
  induction e with
  | binary op left right ihl ihr =>
    rw [unsigned, ihl (h.child (by simp [children])), ihr (h.child (by simp [children]))]
  | unary op operand type via ih =>
    rw [unsigned, h.root, ih (h.child (by simp [children]))]
    rfl
  | _ => rfl

/-- The integer that arithmetic with numbers gives, however large. -/
def integer : Expr → Int
  | constant (.int n) _ => n.toInt
  | unary .negate operand _ _ => -operand.integer
  | binary .add left right => left.integer + right.integer
  | binary .subtract left right => left.integer - right.integer
  | binary .multiply left right => left.integer * right.integer
  | _ => 0

theorem integer_operate (o : ArithmeticOp) (left right : Expr) :
    (binary o.op left right).integer = o.compute left.integer right.integer := by
  cases o <;> rfl

theorem any_isColumn_binary (op : BinaryOp) (left right : Expr) :
    (binary op left right).any isColumn = (left.any isColumn || right.any isColumn) := by
  simp [any, isColumn]

theorem any_isColumn_unary (op : UnaryOp) (operand : Expr) (type : HostType)
    (via : Option String) :
    (unary op operand type via).any isColumn = operand.any isColumn := by
  simp [any, isColumn]

theorem any_of_isColumn {e : Expr} (h : e.isColumn = true) : e.any isColumn = true := by
  rw [any_eq, h, Bool.true_or]

end Expr

/-- A fragment that computes an integer on a row, where a value is the one that the host finds. -/
inductive Fragment.Computes (row : SqlRow) (n : Int64) (k : Int) : Fragment → Prop where
  | value (h : n.toInt = k) : Computes row n k (.native (.int n))
  | text {a : SqlArithmetic} (ha : a.Proper) (h : a.number? row = some k) :
    Computes row n k (.sql a.text)

/-- A result of arithmetic: the exact integer, unless it would not fit. -/
def IsExact (k : Int) (r : Except EvalError Value) : Prop :=
  (∃ n, r = .ok (.int n) ∧ n.toInt = k) ∨ ∃ operation, r = .error (.overflow operation)

theorem IsExact.int {k : Int} {v : Value} (h : IsExact k (.ok v)) :
    ∃ n, v = .int n ∧ n.toInt = k := by
  rcases h with ⟨n, hn, hk⟩ | ⟨operation, ho⟩
  · exact ⟨n, Except.ok.inj hn, hk⟩
  · cases ho

theorem IsExact.toInt {k : Int} {n : Int64} (h : IsExact k (.ok (.int n))) : n.toInt = k := by
  obtain ⟨m, hm, hk⟩ := h.int
  cases hm
  exact hk

/-! ### Operators on integers -/

theorem ArithmeticOp.apply_eq (o : ArithmeticOp) (m n : Int64) :
    o.op.apply (.int m) (.int n) =
      Numeric.orOverflow o.op .int (Word64.ofInt? (o.compute m.toInt n.toInt)) := by
  cases o <;> rfl

theorem ArithmeticOp.isExact_apply (o : ArithmeticOp) (m n : Int64) :
    IsExact (o.compute m.toInt n.toInt) (o.op.apply (.int m) (.int n)) := by
  rw [ArithmeticOp.apply_eq]
  cases hk : Word64.ofInt? (o.compute m.toInt n.toInt) with
  | some k => exact .inl ⟨k, rfl, Word64.toInt_ofInt? hk⟩
  | none => exact .inr ⟨_, rfl⟩

theorem UnaryOp.isExact_negate (n : Int64) (type : HostType) :
    IsExact (-n.toInt) (UnaryOp.negate.apply (.int n) type) := by
  rw [UnaryOp.apply]
  cases hk : Word64.ofInt? (-n.toInt) with
  | some k => exact .inl ⟨k, rfl, Word64.toInt_ofInt? hk⟩
  | none => exact .inr ⟨_, rfl⟩

namespace Context

/-- A column of integers, whose schema makes no enumeration of it. -/
structure IsIntColumn (c : Context) (e : Expr) : Prop where
  isColumn : e.isColumn = true
  staticType : e.staticType = .int .int64
  notEnum : ∃ text, c.column e = .ok (.sql text)

/-- Arithmetic with numbers and columns of numbers. -/
inductive IsArithmetic (c : Context) : Expr → Prop where
  | constant (n : Int64) : IsArithmetic c (.ofValue (.int n))
  | column {e : Expr} (h : c.IsIntColumn e) : IsArithmetic c e
  | negate {e : Expr} (type : HostType) (via : Option String) (h : IsArithmetic c e) :
    IsArithmetic c (.unary .negate e type via)
  | operate (o : ArithmeticOp) {left right : Expr} (hl : IsArithmetic c left)
    (hr : IsArithmetic c right) : IsArithmetic c (.binary o.op left right)

variable {c : Context} {row : SqlRow} {depth : Nat}

/-! ### Columns -/

/-- A column of integers stands for one on each row that fits. -/
theorem IsIntColumn.onRow_eq {e : Expr} {text : String} (he : c.IsIntColumn e)
    (hrow : c.Fits row e) (h : c.column e = .ok (.sql text)) :
    ∃ n, row text = .int n ∧ c.onRow row e = .ofValue (.int n) := by
  have href : c.reference? e = some text := reference_of_column he.isColumn h
  have htype : (row text).hostType = .int .int64 := by
    rw [← he.staticType]
    exact hrow e text .root href
  obtain ⟨n, hn⟩ := Value.eq_int_of_hostType htype
  exact ⟨n, hn, by rw [onRow_column href, hn]⟩

theorem IsIntColumn.unsigned {e : Expr} (he : c.IsIntColumn e) : e.unsigned = e := by
  have hcol := he.isColumn
  cases e with
  | member => rfl
  | _ => cases hcol

theorem IsArithmetic.staticType {e : Expr} (he : c.IsArithmetic e) :
    e.staticType = .int .int64 := by
  induction he with
  | constant n => rfl
  | column h => exact h.staticType
  | negate type via h ih => exact ih
  | operate o hl hr ihl ihr =>
    cases o <;> exact ihl

/-! ### Evaluation -/

theorem value_operate {env : Environment} (o : ArithmeticOp) {left right : Expr} :
    (Expr.binary o.op left right).value env = (do
      let a ← left.value env
      let b ← right.value env
      o.op.apply a b) := by
  rw [Expr.value_eq, Expr.evaluateNode]
  cases o <;> rfl

theorem value_negate {env : Environment} (e : Expr) (type : HostType) (via : Option String) :
    (Expr.unary .negate e type via).value env =
      (do UnaryOp.negate.apply (← e.value env) type) := by
  rw [Expr.value_eq, Expr.evaluateNode]
  rfl

/-- The evaluator computes exactly, and fails for nothing but its range. -/
theorem IsArithmetic.isExact_value {e : Expr} (he : c.IsArithmetic e) (hrow : c.Fits row e) :
    IsExact (c.onRow row e).integer ((c.onRow row e).value c.env) := by
  induction he with
  | constant n => exact .inl ⟨n, value_ofValue rfl, rfl⟩
  | @column e h =>
    obtain ⟨text, hcol⟩ := h.notEnum
    obtain ⟨n, -, hon⟩ := h.onRow_eq hrow hcol
    rw [hon]
    exact .inl ⟨n, value_ofValue rfl, rfl⟩
  | @negate e type via h ih =>
    rw [onRow, value_negate, Expr.integer]
    rcases ih (hrow.child List.mem_cons_self) with ⟨n, hn, hexact⟩ | ⟨operation, ho⟩
    · rw [hn, ← hexact]
      exact UnaryOp.isExact_negate n type
    · rw [ho]
      exact .inr ⟨operation, rfl⟩
  | @operate o left right hl hr ihl ihr =>
    rw [onRow, value_operate, Expr.integer_operate]
    rcases ihl (hrow.child (by simp [Expr.children])) with ⟨m, hm, hleft⟩ | ⟨operation, ho⟩
    · -- two values: the operation on them is exact
      rcases ihr (hrow.child (by simp [Expr.children])) with ⟨n, hn, hright⟩ | ⟨operation, ho⟩
      · rw [hm, hn, ← hleft, ← hright]
        exact o.isExact_apply m n
      · rw [hm, ho]
        exact .inr ⟨operation, rfl⟩
    · -- the left operand overflows, so the right one is not computed
      rw [ho]
      exact .inr ⟨operation, rfl⟩

theorem IsArithmetic.int_of_value {e : Expr} {v : Value} (he : c.IsArithmetic e)
    (hrow : c.Fits row e) (h : (c.onRow row e).value c.env = .ok v) : ∃ n, v = .int n := by
  have hexact := he.isExact_value hrow
  rw [h] at hexact
  obtain ⟨n, hn, -⟩ := hexact.int
  exact ⟨n, hn⟩

/-- The parts of an operation that has a value. -/
theorem parts_of_value_operate {o : ArithmeticOp} {left right : Expr} {k : Int64}
    (hl : c.IsArithmetic left) (hr : c.IsArithmetic right)
    (hrow : c.Fits row (.binary o.op left right))
    (h : (c.onRow row (.binary o.op left right)).value c.env = .ok (.int k)) :
    ∃ m n, (c.onRow row left).value c.env = .ok (.int m) ∧
      (c.onRow row right).value c.env = .ok (.int n) ∧
      o.op.apply (.int m) (.int n) = .ok (.int k) := by
  rw [onRow, value_operate] at h
  obtain ⟨a, ha, h⟩ := Except.bind_eq_ok_iff.1 h
  obtain ⟨b, hb, hk⟩ := Except.bind_eq_ok_iff.1 h
  obtain ⟨m, rfl⟩ := hl.int_of_value (hrow.child (by simp [Expr.children])) ha
  obtain ⟨n, rfl⟩ := hr.int_of_value (hrow.child (by simp [Expr.children])) hb
  exact ⟨m, n, ha, hb, hk⟩

/-- The operand of an opposite that has a value. -/
theorem operand_of_value_negate {e : Expr} {type : HostType} {via : Option String} {k : Int64}
    (he : c.IsArithmetic e) (hrow : c.Fits row (.unary .negate e type via))
    (h : (c.onRow row (.unary .negate e type via)).value c.env = .ok (.int k)) :
    ∃ n, (c.onRow row e).value c.env = .ok (.int n) ∧
      UnaryOp.negate.apply (.int n) type = .ok (.int k) := by
  rw [onRow, value_negate] at h
  obtain ⟨v, hv, hk⟩ := Except.bind_eq_ok_iff.1 h
  obtain ⟨n, rfl⟩ := he.int_of_value (hrow.child List.mem_cons_self) hv
  exact ⟨n, hv, hk⟩

/-! ### Compilation -/

/-- An expression that compiles at a depth, if it has a value on a row, to what it computes there
without its lost signs, and to SQL if it has a column. -/
def ComputesAt (c : Context) (row : SqlRow) (depth : Nat) (e : Expr) : Prop :=
  ∀ n, (c.onRow row e).value c.env = .ok (.int n) →
    ∃ f, c.compileAt depth e = .ok f ∧ f.isSql = e.any Expr.isColumn ∧
      f.Computes row n (c.onRow row e.unsigned).integer

/-- The arithmetic that a fragment is written as. -/
theorem arithmetic_of_computes {f : Fragment} {n : Int64} {k : Int}
    (hd : c.target.dialect = .generic) (h : f.Computes row n k) :
    ∃ a : SqlArithmetic, a.Proper ∧ a.number? row = some k ∧
      f.renderAs c.target (.int .int64) = a.text := by
  cases h with
  | value h => exact ⟨.operand (.number n), trivial, congrArg some h, literal_int hd n⟩
  | text ha h => exact ⟨_, ha, h, rfl⟩

theorem operatorText_arithmetic (o : ArithmeticOp) (a b : SqlArithmetic) :
    operatorText o.op a.text b.text = (a.operate o b).text := by
  cases o <;> rfl

/-- An operation on two numbers is computed, or else written out. -/
theorem operator_computes {l r : Fragment} {m n k : Int64} {a b : Int}
    (hd : c.target.dialect = .generic) (o : ArithmeticOp) (hl : l.Computes row m a)
    (hr : r.Computes row n b) (h : o.op.apply (.int m) (.int n) = .ok (.int k)) :
    ∃ f, c.operator o.op (.int .int64) (.int .int64) l r = .ok f ∧
      f.isSql = (l.isSql || r.isSql) ∧ f.Computes row k (o.compute a b) := by
  obtain ⟨x, hx, hxa, hxt⟩ := arithmetic_of_computes (c := c) hd hl
  obtain ⟨y, hy, hyb, hyt⟩ := arithmetic_of_computes (c := c) hd hr
  -- beside SQL the operation is written, with the number that it gives in SQL
  have hwritten : ∃ f, (.ok (.sql (operatorText o.op (l.renderAs c.target (.int .int64))
      (r.renderAs c.target (.int .int64)))) : Compiled) = .ok f ∧ f.isSql = true ∧
      f.Computes row k (o.compute a b) := by
    rw [hxt, hyt, operatorText_arithmetic]
    refine ⟨_, rfl, rfl, .text ⟨hx, hy⟩ ?_⟩
    rw [SqlArithmetic.number?, hxa, hyb]
    rfl
  cases hl with
  | value hm =>
    cases hr with
    | value hn =>
      -- two values are computed, and exactly so
      have hk : k.toInt = o.compute a b := by
        have hexact := o.isExact_apply m n
        rw [h, hm, hn] at hexact
        exact hexact.toInt
      exact ⟨.native (.int k), congrArg Compiled.ofValue h, rfl, .value hk⟩
    | text => exact hwritten
  | text =>
    cases hr with
    | value => exact hwritten
    | text => exact hwritten

theorem computesAt_negate {e : Expr} (type : HostType) (via : Option String)
    (he : c.IsArithmetic e) (hrow : c.Fits row (.unary .negate e type via))
    (hm : depth + 1 ≤ c.options.maxDepth) (h : c.ComputesAt row (depth + 1) e) :
    c.ComputesAt row depth (.unary .negate e type via) := by
  intro k hv
  obtain ⟨n, hn, hk⟩ := operand_of_value_negate he hrow hv
  obtain ⟨f, hf, hsql, hcomputes⟩ := h n hn
  have hnode : c.compileAt depth (.unary .negate e type via) =
      c.unaryOperator .negate type e.isColumn f := by
    rw [compileAt_eq, if_neg (by omega), compileNode, hf]
    rfl
  rw [hnode, Expr.any_isColumn_unary, Expr.unsigned]
  split
  · -- the sign is lost, and the fragment passes through
    rename_i hlost
    have hfsql : f.isSql = true := hsql.trans hlost
    cases hcomputes with
    | value => cases hfsql
    | text ha h => exact ⟨_, rfl, hsql, .text ha h⟩
  · -- a value is computed
    rename_i hkept
    have hfsql : f.isSql = false := hsql.trans (Bool.eq_false_iff.2 hkept)
    cases hcomputes with
    | value h =>
      refine ⟨.native (.int k), congrArg Compiled.ofValue hk, hsql, .value ?_⟩
      have hexact := UnaryOp.isExact_negate n type
      rw [hk, h] at hexact
      exact hexact.toInt
    | text => cases hfsql

theorem computesAt_operate {left right : Expr} (hd : c.target.dialect = .generic)
    (o : ArithmeticOp) (hl : c.IsArithmetic left) (hr : c.IsArithmetic right)
    (hrow : c.Fits row (.binary o.op left right)) (hm : depth + 1 ≤ c.options.maxDepth)
    (hlc : c.ComputesAt row (depth + 1) left) (hrc : c.ComputesAt row (depth + 1) right) :
    c.ComputesAt row depth (.binary o.op left right) := by
  have hop : o.op.isLogical = false := by cases o <;> rfl
  intro k hv
  obtain ⟨m, n, hm', hn, hk⟩ := parts_of_value_operate hl hr hrow hv
  obtain ⟨l, hl', hlsql, hlm⟩ := hlc m hm'
  obtain ⟨r, hr', hrsql, hrn⟩ := hrc n hn
  obtain ⟨f, hf, hsql, hcomputes⟩ := operator_computes hd o hlm hrn hk
  refine ⟨f, ?_, ?_, ?_⟩
  · -- both operands are integers, so they are written by this type
    rw [compileAt_eq, if_neg (by omega), compileNode_operator hop, hl', hr', hl.staticType,
      hr.staticType]
    exact hf
  · rw [hsql, hlsql, hrsql, Expr.any_isColumn_binary]
  · rw [Expr.unsigned, onRow, Expr.integer_operate]
    exact hcomputes

/-- Arithmetic compiles to what it is on a row, at every depth that leaves it room. -/
theorem IsArithmetic.computesAt {e : Expr} (hd : c.target.dialect = .generic)
    (he : c.IsArithmetic e) (hrow : c.Fits row e) (hm : depth + e.height ≤ c.options.maxDepth) :
    c.ComputesAt row depth e := by
  induction he generalizing depth with
  | constant k =>
    intro n hv
    have hvalue : (Expr.ofValue (.int k)).value c.env = .ok (.int n) := hv
    rw [value_ofValue rfl] at hvalue
    cases hvalue
    exact ⟨_, compileAt_ofValue rfl rfl (by omega), rfl, .value rfl⟩
  | @column e h =>
    obtain ⟨text, hcol⟩ := h.notEnum
    -- a column is written as itself, and the row has its number
    obtain ⟨k, hk, hon⟩ := h.onRow_eq hrow hcol
    intro n hv
    rw [h.unsigned, hon]
    refine ⟨.sql text, ?_, (Expr.any_of_isColumn h.isColumn).symm, ?_⟩
    · rw [compileAt_column h.isColumn (by omega), hcol]
    · refine .text (a := .operand (.column text)) (isReference_column hd h.isColumn hcol) ?_
      rw [SqlArithmetic.number?, SqlOperand.number?, hk]
      rfl
  | @negate e type via h ih =>
    have hmem : e ∈ (Expr.unary .negate e type via).children := List.mem_cons_self
    have hroom := Expr.room_of_child hmem hm
    exact computesAt_negate type via h hrow (by omega) (ih (hrow.child hmem) hroom)
  | @operate o left right hl hr ihl ihr =>
    have hmeml : left ∈ (Expr.binary o.op left right).children := by simp [Expr.children]
    have hmemr : right ∈ (Expr.binary o.op left right).children := by simp [Expr.children]
    have hrooml := Expr.room_of_child hmeml hm
    exact computesAt_operate hd o hl hr hrow (by omega) (ihl (hrow.child hmeml) hrooml)
      (ihr (hrow.child hmemr) (Expr.room_of_child hmemr hm))

/-- **Compiled arithmetic computes what the evaluator does**, but for signs on columns: in the
generic dialect it compiles to exactly one arithmetic expression, and on every row where the
evaluator does not overflow, that gives the integer of what remains when the signs above columns
are left out; where there are none, this is the number that the evaluator finds. -/
theorem number_of_sql {e : Expr} {limit : Nat} (hd : c.target.dialect = .generic)
    (he : c.IsArithmetic e) (hrow : c.Fits row e) (hm : e.height ≤ c.options.maxDepth)
    (hlimit : e.height ≤ limit)
    (hover : ∀ operation,
      (c.onRow row e).evaluate c.env limit ≠ .error (.overflow operation)) :
    ∃ n a, (c.onRow row e).evaluate c.env limit = .ok (.int n) ∧ a.Proper ∧
      c.sql e = .ok a.text ∧ (∀ b : SqlArithmetic, b.Proper → b.text = a.text → b = a) ∧
      a.number? row = some (c.onRow row e.unsigned).integer ∧
      (e.Lacks Expr.isLostSign → a.number? row = some n.toInt) := by
  have hvalue : (c.onRow row e).evaluate c.env limit = (c.onRow row e).value c.env :=
    Expr.evaluate_eq_value (Nat.le_trans (height_onRow_le e) hlimit)
  -- a computation either is exact or overflows, and it does not overflow
  rcases he.isExact_value hrow with ⟨n, hn, hexact⟩ | ⟨operation, ho⟩
  · have hroom : 0 + e.height ≤ c.options.maxDepth := by omega
    obtain ⟨f, hf, -, hcomputes⟩ := he.computesAt hd hrow hroom n hn
    obtain ⟨a, ha, hnumber, hat⟩ := arithmetic_of_computes (c := c) hd hcomputes
    refine ⟨n, a, hvalue.trans hn, ha, ?_,
      fun b hb h => SqlArithmetic.arithmetic_text_inj hb ha h, hnumber, fun hsigns => ?_⟩
    · rw [sql, compile, hf, ← hat]
      cases hcomputes <;> rfl
    · rw [hnumber, Expr.unsigned_eq_self hsigns, hexact]
  · exact absurd (hvalue.trans ho) (hover operation)

theorem isIntColumn_pieces : (bare .generic).IsIntColumn pieces :=
  ⟨rfl, rfl, _, rfl⟩

theorem number_of_sql_product :
    let row : SqlRow := fun _ => .int 7
    let e := Expr.binary .multiply (.binary .subtract pieces (.negative (.ofValue (.int 2))))
      (.negative pieces)
    (bare .generic).sql e = .ok "((Pieces - -2) * Pieces)" ∧
      ∃ n a, ((bare .generic).onRow row e).evaluate (bare .generic).env 3 = .ok (.int n) ∧
        a.Proper ∧ (bare .generic).sql e = .ok a.text ∧
        (∀ b : SqlArithmetic, b.Proper → b.text = a.text → b = a) ∧
        a.number? row = some ((bare .generic).onRow row e.unsigned).integer ∧
        (e.Lacks Expr.isLostSign → a.number? row = some n.toInt) := by
  intro row e
  have he : (bare .generic).IsArithmetic e :=
    .operate .multiply (.operate .subtract (.column isIntColumn_pieces)
      (.negate _ _ (.constant 2))) (.negate _ _ (.column isIntColumn_pieces))
  have hrow : (bare .generic).Fits row e := by decide
  have hvalue : ((bare .generic).onRow row e).evaluate (bare .generic).env 3 =
      .ok (.int (-63)) := rfl
  refine ⟨Except.eq_ok_of_toOption (by decide), ?_⟩
  refine number_of_sql rfl he hrow (by decide) (by decide) fun operation ho => ?_
  rw [hvalue] at ho
  cases ho

/-- The opposite of a column is the column. -/
theorem not_number_of_sql :
    let row : SqlRow := fun _ => .int 1
    let e := Expr.negative pieces
    (bare .generic).IsArithmetic e ∧ e.any Expr.isColumn = true ∧ (bare .generic).Fits row e ∧
      ((bare .generic).onRow row e).evaluate (bare .generic).env 1 = .ok (.int (-1)) ∧
      ∀ a : SqlArithmetic, a.Proper → (bare .generic).sql e = .ok a.text →
        a.number? row ≠ some (-1) := by
  intro row e
  refine ⟨.negate _ _ (.column isIntColumn_pieces), rfl, by decide, ?_, ?_⟩
  · rfl
  intro a ha hsql
  have htext : (bare .generic).sql e = .ok "Pieces" :=
    Except.eq_ok_of_toOption (by decide)
  rw [htext] at hsql
  -- one proper arithmetic has this text, and its number is 1
  have hproper : (SqlArithmetic.operand (.column "Pieces")).Proper := by
    have hbare : Identifier.quoteIfNeeded "Pieces" = "Pieces" := by decide
    have hs := isReference_quoteIfNeeded "Pieces"
    rw [hbare] at hs
    exact hs
  rw [SqlArithmetic.arithmetic_text_inj ha hproper (Except.ok.inj hsql).symm]
  decide

end Context

end QueryClause
