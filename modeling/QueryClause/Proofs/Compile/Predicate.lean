import QueryClause.Proofs.Compile.Folding
import QueryClause.Proofs.Compile.Row
import QueryClause.Proofs.Sql.Reference

/-!
# Compiled predicates keep their meaning

`Context.IsPredicate` describes the predicates that are built from comparisons of numbers, truth
values, and the connectives.  In the generic dialect such a predicate always compiles, and to a text
that can be read in exactly one way as a condition; on every row that fits, the condition holds if
and only if the predicate is true there (`Context.holds_of_sql`).

The induction carries what a fragment means on a row (`Fragment.Means`): a truth value that has not
been written yet is this value, and a text is that of a condition with it.
-/

namespace QueryClause

namespace Value

theorem eq_bool_of_hostType {v : Value} (h : v.hostType = .bool) : ∃ b, v = .bool b := by
  cases v with
  | bool b => exact ⟨b, rfl⟩
  | _ => cases h

theorem eq_int_of_hostType {v : Value} (h : v.hostType = .int .int64) : ∃ n, v = .int n := by
  cases v with
  | int n => exact ⟨n, rfl⟩
  | _ => cases h

/-- Two integers are equal to the host if they are the same number. -/
theorem equals_int (m n : Int64) : (int m).equals (int n) = (m.toInt == n.toInt) := by
  rw [Bool.eq_iff_iff, beq_iff_eq, ← Int.compare_eq_eq]
  simp [equals, equalsSimple, Numeric.ofValue?, Numeric.compare?]

end Value

/-- A fragment that stands for a truth value on a row. -/
inductive Fragment.Means (row : SqlRow) (b : Bool) : Fragment → Prop where
  | value : Means row b (.native (.bool b))
  | text {p : SqlCondition} (hp : p.Proper) (h : p.holds? row = some b) : Means row b (.sql p.text)

theorem Fragment.Means.eq_native {row : SqlRow} {b : Bool} {f : Fragment} (h : f.Means row b)
    (hf : f.isSql = false) : f = .native (.bool b) := by
  cases h with
  | value => rfl
  | text => cases hf

/-- A fragment that stands for a number on a row. -/
inductive Fragment.Counts (row : SqlRow) (n : Int64) : Fragment → Prop where
  | value : Counts row n (.native (.int n))
  | column {reference : String} (hs : IsReference reference)
    (hnull : ¬ ReadsAsNull reference) (h : row reference = .int n) : Counts row n (.sql reference)

namespace Context

/-- A column with values of a type, whose schema makes no enumeration of it. -/
inductive IsColumnOf (c : Context) (type : HostType) : Expr → Prop where
  | member (name entity member : String) (declaring : Option String)
    (h : (c.lookUp (declaring.getD entity) member type).type.underlying.enumType? = none) :
    IsColumnOf c type (.member (.parameter name (.entity entity)) member declaring type)

/-- A number, given or read from a column. -/
inductive IsNumber (c : Context) : Expr → Prop where
  | constant (n : Int64) : IsNumber c (.ofValue (.int n))
  | column {e : Expr} (h : c.IsColumnOf (.int .int64) e) : IsNumber c e

/-- A predicate on rows. -/
inductive IsPredicate (c : Context) : Expr → Prop where
  | constant (b : Bool) : IsPredicate c (.ofValue (.bool b))
  | column {e : Expr} (h : c.IsColumnOf .bool e) : IsPredicate c e
  | compare (o : Comparison) {left right : Expr} (hl : c.IsNumber left) (hr : c.IsNumber right) :
    IsPredicate c (.binary o.op left right)
  | not {e : Expr} (type : HostType) (via : Option String) (h : IsPredicate c e) :
    IsPredicate c (.unary .not e type via)
  | connective {op : BinaryOp} {left right : Expr} (hop : op.isLogical = true)
    (hl : IsPredicate c left) (hr : IsPredicate c right) : IsPredicate c (.binary op left right)

/-- A result of compilation that means the truth value of an expression on a row. -/
def Agrees (c : Context) (row : SqlRow) (e : Expr) (r : Compiled) : Prop :=
  ∃ b f, r = .ok f ∧ f.Means row b ∧ (c.onRow row e).value c.env = .ok (.bool b)

variable {c : Context} {row : SqlRow} {depth : Nat}

/-! ### Columns -/

theorem columnText_spec (hd : c.target.dialect = .generic) (entity : String) (f : FieldDef) :
    IsReference (c.columnText entity f) ∧ ¬ ReadsAsNull (c.columnText entity f) := by
  rw [columnText]
  split
  · rw [hd]
    exact ⟨isReference_qualified _ _, not_null_qualified _ _⟩
  · rw [hd]
    exact ⟨isReference_quoteIfNeeded _, not_null_quoteIfNeeded _⟩

/-- In the generic dialect the text of a column is a reference. -/
theorem isReference_column {e : Expr} {f : Fragment} (hd : c.target.dialect = .generic)
    (he : e.isColumn = true) (h : c.column e = .ok f) : IsReference (f.render c.target) := by
  cases e with
  | member target name declaring type =>
    rw [column] at h
    split at h
    · rename_i entity _
      rw [← Except.ok.inj h, render_columnFragment]
      exact (columnText_spec hd entity _).1
    · cases h
  | _ => cases he

theorem IsColumnOf.isColumn {type : HostType} {e : Expr} (he : c.IsColumnOf type e) :
    e.isColumn = true := by
  cases he
  rfl

theorem IsColumnOf.staticType {type : HostType} {e : Expr} (he : c.IsColumnOf type e) :
    e.staticType = type := by
  cases he
  rfl

/-- What a column compiles to and what it is on a row. -/
theorem IsColumnOf.spec {type : HostType} {e : Expr} (hd : c.target.dialect = .generic)
    (he : c.IsColumnOf type e) (hrow : c.Fits row e) :
    ∃ text, c.column e = .ok (.sql text) ∧ IsReference text ∧ ¬ ReadsAsNull text ∧
      (row text).hostType = type ∧ c.onRow row e = .ofValue (row text) := by
  -- first what the column compiles to, then what the row has at this text
  have hcol : ∃ text, c.column e = .ok (.sql text) ∧ IsReference text ∧ ¬ ReadsAsNull text := by
    obtain ⟨name, entity, member, declaring, h⟩ := he
    have hentity : (Expr.parameter name (.entity entity)).entityOf? declaring =
        some (declaring.getD entity) := by cases declaring <;> rfl
    refine ⟨_, ?_, columnText_spec hd (declaring.getD entity)
      (c.lookUp (declaring.getD entity) member type)⟩
    rw [column, hentity]
    simp only [columnFragment, h]
  obtain ⟨text, hcol, hs, hnull⟩ := hcol
  have href := reference_of_column he.isColumn hcol
  refine ⟨text, hcol, hs, hnull, ?_, onRow_column href⟩
  rw [← he.staticType]
  exact hrow e text .root href

theorem IsColumnOf.lacks_hasParams {type : HostType} {e : Expr} (he : c.IsColumnOf type e) :
    e.Lacks Expr.hasParams := by
  cases he
  refine Expr.lacks_iff.2 ⟨rfl, fun x hx => ?_⟩
  obtain rfl := List.mem_singleton.1 hx
  exact Expr.lacks_iff.2 ⟨rfl, nofun⟩

/-! ### Constants -/

theorem value_ofValue {env : Environment} {v : Value} (h : v.hostType.underlying.enumType? = none) :
    (Expr.ofValue v).value env = .ok v := by
  rw [Expr.value_eq, Expr.ofValue, Expr.evaluateNode]
  unfold Value.tagged
  rw [h]

theorem compileAt_ofValue {v : Value} (hv : v.isNull = false)
    (h : v.hostType.underlying.enumType? = none) (hm : depth ≤ c.options.maxDepth) :
    c.compileAt depth (.ofValue v) = .ok (.native v) := by
  have hfold : c.fold (.ofValue v) = .ok v := fold_of_value (Nat.zero_le _) (value_ofValue h)
  have hnode : c.compileNode depth (c.compileAt (depth + 1)) (.ofValue v) =
      c.foldNative (.ofValue v) := by
    rw [Expr.ofValue, compileNode, hv]
    rfl
  rw [compileAt_eq, if_neg (by omega), hnode, foldNative, hfold]
  rfl

/-! ### Comparisons -/

/-- What a number compiles to and what it is on a row. -/
theorem IsNumber.spec {e : Expr} (hd : c.target.dialect = .generic) (he : c.IsNumber e)
    (hrow : c.Fits row e) (hm : depth ≤ c.options.maxDepth) :
    ∃ n f, c.compileAt depth e = .ok f ∧ f.Counts row n ∧
      (c.onRow row e).value c.env = .ok (.int n) := by
  cases he with
  | constant n => exact ⟨n, _, compileAt_ofValue rfl rfl hm, .value, value_ofValue rfl⟩
  | column h =>
    obtain ⟨text, hcol, hs, hnull, htype, hon⟩ := h.spec hd hrow
    obtain ⟨n, hn⟩ := Value.eq_int_of_hostType htype
    refine ⟨n, _, ?_, .column hs hnull hn, ?_⟩
    · rw [compileAt_column h.isColumn hm, hcol]
    · rw [hon, hn]
      exact value_ofValue rfl

theorem IsNumber.staticType {e : Expr} (he : c.IsNumber e) : e.staticType = .int .int64 := by
  cases he with
  | constant n => rfl
  | column h => exact h.staticType

theorem accepts_compare (o : Comparison) (h : o ≠ .equal) (h' : o ≠ .notEqual) (a b : Int) :
    o.op.accepts (compare a b) = o.compares a b := by
  rw [Bool.eq_iff_iff]
  cases o with
  | equal => exact absurd rfl h
  | notEqual => exact absurd rfl h'
  | lessThan => simp [Comparison.op, BinaryOp.accepts, Comparison.compares, Int.compare_eq_lt]
  | lessThanOrEqual =>
    simp [Comparison.op, BinaryOp.accepts, Comparison.compares, ← Int.compare_ne_gt]
  | greaterThan => simp [Comparison.op, BinaryOp.accepts, Comparison.compares, Int.compare_eq_gt]
  | greaterThanOrEqual =>
    simp [Comparison.op, BinaryOp.accepts, Comparison.compares, ← Int.compare_ne_lt]

/-- A comparison of two numbers as the evaluator makes it. -/
theorem apply_comparison (o : Comparison) (m n : Int64) :
    o.op.apply (.int m) (.int n) = .ok (.bool (o.compares m.toInt n.toInt)) := by
  have hequals : (Value.int m).equals (.int n) = decide (m.toInt = n.toInt) :=
    Value.equals_int m n
  have horder : ∀ op : BinaryOp, op.applyOrder (.int m) (.int n) =
      .ok (.bool (op.accepts (compare m.toInt n.toInt))) := fun _ => rfl
  -- equality and its opposite compare values, the rest goes by the order
  by_cases h : o = .equal
  · rw [h, Comparison.op, BinaryOp.apply, hequals, Comparison.compares]
  · by_cases h' : o = .notEqual
    · rw [h', Comparison.op, BinaryOp.apply, hequals, Comparison.compares, decide_not]
    · have happly : o.op.apply (.int m) (.int n) = o.op.applyOrder (.int m) (.int n) := by
        cases o <;> first | rfl | contradiction
      rw [happly, horder, accepts_compare o h h']

/-- The text of a comparison, unless it would become a test for null. -/
theorem operatorText_comparison (o : Comparison) {left right : SqlOperand}
    (h : ¬ ReadsAsNull right.text) :
    operatorText o.op left.text right.text = (SqlCondition.compare o left right).text := by
  have hnull : (String.ofList (right.text.toList.map Char.toLower) == "null") = false :=
    beq_false_of_ne h
  cases o with
  | equal | notEqual =>
    rw [Comparison.op, operatorText, hnull]
    simp [SqlCondition.text, Comparison.op, BinaryOp.sqlToken, String.append_assoc]
  | _ => rfl

theorem literal_int (hd : c.target.dialect = .generic) (n : Int64) :
    c.target.literal (.int n) (.int .int64) = Text.ofInt n.toInt := by
  unfold Target.literal
  rw [hd]
  rfl

theorem literal_bool (hd : c.target.dialect = .generic) (b : Bool) :
    c.target.literal (.bool b) .bool = SqlCondition.boolText b := by
  unfold Target.literal
  rw [hd]
  cases b <;> rfl

/-- The operand that a number becomes beside SQL. -/
theorem operand_of_counts {f : Fragment} {n : Int64} (hd : c.target.dialect = .generic)
    (h : f.Counts row n) :
    ∃ x : SqlOperand, x.Proper ∧ x.number? row = some n.toInt ∧
      f.renderAs c.target (.int .int64) = x.text ∧ ¬ ReadsAsNull x.text := by
  cases h with
  | value => exact ⟨.number n, trivial, rfl, literal_int hd n, not_null_ofInt _⟩
  | column hs hnull h =>
    refine ⟨.column _, hs, ?_, rfl, hnull⟩
    rw [SqlOperand.number?, h]

/-- A comparison of two numbers is computed, or else written out. -/
theorem operator_means {l r : Fragment} {m n : Int64} (hd : c.target.dialect = .generic)
    (o : Comparison) (hl : l.Counts row m) (hr : r.Counts row n) :
    ∃ f, c.operator o.op (.int .int64) (.int .int64) l r = .ok f ∧
      f.Means row (o.compares m.toInt n.toInt) := by
  obtain ⟨x, hx, hxn, hxt, -⟩ := operand_of_counts (c := c) hd hl
  obtain ⟨y, hy, hyn, hyt, hnull⟩ := operand_of_counts (c := c) hd hr
  -- beside SQL the comparison is written, and holds of the numbers of its operands
  have hwritten : ∃ f, (.ok (.sql (operatorText o.op (l.renderAs c.target (.int .int64))
      (r.renderAs c.target (.int .int64)))) : Compiled) = .ok f ∧
      f.Means row (o.compares m.toInt n.toInt) := by
    rw [hxt, hyt, operatorText_comparison o hnull]
    refine ⟨_, rfl, .text ⟨hx, hy⟩ ?_⟩
    rw [SqlCondition.holds?, hxn, hyn]
    rfl
  cases hl with
  | value =>
    cases hr with
    | value =>
      refine ⟨.native _, ?_, .value⟩
      exact congrArg Compiled.ofValue (apply_comparison o m n)
    | column => exact hwritten
  | column =>
    cases hr with
    | value => exact hwritten
    | column => exact hwritten

/-! ### Connectives -/

/-- The truth value of a connective. -/
def joins (op : BinaryOp) (a b : Bool) : Bool := if op = .orElse then a || b else a && b

theorem value_connective {env : Environment} {op : BinaryOp} {left right : Expr} {a b : Bool}
    (hop : op.isLogical = true) (hl : left.value env = .ok (.bool a))
    (hr : right.value env = .ok (.bool b)) :
    (Expr.binary op left right).value env = .ok (.bool (joins op a b)) := by
  refine Expr.value_binary_eq_ok_iff.2 ⟨_, hl, ?_⟩
  rcases Expr.eq_of_isLogical hop with rfl | rfl
  · -- the right operand is skipped after false
    cases a with
    | false => exact .inl rfl
    | true => exact .inr ⟨rfl, _, hr, rfl⟩
  · cases a with
    | false => exact .inr ⟨rfl, _, hr, rfl⟩
    | true => exact .inl rfl

/-- A truth value beside SQL is written as a condition. -/
theorem condition_of_means {f : Fragment} {b : Bool} (hd : c.target.dialect = .generic)
    (h : f.Means row b) :
    ∃ p : SqlCondition, p.Proper ∧ p.holds? row = some b ∧ c.condition f = .ok p.text := by
  cases h with
  | value =>
    refine ⟨.canned b, trivial, rfl, ?_⟩
    cases b with
    | false =>
      rw [condition, Target.falseCondition, Target.trueLiteral, Target.falseLiteral,
        literal_bool hd, literal_bool hd]
      rfl
    | true =>
      rw [condition, Target.trueCondition, Target.trueLiteral, literal_bool hd]
      rfl
  | text hp h => exact ⟨_, hp, h, rfl⟩

theorem operatorText_andAlso (p q : SqlCondition) :
    operatorText .andAlso p.text q.text = (p.and q).text := by
  simp [operatorText, BinaryOp.sqlToken, SqlCondition.text, String.append_assoc]

theorem operatorText_orElse (p q : SqlCondition) :
    operatorText .orElse p.text q.text = (p.or q).text := by
  simp [operatorText, BinaryOp.sqlToken, SqlCondition.text, String.append_assoc]

/-- A connective is computed if it joins two values, or else written out. -/
theorem connective_means {e : Expr} {op : BinaryOp} {l r : Fragment} {a b : Bool}
    (hd : c.target.dialect = .generic) (hop : op.isLogical = true) (hl : l.Means row a)
    (hr : r.Means row b)
    (he : l.isSql = false → r.isSql = false → c.fold e = .ok (.bool (joins op a b))) :
    ∃ f, c.connective e op l r = .ok f ∧ f.Means row (joins op a b) := by
  rw [connective_eq]
  split
  · -- beside SQL, both operands are written as conditions
    obtain ⟨p, hp, hpa, hpt⟩ := condition_of_means (c := c) hd hl
    obtain ⟨q, hq, hqb, hqt⟩ := condition_of_means (c := c) hd hr
    rw [hpt, hqt]
    rcases Expr.eq_of_isLogical hop with rfl | rfl
    · refine ⟨.sql (p.and q).text, ?_, .text ⟨hp, hq⟩ ?_⟩
      · rw [← operatorText_andAlso]
        rfl
      · rw [SqlCondition.holds?, hpa, hqb]
        rfl
    · refine ⟨.sql (p.or q).text, ?_, .text ⟨hp, hq⟩ ?_⟩
      · rw [← operatorText_orElse]
        rfl
      · rw [SqlCondition.holds?, hpa, hqb]
        rfl
  · -- two values are computed, and the result is written at once
    rename_i hsql
    rw [Bool.or_eq_true, not_or, Bool.not_eq_true, Bool.not_eq_true] at hsql
    rw [he hsql.1 hsql.2]
    refine ⟨.sql (SqlCondition.literal (joins op a b)).text, ?_, .text trivial rfl⟩
    exact congrArg (fun s => Except.ok (Fragment.sql s)) (literal_bool hd _)

/-! ### Negations and columns -/

/-- A negation is computed, or else written out. -/
theorem negation_means {f : Fragment} {b : Bool} (type : HostType) (h : f.Means row b) :
    ∃ g, c.unaryOperator .not type false f = .ok g ∧ g.Means row (!b) := by
  cases h with
  | value => exact ⟨_, rfl, .value⟩
  | @text p hp h =>
    refine ⟨.sql p.not.text, rfl, .text hp ?_⟩
    rw [SqlCondition.holds?, h]
    rfl

theorem isTrue_text (hd : c.target.dialect = .generic) (reference : String) :
    c.isTrue (.sql reference) = (SqlCondition.isTrue reference).text := by
  rw [isTrue, Target.trueLiteral, literal_bool hd, String.append_assoc]
  rfl

theorem negation_column_means {reference : String} {b : Bool} (hd : c.target.dialect = .generic)
    (type : HostType) (hs : IsReference reference) (hb : (row reference).asBool? = some b) :
    ∃ g, c.unaryOperator .not type true (.sql reference) = .ok g ∧ g.Means row (!b) := by
  refine ⟨.sql (SqlCondition.isTrue reference).not.text, ?_, .text hs ?_⟩
  · rw [SqlCondition.text, ← isTrue_text hd]
    rfl
  · rw [SqlCondition.holds?, SqlCondition.holds?, hb]
    rfl

/-- What a column of truth values compiles to and what it is on a row. -/
theorem IsColumnOf.spec_bool {e : Expr} (hd : c.target.dialect = .generic)
    (he : c.IsColumnOf .bool e) (hrow : c.Fits row e) :
    ∃ reference b, c.column e = .ok (.sql reference) ∧ IsReference reference ∧
      (row reference).asBool? = some b ∧ (c.onRow row e).value c.env = .ok (.bool b) := by
  obtain ⟨reference, hcol, hs, -, htype, hon⟩ := he.spec hd hrow
  obtain ⟨b, hb⟩ := Value.eq_bool_of_hostType htype
  refine ⟨reference, b, hcol, hs, ?_, ?_⟩
  · rw [hb]
    rfl
  · rw [hon, hb]
    exact value_ofValue rfl

/-- A column as an operand of a connective or as the body of a lambda. -/
theorem IsColumnOf.agrees_trueColumn {e : Expr} (hd : c.target.dialect = .generic)
    (he : c.IsColumnOf .bool e) (hrow : c.Fits row e) : c.Agrees row e (c.trueColumn e) := by
  obtain ⟨reference, b, hcol, hs, hb, hv⟩ := he.spec_bool hd hrow
  refine ⟨b, .sql (SqlCondition.isTrue reference).text, ?_, .text hs hb, hv⟩
  rw [trueColumn, hcol, ← isTrue_text hd]
  rfl

/-! ### Predicates -/

theorem IsPredicate.isColumnOf {e : Expr} (he : c.IsPredicate e) (hcol : e.isColumn = true) :
    c.IsColumnOf .bool e := by
  cases he with
  | column h => exact h
  | _ => cases hcol

theorem IsNumber.lacks_hasParams {e : Expr} (he : c.IsNumber e) : e.Lacks Expr.hasParams := by
  cases he with
  | constant n => exact Expr.lacks_iff.2 ⟨rfl, nofun⟩
  | column h => exact h.lacks_hasParams

theorem lacks_hasParams_binary {op : BinaryOp} {left right : Expr}
    (hl : left.Lacks Expr.hasParams) (hr : right.Lacks Expr.hasParams) :
    (Expr.binary op left right).Lacks Expr.hasParams := by
  refine Expr.lacks_iff.2 ⟨rfl, fun x hx => ?_⟩
  rcases List.mem_cons.1 hx with rfl | hx
  · exact hl
  · rw [List.mem_singleton.1 hx]
    exact hr

theorem IsPredicate.lacks_hasParams {e : Expr} (he : c.IsPredicate e) :
    e.Lacks Expr.hasParams := by
  induction he with
  | constant b => exact Expr.lacks_iff.2 ⟨rfl, nofun⟩
  | column h => exact h.lacks_hasParams
  | compare o hl hr => exact lacks_hasParams_binary hl.lacks_hasParams hr.lacks_hasParams
  | not type via h ih =>
    refine Expr.lacks_iff.2 ⟨rfl, fun x hx => ?_⟩
    rw [List.mem_singleton.1 hx]
    exact ih
  | connective hop hl hr ihl ihr => exact lacks_hasParams_binary ihl ihr

theorem IsPredicate.agrees_operand {e : Expr} (hd : c.target.dialect = .generic)
    (he : c.IsPredicate e) (hrow : c.Fits row e) (h : c.Agrees row e (c.compileAt depth e)) :
    c.Agrees row e (c.connectiveOperand (c.compileAt depth) e) := by
  rw [connectiveOperand]
  split
  · exact (he.isColumnOf ‹_›).agrees_trueColumn hd hrow
  · exact h

theorem agrees_comparison {left right : Expr} (hd : c.target.dialect = .generic) (o : Comparison)
    (hl : c.IsNumber left) (hr : c.IsNumber right) (hrow : c.Fits row (.binary o.op left right))
    (hm : depth + (Expr.binary o.op left right).height ≤ c.options.maxDepth) :
    c.Agrees row (.binary o.op left right) (c.compileAt depth (.binary o.op left right)) := by
  have hop : o.op.isLogical = false := by cases o <;> rfl
  have hroom : depth + 1 ≤ c.options.maxDepth := by
    rw [Expr.height] at hm
    omega
  obtain ⟨m, l, hlc, hlm, hlv⟩ := hl.spec hd (hrow.child (by simp [Expr.children])) hroom
  obtain ⟨n, r, hrc, hrm, hrv⟩ := hr.spec hd (hrow.child (by simp [Expr.children])) hroom
  obtain ⟨f, hf, hmeans⟩ := operator_means (c := c) hd o hlm hrm
  refine ⟨_, f, ?_, hmeans, ?_⟩
  · rw [compileAt_eq, if_neg (by omega), compileNode_operator hop, hlc, hrc, hl.staticType,
      hr.staticType]
    exact hf
  · rw [onRow]
    exact value_binary hop hlv hrv (apply_comparison o m n)

theorem agrees_negation {e : Expr} (hd : c.target.dialect = .generic) (type : HostType)
    (via : Option String) (he : c.IsPredicate e) (hrow : c.Fits row e)
    (hm : depth + 1 ≤ c.options.maxDepth) (h : c.Agrees row e (c.compileAt (depth + 1) e)) :
    c.Agrees row (.unary .not e type via) (c.compileAt depth (.unary .not e type via)) := by
  obtain ⟨b, f, hf, hmeans, hv⟩ := h
  have hnode : c.compileAt depth (.unary .not e type via) =
      c.unaryOperator .not type e.isColumn f := by
    rw [compileAt_eq, if_neg (by omega), compileNode, hf]
    rfl
  have hvalue : ∀ b, (c.onRow row e).value c.env = .ok (.bool b) →
      (c.onRow row (.unary .not e type via)).value c.env = .ok (.bool !b) := by
    intro b hv
    rw [onRow]
    exact value_unary rfl hv rfl
  rw [hnode]
  cases hcol : e.isColumn with
  | true =>
    -- the compiler writes the column itself, and the negation compares it with true
    obtain ⟨reference, b, hc, hs, hb, hv⟩ := (he.isColumnOf hcol).spec_bool hd hrow
    rw [compileAt_column hcol hm, hc] at hf
    cases hf
    obtain ⟨g, hg, hgm⟩ := negation_column_means hd type hs hb
    exact ⟨!b, g, hg, hgm, hvalue b hv⟩
  | false =>
    obtain ⟨g, hg, hgm⟩ := negation_means (c := c) type hmeans
    exact ⟨!b, g, hg, hgm, hvalue b hv⟩

theorem agrees_connective {op : BinaryOp} {left right : Expr} (hd : c.target.dialect = .generic)
    (hop : op.isLogical = true) (hl : c.IsPredicate left) (hr : c.IsPredicate right)
    (hm : depth + (Expr.binary op left right).height ≤ c.options.maxDepth)
    (hla : c.Agrees row left (c.connectiveOperand (c.compileAt (depth + 1)) left))
    (hra : c.Agrees row right (c.connectiveOperand (c.compileAt (depth + 1)) right)) :
    c.Agrees row (.binary op left right) (c.compileAt depth (.binary op left right)) := by
  obtain ⟨a, l, hlc, hlm, hlv⟩ := hla
  obtain ⟨b, r, hrc, hrm, hrv⟩ := hra
  -- two values are those of the operands, also without a row
  have hfold : l.isSql = false → r.isSql = false →
      c.fold (.binary op left right) = .ok (.bool (joins op a b)) := by
    intro hlsql hrsql
    rw [hlm.eq_native hlsql] at hlc
    rw [hrm.eq_native hrsql] at hrc
    exact fold_of_value (by omega) (value_connective hop
      (value_of_connectiveOperand hl.lacks_hasParams hlc)
      (value_of_connectiveOperand hr.lacks_hasParams hrc))
  obtain ⟨f, hf, hmeans⟩ := connective_means hd hop hlm hrm hfold
  refine ⟨_, f, ?_, hmeans, ?_⟩
  · -- on the row, as beside SQL, the operands are joined by their truth values
    rw [compileAt_eq, if_neg (by omega), compileNode_connective hop, hlc, hrc]
    exact hf
  · rw [onRow]
    exact value_connective hop hlv hrv

/-- A predicate compiles to what it is on a row. -/
theorem IsPredicate.agrees {e : Expr} (hd : c.target.dialect = .generic) (he : c.IsPredicate e)
    (hrow : c.Fits row e) (hm : depth + e.height ≤ c.options.maxDepth) :
    c.Agrees row e (c.compileAt depth e) := by
  induction he generalizing depth with
  | constant b => exact ⟨b, _, compileAt_ofValue rfl rfl (by omega), .value, value_ofValue rfl⟩
  | column h =>
    obtain ⟨reference, b, hcol, hs, hb, hv⟩ := h.spec_bool hd hrow
    have hp : (SqlCondition.column reference).Proper := hs
    refine ⟨b, _, ?_, .text hp hb, hv⟩
    rw [compileAt_column h.isColumn (by omega), hcol]
    rfl
  | compare o hl hr => exact agrees_comparison hd o hl hr hrow hm
  | @not e type via h ih =>
    have hmem : e ∈ (Expr.unary .not e type via).children := List.mem_cons_self
    have hroom := Expr.room_of_child hmem hm
    exact agrees_negation hd type via h (hrow.child hmem) (by omega) (ih (hrow.child hmem) hroom)
  | @connective op left right hop hl hr ihl ihr =>
    have hmeml : left ∈ (Expr.binary op left right).children := by simp [Expr.children]
    have hmemr : right ∈ (Expr.binary op left right).children := by simp [Expr.children]
    have hla := ihl (hrow.child hmeml) (Expr.room_of_child hmeml hm)
    have hra := ihr (hrow.child hmemr) (Expr.room_of_child hmemr hm)
    exact agrees_connective hd hop hl hr hm (hl.agrees_operand hd (hrow.child hmeml) hla)
      (hr.agrees_operand hd (hrow.child hmemr) hra)

/-- The SQL of a truth value is that of a condition. -/
theorem condition_of_render {f : Fragment} {b : Bool} (hd : c.target.dialect = .generic)
    (h : f.Means row b) :
    ∃ p : SqlCondition, p.Proper ∧ p.holds? row = some b ∧ f.render c.target = p.text := by
  cases h with
  | value => exact ⟨.literal b, trivial, rfl, literal_bool hd b⟩
  | text hp h => exact ⟨_, hp, h, rfl⟩

theorem IsPredicate.agrees_lambda {body : Expr} (params : List Param)
    (hd : c.target.dialect = .generic) (hb : c.IsPredicate body) (hrow : c.Fits row body)
    (hm : (Expr.lambda params body).height ≤ c.options.maxDepth) :
    c.Agrees row body (c.compile (.lambda params body)) := by
  rw [Expr.height] at hm
  rw [compile, compileAt_eq, if_neg (by omega), compileNode]
  split
  · -- a column as the body is compared with true
    rename_i hcol
    simp only [Bool.and_eq_true] at hcol
    exact (hb.isColumnOf hcol.2).agrees_trueColumn hd hrow
  · exact hb.agrees hd hrow (by omega)

/-- **Compiled predicates keep their meaning**: in the generic dialect a predicate, alone or as the
body of a lambda, compiles to the text of exactly one condition, and on every row that gives the
columns values of their types, the condition holds if and only if the predicate has the value
true. -/
theorem holds_of_sql {e body : Expr} {limit : Nat} (hd : c.target.dialect = .generic)
    (he : e = body ∨ ∃ params, e = .lambda params body)
    (hb : c.IsPredicate body) (hrow : c.Fits row body) (hm : e.height ≤ c.options.maxDepth)
    (hlimit : body.height ≤ limit) :
    ∃ b p, p.Proper ∧ c.sql e = .ok p.text ∧
      (∀ q : SqlCondition, q.Proper → q.text = p.text → q = p) ∧ p.holds? row = some b ∧
      (c.onRow row body).evaluate c.env limit = .ok (.bool b) := by
  have hagrees : c.Agrees row body (c.compile e) := by
    rcases he with rfl | ⟨params, rfl⟩
    · exact hb.agrees hd hrow (by omega)
    · exact hb.agrees_lambda params hd hrow hm
  obtain ⟨b, f, hf, hmeans, hv⟩ := hagrees
  -- the text is read back as one condition, and the evaluator has room for the value
  obtain ⟨p, hp, hpb, hpt⟩ := condition_of_render (c := c) hd hmeans
  refine ⟨b, p, hp, ?_, fun q hq h => SqlCondition.text_inj hq hp h, hpb, ?_⟩
  · rw [sql, hf, ← hpt]
    rfl
  · rw [Expr.evaluate_eq_value (Nat.le_trans (height_onRow_le body) hlimit)]
    exact hv

/-- The orders that are not open or have more than three pieces. -/
def closedOrLarge : Expr :=
  .binary .orElse
    (.negation (.member (.parameter "o" (.entity "Orders")) "Open" (some "Orders") .bool))
    (.binary .greaterThan
      (.member (.parameter "o" (.entity "Orders")) "Pieces" (some "Orders") (.int .int64))
      (.ofValue (.int 3)))

theorem holds_of_sql_closedOrLarge :
    let row : SqlRow := fun reference => if reference = "Open" then .bool true else .int 7
    let e := Expr.lambda [⟨"o", .entity "Orders"⟩] closedOrLarge
    (bare .generic).sql e = .ok "(NOT (Open=true) OR (Pieces > 3))" ∧
      ∃ b p, p.Proper ∧ (bare .generic).sql e = .ok p.text ∧
        (∀ q : SqlCondition, q.Proper → q.text = p.text → q = p) ∧ p.holds? row = some b ∧
        ((bare .generic).onRow row closedOrLarge).evaluate (bare .generic).env 3 =
          .ok (.bool b) := by
  intro row e
  have hopen : (bare .generic).IsColumnOf .bool
      (.member (.parameter "o" (.entity "Orders")) "Open" (some "Orders") .bool) :=
    .member _ _ _ _ rfl
  have hpieces : (bare .generic).IsColumnOf (.int .int64)
      (.member (.parameter "o" (.entity "Orders")) "Pieces" (some "Orders") (.int .int64)) :=
    .member _ _ _ _ rfl
  have hb : (bare .generic).IsPredicate closedOrLarge :=
    .connective rfl (.not _ _ (.column hopen))
      (.compare .greaterThan (.column hpieces) (.constant 3))
  have hrow : (bare .generic).Fits row closedOrLarge := by decide +kernel
  refine ⟨Except.eq_ok_of_toOption (by decide +kernel), ?_⟩
  exact holds_of_sql rfl (.inr ⟨_, rfl⟩) hb hrow (by decide) (by decide)

end Context

end QueryClause
