import QueryClause.Proofs.Compile.NullTest
import QueryClause.Proofs.Compile.Predicate
import QueryClause.Proofs.Sql.Precedence

/-!
# Precedence in compiled expressions

An expression of comparisons, arithmetic, connectives and negations over columns compiles in the
generic dialect to the text of its tree (`Context.compileAt_depicts`).  That every operator has
parentheses of its own does not make the text read as the tree: a negation has them inside only, and
beside an operator that binds more tightly it takes the rest in
(`Context.reads_as_depicted_iff`).
-/

namespace QueryClause

namespace Context

/-- The column that a member of the query parameter stands for, unless it holds the names of an
enumeration. -/
def columnPath? (c : Context) : Expr → Option ColumnPath
  | .member target name declaring type => do
    let entity ← target.entityOf? declaring
    let f := c.lookUp entity name type
    if target.isRow && f.type.underlying.enumType?.isNone then
      return ⟨c.aliases.qualifier? entity f.table, f.column⟩
    else none
  | _ => none

/-- An expression of operators over columns, and its tree. -/
inductive Depicts (c : Context) : Expr → OperatorTree → Prop where
  | column {e : Expr} {p : ColumnPath} (h : c.columnPath? e = some p) : Depicts c e (.column p)
  | not {e : Expr} {t : OperatorTree} (h : Depicts c e t) (type : HostType) (via : Option String) :
    Depicts c (.unary .not e type via) (.not t)
  | binary {x y : Expr} {l r : OperatorTree} (o : TreeOp) (hl : Depicts c x l)
    (hr : Depicts c y r) : Depicts c (.binary o.op x y) (.binary o l r)

variable {c : Context} {depth : Nat} {e : Expr} {t : OperatorTree}

/-! ### Texts -/

theorem column_of_columnPath? {p : ColumnPath} (hd : c.target.dialect = .generic)
    (h : c.columnPath? e = some p) : e.isColumn = true ∧ c.column e = .ok (.sql p.text) := by
  cases e with
  | member target name declaring type =>
    obtain ⟨entity, hentity, h⟩ := Option.bind_eq_some_iff.1 h
    dsimp only at h
    split at h
    · rename_i hcol
      rw [Bool.and_eq_true, Option.isNone_iff_eq_none] at hcol
      cases h
      refine ⟨hcol.1, ?_⟩
      rw [column, hentity]
      dsimp only
      rw [columnFragment, hcol.2, columnText, ColumnPath.text, hd]
      cases c.aliases.qualifier? entity (c.lookUp entity name type).table <;> rfl
    · cases h
  | _ => cases h

theorem not_null_write (t : OperatorTree) : ¬ ReadsAsNull (t.write false) := by
  -- all but a column stand in parentheses
  have hopen : ∀ s : String, '(' ∈ s.toList → ¬ ReadsAsNull s := fun s h =>
    not_null_of_mem h (by decide)
  cases t with
  | column p =>
    have htext : (OperatorTree.column p).write false = p.text := by simp [OperatorTree.write]
    rw [htext]
    exact p.not_null_text
  | not x => exact hopen _ (by simp [OperatorTree.write])
  | binary o l r => exact hopen _ (by simp [OperatorTree.write])

theorem operatorText_write (o : TreeOp) (l r : OperatorTree) (condition : Bool) :
    operatorText o.op (l.write o.isConnective) (r.write o.isConnective) =
      (OperatorTree.binary o l r).write condition := by
  cases o with
  | compare o =>
    -- no operand reads as null, so equality is written with its token
    obtain ⟨hequal, hnotEqual⟩ := operatorText_of_not_null (l.write false) (not_null_write r)
    cases o with
    | equal =>
      refine hequal.trans (String.toList_inj.1 ?_)
      simp [OperatorTree.write, TreeOp.isConnective, TreeOp.op, Comparison.op, BinaryOp.sqlToken]
    | notEqual =>
      refine hnotEqual.trans (String.toList_inj.1 ?_)
      simp [OperatorTree.write, TreeOp.isConnective, TreeOp.op, Comparison.op, BinaryOp.sqlToken]
    | _ => rfl
  | _ => rfl

theorem condition_sql (s : String) : c.condition (.sql s) = .ok s := rfl

/-- An expression of operators over columns compiles to the text of its tree. -/
theorem compileAt_depicts (hd : c.target.dialect = .generic) (h : c.Depicts e t)
    (hm : depth + e.height ≤ c.options.maxDepth) :
    c.compileAt depth e = .ok (.sql (t.write false)) ∧
      c.connectiveOperand (c.compileAt depth) e = .ok (.sql (t.write true)) := by
  induction h generalizing depth with
  | column h =>
    obtain ⟨hcol, hcolumn⟩ := column_of_columnPath? hd h
    constructor
    · rw [compileAt_column hcol (by omega), hcolumn, OperatorTree.write]
      simp
    · rw [connectiveOperand, if_pos hcol, trueColumn, hcolumn, OperatorTree.write, if_pos rfl]
      rw [Except.map, isTrue_text hd]
      rfl
  | not h type via ih =>
    rename_i x u
    have hroom := Expr.room_of_child (x := x) List.mem_cons_self hm
    have hlimit : depth + 1 ≤ c.options.maxDepth := by omega
    obtain ⟨hx, hcondition⟩ := ih hroom
    have hnot : c.unaryOperator .not type x.isColumn (.sql (u.write false)) =
        .ok (.sql ((OperatorTree.not u).write false)) := by
      rw [connectiveOperand] at hcondition
      cases hcol : x.isColumn with
      | true =>
        -- as a condition, the column is compared with true
        rw [if_pos hcol, trueColumn, ← compileAt_column hcol hlimit, hx]
          at hcondition
        rw [OperatorTree.write, ← Fragment.sql.inj (Except.ok.inj hcondition)]
        rfl
      | false =>
        rw [hcol, if_neg Bool.false_ne_true, hx] at hcondition
        rw [OperatorTree.write, ← Fragment.sql.inj (Except.ok.inj hcondition)]
        rfl
    have hcompile : c.compileAt depth (.unary .not x type via) =
        .ok (.sql ((OperatorTree.not u).write false)) := by
      rw [compileAt_eq, if_neg (by omega), compileNode, if_neg (by simp), hx]
      exact hnot
    exact ⟨hcompile, hcompile⟩
  | binary o hl hr ihl ihr =>
    rename_i x y l r
    obtain ⟨hx, hx'⟩ := ihl (Expr.room_of_child (x := x) List.mem_cons_self hm)
    obtain ⟨hy, hy'⟩ := ihr
      (Expr.room_of_child (x := y) (List.mem_cons_of_mem _ List.mem_cons_self) hm)
    have hcompile : c.compileAt depth (.binary o.op x y) =
        .ok (.sql ((OperatorTree.binary o l r).write false)) := by
      rw [← operatorText_write]
      -- a connective takes its operands as conditions, all else as they are
      cases hop : o.isConnective with
      | true =>
        rw [compileAt_eq, if_neg (by omega), compileNode_connective (o.isLogical_op.trans hop), hx',
          hy']
        exact connective_written (e := .binary o.op x y) rfl (condition_sql _) (condition_sql _)
      | false =>
        rw [compileAt_operator (o.isLogical_op.trans hop) hx hy]
        rfl
    exact ⟨hcompile, hcompile⟩

/-- **Reading by precedence**: an expression of comparisons, arithmetic, connectives and negations
over columns compiles, and its text reads as its tree if and only if no negation stands beside an
operator that binds more tightly.  Where none does, the text reads as no other tree.  Readers may
differ in whether they let a negation stand on the right of such an operator; on the left it is read
in another way by all of them. -/
theorem reads_as_depicted_iff {root : Expr} (hd : c.target.dialect = .generic)
    (hclause : c.clause = .fieldList) (h : c.Depicts e t)
    (hroot : root = e ∨ ∃ params, root = .lambda params e)
    (hm : root.height ≤ c.options.maxDepth) :
    ∃ s, c.sql root = .ok s ∧ ∀ nested,
      (SqlTree.read? nested s = some (t.sql false) ↔ t.isApart nested = true) ∧
      (t.isApart nested = true → ∀ u : OperatorTree,
        SqlTree.read? nested s = some (u.sql false) → u = t) := by
  refine ⟨t.write false, ?_, fun nested => ⟨t.read?_write_iff nested, fun hapart u hu => ?_⟩⟩
  · have hroom : 0 + root.height ≤ c.options.maxDepth := by omega
    rcases hroot with rfl | ⟨params, rfl⟩
    · rw [sql, compile, (compileAt_depicts hd h hroom).1]
      rfl
    · have hbody := Expr.room_of_child (x := e) List.mem_cons_self hroom
      -- in a list of fields, the body of a lambda is written as it stands
      have hpredicate :
          (decide (0 = 0) && decide (c.clause = .predicate) && e.isColumn) = false := by
        rw [hclause]
        rfl
      rw [sql, compile, compileAt_eq, if_neg (by omega), compileNode, hpredicate,
        if_neg Bool.false_ne_true, (compileAt_depicts hd h hbody).1]
      rfl
  · rw [(t.read?_write_iff nested).2 hapart] at hu
    exact (OperatorTree.sql_inj (Option.some.inj hu)).symm

/-- The compiler of field lists in the generic dialect without a schema. -/
def bareFields : Context := { bare .generic with clause := .fieldList }

/-- A truth value of an order. -/
def flag (name : String) : Expr :=
  .member (.parameter "o" (.entity "Orders")) name (some "Orders") .bool

theorem depicts_flag (name : String) : bareFields.Depicts (flag name) (.column ⟨none, name⟩) :=
  .column rfl

theorem depicts_pieces : bareFields.Depicts pieces (.column ⟨none, "Pieces"⟩) := .column rfl

theorem reads_as_depicted_iff_pieces :
    let params := [⟨"o", .entity "Orders"⟩]
    let area := Expr.binary .multiply pieces (.binary .add pieces pieces)
    let e := Expr.binary .andAlso (.unary .not (flag "Open") .bool none)
      (.binary .greaterThan area pieces)
    let column := OperatorTree.column ⟨none, "Pieces"⟩
    let area' := OperatorTree.binary .multiply column (.binary .add column column)
    let t := OperatorTree.binary .and (.not (.column ⟨none, "Open"⟩))
      (.binary (.compare .greaterThan) area' column)
    t.isApart false = true ∧ ∃ s, bareFields.sql (.lambda params e) = .ok s ∧ ∀ nested,
      (SqlTree.read? nested s = some (t.sql false) ↔ t.isApart nested = true) ∧
      (t.isApart nested = true → ∀ u : OperatorTree,
        SqlTree.read? nested s = some (u.sql false) → u = t) := by
  intro params area e column area' t
  have harea : bareFields.Depicts area area' :=
    .binary .multiply depicts_pieces (.binary .add depicts_pieces depicts_pieces)
  have hnot : bareFields.Depicts (.unary .not (flag "Open") .bool none)
      (.not (.column ⟨none, "Open"⟩)) := .not (depicts_flag "Open") .bool none
  have h : bareFields.Depicts e t :=
    .binary .and hnot (.binary (.compare .greaterThan) harea depicts_pieces)
  exact ⟨rfl, reads_as_depicted_iff rfl rfl h (.inr ⟨params, rfl⟩) (by decide)⟩

/-- A negated comparison that is compared itself has the condition of another expression. -/
theorem not_reads_as_depicted :
    let open' := OperatorTree.column ⟨none, "Open"⟩
    let paid := OperatorTree.column ⟨none, "Paid"⟩
    let sent := OperatorTree.column ⟨none, "Sent"⟩
    let equal := TreeOp.compare .equal
    let negated := Expr.unary .not (.binary .equal (flag "Open") (flag "Paid")) .bool none
    let e := Expr.binary .equal negated (flag "Sent")
    let t := OperatorTree.binary equal (.not (.binary equal open' paid)) sent
    let u := OperatorTree.not (.binary equal (.binary equal open' paid) sent)
    bareFields.Depicts e t ∧ bareFields.sql e = .ok "(NOT ((Open = Paid)) = Sent)" ∧ t ≠ u ∧
      ∀ nested, SqlTree.read? nested "(NOT ((Open = Paid)) = Sent)" = some (u.sql false) ∧
        SqlTree.read? nested "(NOT ((Open = Paid)) = Sent)" ≠ some (t.sql false) := by
  intro open' paid sent equal negated e t u
  have hpair : bareFields.Depicts (.binary .equal (flag "Open") (flag "Paid"))
      (.binary equal open' paid) := .binary equal (depicts_flag "Open") (depicts_flag "Paid")
  have h : bareFields.Depicts e t := .binary equal (.not hpair .bool none) (depicts_flag "Sent")
  have hsql : bareFields.sql e = .ok "(NOT ((Open = Paid)) = Sent)" :=
    Except.eq_ok_of_toOption (by decide +kernel)
  refine ⟨h, hsql, by decide, fun nested => ?_⟩
  -- read to its end, the negation takes in the second comparison
  have hread : SqlTree.read? nested "(NOT ((Open = Paid)) = Sent)" = some (u.sql false) := by
    cases nested <;> decide
  refine ⟨hread, ?_⟩
  rw [hread]
  decide

end Context

end QueryClause
