import QueryClause.Proofs.Compile.Shape

/-!
# The operands of connectives and negations

`Expr.IsBoolean` describes the trees of connectives, negations and conversions over truth values,
columns, and comparisons of a column with a constant.  `Context.Operand` says which texts the
compiler of an expression puts down as operands of `AND`, `OR` and `NOT`.

A column that stands there is compared with true, and a truth value becomes a condition, but both
are recognized by the form of the operand itself.  Two forms escape (`Expr.escapes`): the conversion
of a column, and a connective of truth values.  So the operands are conditions if and only if no
node has an operand that escapes (`Context.operands_are_predicates_iff`).

The induction carries two things about an expression: what it compiles to (`Context.Stands`), and
that its own operands decide the question (`Context.Decided`).
-/

namespace QueryClause

namespace Expr

/-- Whether an expression of truth values is computed without being written; a connective is written
even if it can be computed. -/
def isHostValue : Expr → Bool
  | constant .. => true
  | unary _ operand _ _ => operand.isHostValue
  | _ => false

/-- Whether an expression that is no column itself is written as a bare column or truth value. -/
def escapes : Expr → Bool
  | unary .convert operand _ _ => operand.isColumn || operand.escapes
  | binary op left right => op.isLogical && left.isHostValue && right.isHostValue
  | _ => false

/-- Whether a connective or a negation has an operand that escapes. -/
def hasBareOperand : Expr → Bool
  | binary op left right => op.isLogical && (left.escapes || right.escapes)
  | unary .not operand _ _ => operand.escapes
  | _ => false

/-- An expression of truth values. -/
inductive IsBoolean : Expr → Prop where
  | constant (b : Bool) : IsBoolean (.ofValue (.bool b))
  | column {e : Expr} (h : e.isColumn = true) : IsBoolean e
  | columnFirst (o : Comparison) {e : Expr} (h : e.isColumn = true) (v : Value)
    (type : HostType) : IsBoolean (.binary o.op e (.constant v type))
  | columnLast (o : Comparison) {e : Expr} (h : e.isColumn = true) (v : Value)
    (type : HostType) : IsBoolean (.binary o.op (.constant v type) e)
  | not {e : Expr} (type : HostType) (via : Option String) (h : IsBoolean e) :
    IsBoolean (.unary .not e type via)
  | convert {e : Expr} (h : IsBoolean e) : IsBoolean (.unary .convert e .bool none)
  | connective {op : BinaryOp} {left right : Expr} (hop : op.isLogical = true)
    (hl : IsBoolean left) (hr : IsBoolean right) : IsBoolean (.binary op left right)

end Expr

namespace Context

variable {c : Context} {e : Expr} {f : Fragment} {s : String} {depth : Nat}

/-- The text under a negation. -/
def negatedText (c : Context) (e : Expr) (f : Fragment) : String :=
  if e.isColumn then c.isTrue f else f.render c.target

/-- A node that is compiled at a depth puts down a text as an operand of `AND`, `OR` or `NOT`. -/
inductive NodeOperand (c : Context) (s : String) (depth : Nat) : Expr → Prop where
  | connective {op : BinaryOp} {left right : Expr} {l r : Fragment} {t u : String}
    (hop : op.isLogical = true) (hl : c.connectiveOperand (c.compileAt (depth + 1)) left = .ok l)
    (hr : c.connectiveOperand (c.compileAt (depth + 1)) right = .ok r)
    (ht : c.condition l = .ok t) (hu : c.condition r = .ok u)
    (h : c.compileAt depth (.binary op left right) = .ok (.sql (operatorText op t u)))
    (hs : s = t ∨ s = u) : NodeOperand c s depth (.binary op left right)
  | negation {operand : Expr} {type : HostType} {via : Option String} {f : Fragment}
    (hf : c.compileAt (depth + 1) operand = .ok f)
    (h : c.compileAt depth (.unary .not operand type via) = .ok (.sql ("NOT (" ++ s ++ ")")))
    (hs : s = c.negatedText operand f) : NodeOperand c s depth (.unary .not operand type via)

/-- The compilation of an expression at a depth puts down a text as such an operand. -/
inductive Operand (c : Context) (s : String) : Nat → Expr → Prop where
  | here {depth : Nat} {e : Expr} (h : c.NodeOperand s depth e) : Operand c s depth e
  | child {depth : Nat} {x e : Expr} (hx : x ∈ e.children) (h : Operand c s (depth + 1) x) :
    Operand c s depth e

/-- What an expression of truth values compiles to: a truth value, a bare text, or a condition. -/
inductive Stands (c : Context) (e : Expr) : Fragment → Prop where
  | value (b : Bool) (hv : e.isHostValue = true) : Stands c e (.native (.bool b))
  | bare {f : Fragment} (hv : e.isHostValue = false) (he : (e.isColumn || e.escapes) = true)
    (hsql : f.isSql = true) (h : c.IsBareText (f.render c.target)) : Stands c e f
  | predicate {f : Fragment} (hv : e.isHostValue = false) (he : (e.isColumn || e.escapes) = false)
    (hsql : f.isSql = true) (h : c.IsPredicateText (f.render c.target)) : Stands c e f

theorem Stands.isSql (h : c.Stands e f) : f.isSql = !e.isHostValue := by
  cases h with
  | value b hv => rw [hv]; rfl
  | bare hv _ hsql => rw [hv, hsql]; rfl
  | predicate hv _ hsql => rw [hv, hsql]; rfl

theorem Stands.sql_or_bool (h : c.Stands e f) :
    f.isSql = true ∨ ∃ b, f = .native (.bool b) ∧ e.isHostValue = true := by
  cases h with
  | value b hv => exact .inr ⟨b, rfl, hv⟩
  | bare _ _ hsql => exact .inl hsql
  | predicate _ _ hsql => exact .inl hsql

theorem Stands.convert {type : HostType} {via : Option String} (h : c.Stands e f) :
    c.Stands (.unary .convert e type via) f := by
  cases h with
  | value b hv => exact .value b hv
  | bare hv he hsql h => exact .bare hv he hsql h
  | predicate hv he hsql h => exact .predicate hv he hsql h

/-- The text of an operand: one that escapes is bare, and any other is a condition. -/
inductive OperandText (c : Context) (e : Expr) (s : String) : Prop where
  | bare (he : e.escapes = true) (h : c.IsBareText s)
  | predicate (he : e.escapes = false) (h : c.IsPredicateText s)

theorem OperandText.isPredicateText_iff (h : c.OperandText e s) :
    c.IsPredicateText s ↔ e.escapes = false := by
  cases h with
  | bare he h => exact iff_of_false (fun hs => hs.not_bare h) (by rw [he]; decide)
  | predicate he h => exact iff_of_true h he

/-- An expression that is no column stands as it is written. -/
theorem Stands.operandText (h : c.Stands e f) (hcol : e.isColumn = false) (hsql : f.isSql = true) :
    c.OperandText e (f.render c.target) := by
  cases h with
  | value => cases hsql
  | bare _ he _ h =>
    rw [hcol, Bool.false_or] at he
    exact .bare he h
  | predicate _ he _ h =>
    rw [hcol, Bool.false_or] at he
    exact .predicate he h

/-! ### Columns and constants -/

theorem isHostValue_of_isColumn (he : e.isColumn = true) : e.isHostValue = false := by
  cases e with
  | member => rfl
  | _ => cases he

theorem escapes_of_isColumn (he : e.isColumn = true) : e.escapes = false := by
  cases e with
  | member => rfl
  | _ => cases he

theorem stands_column (he : e.isColumn = true) (h : c.compileAt depth e = .ok f) :
    c.Stands e f := by
  have hcol := column_of_compileAt he h
  exact .bare (isHostValue_of_isColumn he) (by rw [he, Bool.true_or]) (isSql_of_column he hcol)
    (.column ⟨e, f, he, hcol, rfl⟩)

theorem stands_constant {b : Bool} (h : c.compileAt depth (.ofValue (.bool b)) = .ok f) :
    c.Stands (.ofValue (.bool b)) f := by
  rw [compileAt_ofValue rfl rfl (compileNode_of_compileAt h).1] at h
  cases h
  exact .value b rfl

/-! ### Comparisons -/

theorem stands_comparison {left right : Expr} (o : Comparison)
    (hcol : left.isColumn = true ∨ right.isColumn = true)
    (h : c.compileAt depth (.binary o.op left right) = .ok f) :
    c.Stands (.binary o.op left right) f := by
  have hop : o.op.isLogical = false := by cases o <;> rfl
  obtain ⟨-, hnode⟩ := compileNode_of_compileAt h
  rw [compileNode_operator hop] at hnode
  obtain ⟨l, hl, hnode⟩ := Except.bind_eq_ok_iff.1 hnode
  obtain ⟨r, hr, hnode⟩ := Except.bind_eq_ok_iff.1 hnode
  have hescapes : ((Expr.binary o.op left right).isColumn ||
      (Expr.binary o.op left right).escapes) = false := by
    rw [Expr.escapes, hop]
    rfl
  -- the side that is a column is written as one, and that makes the text a comparison
  have htext : ∀ {x g}, x.isColumn = true → c.compileAt (depth + 1) x = .ok g →
      g.isSql = true ∧ c.IsColumnText (g.render c.target) := by
    intro x g hx hg
    have hcolumn := column_of_compileAt hx hg
    exact ⟨isSql_of_column hx hcolumn, x, g, hx, hcolumn, rfl⟩
  rcases hcol with hcol | hcol
  · obtain ⟨hsql, hcolumn⟩ := htext hcol hl
    obtain ⟨t, rfl⟩ := operator_left hsql hnode
    exact .predicate rfl hescapes rfl (.comparison o (.inl hcolumn))
  · obtain ⟨hsql, hcolumn⟩ := htext hcol hr
    obtain ⟨t, rfl⟩ := operator_right hsql hnode
    exact .predicate rfl hescapes rfl (.comparison o (.inr hcolumn))

/-! ### Negations and conversions -/

theorem unaryOperator_not {type : HostType} (hsql : f.isSql = true) :
    c.unaryOperator .not type e.isColumn f = .ok (.sql ("NOT (" ++ c.negatedText e f ++ ")")) := by
  cases f with
  | native v => cases hsql
  | _ => rfl

theorem negatedText_spec (hf : c.compileAt depth e = .ok f) (h : c.Stands e f)
    (hsql : f.isSql = true) : c.OperandText e (c.negatedText e f) := by
  rw [negatedText]
  split
  · rename_i hcol
    have hcolumn := column_of_compileAt hcol hf
    exact .predicate (escapes_of_isColumn hcol) (.isTrue ⟨e, f, hcol, hcolumn, rfl⟩)
  · rename_i hcol
    exact h.operandText (Bool.eq_false_iff.2 hcol) hsql

theorem stands_not {type : HostType} {via : Option String}
    (ih : ∀ g, c.compileAt (depth + 1) e = .ok g → c.Stands e g)
    (h : c.compileAt depth (.unary .not e type via) = .ok f) :
    c.Stands (.unary .not e type via) f := by
  obtain ⟨g, hg, hf⟩ := exists_of_compileAt_unary rfl h
  rcases (ih g hg).sql_or_bool with hsql | ⟨b, rfl, hv⟩
  · rw [unaryOperator_not hsql] at hf
    cases hf
    refine .predicate ?_ rfl rfl (.negation _)
    rw [Expr.isHostValue, ← Bool.not_eq_true', ← (ih g hg).isSql, hsql]
  · cases hf
    exact .value _ hv

/-- A conversion to a truth value leaves its operand as it is. -/
theorem unaryOperator_convert (h : c.Stands e f) (ofColumn : Bool) :
    c.unaryOperator .convert .bool ofColumn f = .ok f := by
  rcases h.sql_or_bool with hsql | ⟨b, rfl, -⟩
  · -- SQL passes through, and so does a truth value
    cases f with
    | native v => cases hsql
    | _ => rfl
  · rfl

theorem stands_convert (ih : ∀ g, c.compileAt (depth + 1) e = .ok g → c.Stands e g)
    (h : c.compileAt depth (.unary .convert e .bool none) = .ok f) :
    c.Stands (.unary .convert e .bool none) f := by
  obtain ⟨g, hg, hf⟩ := exists_of_compileAt_unary rfl h
  have hstands := ih g hg
  rw [unaryOperator_convert hstands] at hf
  obtain rfl := Except.ok.inj hf
  exact hstands.convert

/-! ### Connectives -/

theorem escapes_of_isHostValue (h : e.isHostValue = true) : e.escapes = false := by
  -- no column and no escape, together: a conversion escapes if it is above either
  have hnone : e.isColumn = false ∧ e.escapes = false := by
    induction e with
    | constant => exact ⟨rfl, rfl⟩
    | unary op operand type via ih =>
      obtain ⟨hcol, hescapes⟩ := ih h
      refine ⟨rfl, ?_⟩
      cases op with
      | convert => rw [Expr.escapes, hcol, hescapes]; rfl
      | _ => rfl
    | _ => cases h
  exact hnone.2

/-- An operand of a connective becomes a condition, unless it escapes. -/
theorem operand_spec {l : Fragment} (ih : ∀ g, c.compileAt depth e = .ok g → c.Stands e g)
    (h : c.connectiveOperand (c.compileAt depth) e = .ok l) :
    l.isSql = !e.isHostValue ∧ ∃ s, c.condition l = .ok s ∧ c.OperandText e s := by
  rw [connectiveOperand] at h
  split at h
  · -- a column becomes the condition that it is true
    rename_i hcol
    rw [trueColumn, Except.map_eq_ok_iff] at h
    obtain ⟨g, hg, rfl⟩ := h
    rw [isHostValue_of_isColumn hcol]
    exact ⟨rfl, _, rfl, .predicate (escapes_of_isColumn hcol) (.isTrue ⟨e, g, hcol, hg, rfl⟩)⟩
  · -- anything else is compiled as it stands
    rename_i hcol
    have hstands := ih l h
    refine ⟨hstands.isSql, ?_⟩
    rcases hstands.sql_or_bool with hsql | ⟨b, rfl, hv⟩
    · have hwritten : c.condition l = .ok (l.render c.target) := by
        cases l with
        | native v => cases hsql
        | _ => rfl
      exact ⟨_, hwritten, hstands.operandText (Bool.eq_false_iff.2 hcol) hsql⟩
    · -- a constant beside SQL becomes a condition that always or never holds
      have hescapes := escapes_of_isHostValue hv
      cases b with
      | false => exact ⟨_, rfl, .predicate hescapes .never⟩
      | true => exact ⟨_, rfl, .predicate hescapes .always⟩

theorem stands_connective {op : BinaryOp} {left right : Expr} (hop : op.isLogical = true)
    (ihl : ∀ g, c.compileAt (depth + 1) left = .ok g → c.Stands left g)
    (ihr : ∀ g, c.compileAt (depth + 1) right = .ok g → c.Stands right g)
    (h : c.compileAt depth (.binary op left right) = .ok f) :
    c.Stands (.binary op left right) f := by
  obtain ⟨l, r, hl, hr, hf⟩ := exists_of_compileAt_connective hop h
  obtain ⟨hlsql, s, hs, -⟩ := operand_spec ihl hl
  obtain ⟨hrsql, t, ht, -⟩ := operand_spec ihr hr
  -- a connective escapes if no operand is SQL
  have hbare : ((Expr.binary op left right).isColumn || (Expr.binary op left right).escapes) =
      !(l.isSql || r.isSql) := by
    rw [hlsql, hrsql, Bool.not_or, Bool.not_not, Bool.not_not, Expr.escapes, hop, Bool.true_and]
    rfl
  cases hsql : l.isSql || r.isSql with
  | true =>
    rw [connective_written hsql hs ht] at hf
    cases hf
    exact .predicate rfl (by rw [hbare, hsql]; rfl) rfl (.connective hop s t)
  | false =>
    -- two truth values are joined by the evaluator, and the result is written at once
    rw [connective_eq, hsql] at hf
    obtain ⟨v, hv, hf⟩ := Except.bind_eq_ok_iff.1 hf
    obtain ⟨b, rfl⟩ := Expr.bool_of_value_connective hop (value_of_fold hv)
    cases hf
    exact .bare rfl (by rw [hbare, hsql]; rfl) rfl (.literal b)

/-- What an expression of truth values compiles to. -/
theorem stands_of_compileAt (he : e.IsBoolean) (h : c.compileAt depth e = .ok f) :
    c.Stands e f := by
  induction he generalizing depth f with
  | constant b => exact stands_constant h
  | column hcol => exact stands_column hcol h
  | columnFirst o hcol v type => exact stands_comparison o (.inl hcol) h
  | columnLast o hcol v type => exact stands_comparison o (.inr hcol) h
  | not type via he ih => exact stands_not (fun g hg => ih hg) h
  | convert he ih => exact stands_convert (fun g hg => ih hg) h
  | connective hop hl hr ihl ihr =>
    exact stands_connective hop (fun g hg => ihl hg) (fun g hg => ihr hg) h

/-! ### What is put down -/

/-- Every operand that a compilation puts down is a condition, if and only if no node has an operand
that escapes. -/
def Decided (c : Context) (depth : Nat) (e : Expr) : Prop :=
  (∀ s, c.Operand s depth e → c.IsPredicateText s) ↔ e.Lacks Expr.hasBareOperand

/-- The operands of an expression are those of its root and of its children. -/
theorem decided_of_node (hnode : (∀ s, c.NodeOperand s depth e → c.IsPredicateText s) ↔
      e.hasBareOperand = false)
    (hchildren : ∀ x ∈ e.children, c.Decided (depth + 1) x) : c.Decided depth e := by
  rw [Decided, Expr.lacks_iff, ← hnode]
  constructor
  · intro h
    exact ⟨fun s hs => h s (.here hs), fun x hx => (hchildren x hx).1 fun s hs =>
      h s (.child hx hs)⟩
  · rintro ⟨hroot, hbelow⟩ s hs
    cases hs with
    | here h => exact hroot s h
    | child hx h => exact (hchildren _ hx).2 (hbelow _ hx) s h

/-- Without operands of its own, an expression is decided by its children. -/
theorem decided_of_children (hnode : ∀ s, ¬ c.NodeOperand s depth e)
    (hbare : e.hasBareOperand = false) (hchildren : ∀ x ∈ e.children, c.Decided (depth + 1) x) :
    c.Decided depth e :=
  decided_of_node ⟨fun _ => hbare, fun _ s hs => absurd hs (hnode s)⟩ hchildren

theorem decided_constant (v : Value) (type : HostType) : c.Decided depth (.constant v type) :=
  decided_of_children (fun _ hs => by cases hs) rfl (List.forall_mem_nil _)

theorem decided_parameter (name : String) (type : HostType) :
    c.Decided depth (.parameter name type) :=
  decided_of_children (fun _ hs => by cases hs) rfl (List.forall_mem_nil _)

theorem decided_convert {type : HostType} {via : Option String} (ih : c.Decided (depth + 1) e) :
    c.Decided depth (.unary .convert e type via) :=
  decided_of_children (fun _ hs => by cases hs) rfl (List.forall_mem_singleton.2 ih)

theorem decided_row (he : e.isRow = true) : c.Decided depth e := by
  unfold Expr.isRow at he
  split at he
  · exact decided_parameter _ _
  · exact decided_convert (decided_parameter _ _)
  · cases he

theorem decided_column (he : e.isColumn = true) : c.Decided depth e := by
  cases e with
  | member target name declaring type =>
    exact decided_of_children (fun _ hs => by cases hs) rfl
      (List.forall_mem_singleton.2 (decided_row he))
  | _ => cases he

theorem decided_comparison {left right : Expr} (o : Comparison)
    (hl : c.Decided (depth + 1) left) (hr : c.Decided (depth + 1) right) :
    c.Decided depth (.binary o.op left right) := by
  have hop : o.op.isLogical = false := by cases o <;> rfl
  refine decided_of_children (fun s hs => ?_) ?_ fun x hx => ?_
  · cases hs with
    | connective hop' => rw [hop] at hop'; cases hop'
  · rw [Expr.hasBareOperand, hop]
    rfl
  · rcases List.mem_pair.1 hx with rfl | rfl
    · exact hl
    · exact hr

theorem nodeOperand_not_iff {type : HostType} {via : Option String} {g : Fragment}
    (hg : c.compileAt (depth + 1) e = .ok g)
    (h : c.compileAt depth (.unary .not e type via) = .ok f) :
    c.NodeOperand s depth (.unary .not e type via) ↔ g.isSql = true ∧ s = c.negatedText e g := by
  obtain ⟨g', hg', hf⟩ := exists_of_compileAt_unary rfl h
  obtain rfl : g = g' := Except.ok.inj (hg.symm.trans hg')
  constructor
  · intro hs
    cases hs with
    | negation hg' h' hs =>
      obtain rfl : g = _ := Except.ok.inj (hg.symm.trans hg')
      refine ⟨?_, hs⟩
      obtain rfl : f = _ := Except.ok.inj (h.symm.trans h')
      -- a computed negation is no SQL
      cases g with
      | native v =>
        obtain ⟨w, -, hw⟩ := ofValue_eq_ok_iff.1 hf
        cases hw
      | _ => rfl
  · rintro ⟨hsql, rfl⟩
    rw [unaryOperator_not hsql] at hf
    exact .negation hg (by rw [h, hf]) rfl

theorem decided_not {type : HostType} {via : Option String} {g : Fragment}
    (hg : c.compileAt (depth + 1) e = .ok g) (hstands : c.Stands e g)
    (h : c.compileAt depth (.unary .not e type via) = .ok f)
    (ih : c.Decided (depth + 1) e) : c.Decided depth (.unary .not e type via) := by
  refine decided_of_node ⟨fun hall => ?_, fun hescapes s hs => ?_⟩ (List.forall_mem_singleton.2 ih)
  · -- the operand is put down if it is SQL, and a value does not escape
    cases hsql : g.isSql with
    | true =>
      have hoperand := hall _ ((nodeOperand_not_iff hg h).2 ⟨hsql, rfl⟩)
      exact (negatedText_spec hg hstands hsql).isPredicateText_iff.1 hoperand
    | false =>
      rw [hstands.isSql, Bool.not_eq_false'] at hsql
      exact escapes_of_isHostValue hsql
  · obtain ⟨hsql, rfl⟩ := (nodeOperand_not_iff hg h).1 hs
    exact (negatedText_spec hg hstands hsql).isPredicateText_iff.2 hescapes

theorem nodeOperand_connective_iff {op : BinaryOp} {left right : Expr} {l r : Fragment}
    {t u : String} (hop : op.isLogical = true)
    (hl : c.connectiveOperand (c.compileAt (depth + 1)) left = .ok l)
    (hr : c.connectiveOperand (c.compileAt (depth + 1)) right = .ok r)
    (ht : c.condition l = .ok t) (hu : c.condition r = .ok u)
    (h : c.compileAt depth (.binary op left right) = .ok f) :
    c.NodeOperand s depth (.binary op left right) ↔
      (l.isSql || r.isSql) = true ∧ (s = t ∨ s = u) := by
  obtain ⟨l', r', hl', hr', hf⟩ := exists_of_compileAt_connective hop h
  obtain rfl : l = l' := Except.ok.inj (hl.symm.trans hl')
  obtain rfl : r = r' := Except.ok.inj (hr.symm.trans hr')
  constructor
  · intro hs
    cases hs with
    | connective _ hl' hr' ht' hu' h' hs =>
      obtain rfl : l = _ := Except.ok.inj (hl.symm.trans hl')
      obtain rfl : r = _ := Except.ok.inj (hr.symm.trans hr')
      obtain rfl : t = _ := Except.ok.inj (ht.symm.trans ht')
      obtain rfl : u = _ := Except.ok.inj (hu.symm.trans hu')
      obtain rfl : f = _ := Except.ok.inj (h.symm.trans h')
      refine ⟨?_, hs⟩
      by_contra hnone
      -- a computed connective is the literal of a truth value, which no parenthesis opens
      rw [connective_eq, if_neg hnone] at hf
      obtain ⟨v, hv, hf⟩ := Except.bind_eq_ok_iff.1 hf
      obtain ⟨b, rfl⟩ := Expr.bool_of_value_connective hop (value_of_fold hv)
      have htext := Fragment.sql.inj (Except.ok.inj hf)
      exact (literal_marks c.target b).1 (by rw [htext, head_connective hop])
  · rintro ⟨hsql, hs⟩
    rw [connective_written hsql ht hu] at hf
    exact .connective hop hl hr ht hu (by rw [h, hf]) hs

/-- The operand of a connective is a column, or is compiled like any other expression. -/
theorem decided_operand {l : Fragment} (ih : ∀ g, c.compileAt depth e = .ok g → c.Decided depth e)
    (h : c.connectiveOperand (c.compileAt depth) e = .ok l) : c.Decided depth e := by
  rw [connectiveOperand] at h
  split at h
  · exact decided_column ‹_›
  · exact ih l h

theorem decided_connective {op : BinaryOp} {left right : Expr} (hop : op.isLogical = true)
    (hleft : left.IsBoolean) (hright : right.IsBoolean)
    (ihl : ∀ g, c.compileAt (depth + 1) left = .ok g → c.Decided (depth + 1) left)
    (ihr : ∀ g, c.compileAt (depth + 1) right = .ok g → c.Decided (depth + 1) right)
    (h : c.compileAt depth (.binary op left right) = .ok f) :
    c.Decided depth (.binary op left right) := by
  obtain ⟨l, r, hl, hr, -⟩ := exists_of_compileAt_connective hop h
  obtain ⟨hlsql, t, ht, hleftText⟩ := operand_spec (fun g => stands_of_compileAt hleft) hl
  obtain ⟨hrsql, u, hu, hrightText⟩ := operand_spec (fun g => stands_of_compileAt hright) hr
  -- both operands are put down if one of them is SQL
  have hiff (s : String) : c.NodeOperand s depth (.binary op left right) ↔
      (l.isSql || r.isSql) = true ∧ (s = t ∨ s = u) :=
    nodeOperand_connective_iff hop hl hr ht hu h
  have hbare : (Expr.binary op left right).hasBareOperand = false ↔
      left.escapes = false ∧ right.escapes = false := by
    rw [Expr.hasBareOperand, hop, Bool.true_and, Bool.or_eq_false_iff]
  refine decided_of_node (Iff.trans ⟨fun hall => ?_, fun hescapes s hs => ?_⟩ hbare.symm)
    fun x hx => ?_
  · cases hsql : l.isSql || r.isSql with
    | true =>
      have hleftOperand := hall t ((hiff t).2 ⟨hsql, .inl rfl⟩)
      have hrightOperand := hall u ((hiff u).2 ⟨hsql, .inr rfl⟩)
      exact ⟨hleftText.isPredicateText_iff.1 hleftOperand,
        hrightText.isPredicateText_iff.1 hrightOperand⟩
    | false =>
      -- nothing is put down, and two values do not escape
      rw [hlsql, hrsql, Bool.or_eq_false_iff, Bool.not_eq_false', Bool.not_eq_false'] at hsql
      exact ⟨escapes_of_isHostValue hsql.1, escapes_of_isHostValue hsql.2⟩
  · obtain ⟨-, rfl | rfl⟩ := (hiff s).1 hs
    · exact hleftText.isPredicateText_iff.2 hescapes.1
    · exact hrightText.isPredicateText_iff.2 hescapes.2
  · rcases List.mem_pair.1 hx with rfl | rfl
    · exact decided_operand ihl hl
    · exact decided_operand ihr hr

theorem decided_of_compileAt (he : e.IsBoolean) (h : c.compileAt depth e = .ok f) :
    c.Decided depth e := by
  induction he generalizing depth f with
  | constant b => exact decided_constant _ _
  | column hcol => exact decided_column hcol
  | columnFirst o hcol v type =>
    exact decided_comparison o (decided_column hcol) (decided_constant v type)
  | columnLast o hcol v type =>
    exact decided_comparison o (decided_constant v type) (decided_column hcol)
  | not type via he ih =>
    obtain ⟨g, hg, -⟩ := exists_of_compileAt_unary rfl h
    exact decided_not hg (stands_of_compileAt he hg) h (ih hg)
  | convert he ih =>
    obtain ⟨g, hg, -⟩ := exists_of_compileAt_unary rfl h
    exact decided_convert (ih hg)
  | connective hop hl hr ihl ihr =>
    exact decided_connective hop hl hr (fun g hg => ihl hg) (fun g hg => ihr hg) h

/-- **The operands of connectives and negations**: what a condition or the body of a lambda compiles
to joins and negates conditions only, if and only if none of its connectives and negations has an
operand that escapes. -/
theorem operands_are_predicates_iff {body : Expr} (hbody : body.IsBoolean)
    (he : e = body ∨ ∃ params, e = .lambda params body) (h : c.compile e = .ok f) :
    (∀ s, c.Operand s 0 e → c.IsPredicateText s) ↔ body.Lacks Expr.hasBareOperand := by
  rcases he with rfl | ⟨params, rfl⟩
  · exact decided_of_compileAt hbody h
  · have hinner : c.Decided 1 body := by
      obtain ⟨-, hnode⟩ := compileNode_of_compileAt h
      rw [compileNode] at hnode
      split at hnode
      · rename_i hcol
        rw [Bool.and_eq_true] at hcol
        exact decided_column hcol.2
      · exact decided_of_compileAt hbody hnode
    -- the lambda puts nothing down itself
    have hlambda : c.Decided 0 (.lambda params body) :=
      decided_of_children (fun _ hs => by cases hs) rfl (List.forall_mem_singleton.2 hinner)
    have hlacks : (Expr.lambda params body).Lacks Expr.hasBareOperand ↔
        body.Lacks Expr.hasBareOperand :=
      Expr.lacks_iff.trans ((and_iff_right rfl).trans List.forall_mem_singleton)
    exact hlambda.trans hlacks

theorem operands_are_predicates_iff_closedOrLarge :
    let c := bare .sqlServer
    let body := Expr.binary .andAlso (.ofValue (.bool true)) closedOrLarge
    let e := Expr.lambda [⟨"o", .entity "Orders"⟩] body
    c.sql e = .ok "((1=1) AND (NOT ([Open]=1) OR ([Pieces] > 3)))" ∧
      ∀ s, c.Operand s 0 e → c.IsPredicateText s := by
  intro c body e
  have hbody : body.IsBoolean :=
    .connective rfl (.constant true)
      (.connective rfl (.not _ _ (.column rfl)) (.columnFirst .greaterThan rfl _ _))
  obtain ⟨f, hf⟩ : ∃ f, c.compile e = .ok f := ⟨_, rfl⟩
  refine ⟨Except.eq_ok_of_toOption (by decide), ?_⟩
  exact (operands_are_predicates_iff hbody (.inr ⟨_, rfl⟩) hf).2 (by decide)

/-- Truth values that are joined, and a column that is converted, stand alone beside the word. -/
theorem not_operands_are_predicates :
    let c := bare .generic
    let e := Expr.binary .andAlso (.binary .andAlso (.ofValue (.bool true)) (.ofValue (.bool true)))
      (.binary .greaterThan pieces (.ofValue (.int 3)))
    let flag := Expr.member (.parameter "o" (.entity "Orders")) "Open" (some "Orders") .bool
    let e' := Expr.negation (.unary .convert flag .bool none)
    (e.IsBoolean ∧ c.sql e = .ok "(true AND (Pieces > 3))" ∧
      c.Operand "true" 0 e ∧ ¬ c.IsPredicateText "true") ∧
    (e'.IsBoolean ∧ c.sql e' = .ok "NOT (Open)" ∧
      c.Operand "Open" 0 e' ∧ ¬ c.IsPredicateText "Open") := by
  intro c e flag e'
  -- the text `true`, and a column
  have htrue : c.IsBareText "true" := .literal true
  have hopen : c.IsBareText "Open" := .column ⟨flag, _, rfl, rfl, by decide⟩
  refine ⟨⟨?_, Except.eq_ok_of_toOption (by decide +kernel), .here ?_, fun h => h.not_bare htrue⟩,
    ?_, Except.eq_ok_of_toOption (by decide), .here ?_, fun h => h.not_bare hopen⟩
  · exact .connective rfl (.connective rfl (.constant true) (.constant true))
      (.columnFirst .greaterThan rfl _ _)
  · exact .connective rfl rfl rfl rfl rfl rfl (.inl rfl)
  · exact .not _ _ (.convert (.column rfl))
  · exact (nodeOperand_not_iff rfl rfl).2 ⟨rfl, by decide⟩

end Context

end QueryClause
