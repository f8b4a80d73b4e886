import QueryClause.Proofs.Compile.Folding

/-!
# Operands that the evaluator leaves out

The evaluator does not look at a right operand that its left neighbour makes irrelevant, but the
compiler compiles it.  What the evaluator can compute therefore compiles exactly if each of these
operands does (`Context.compile_ok_iff`): the idiom that tests for null before it reads a member
does not (`Context.not_compile_guarded`).  The evaluator and the compiler are two runs, so this is
about expressions that make no new identifier.

`Expr.Skips` finds the operands that are left out on the way of the compiler.
-/

namespace QueryClause

namespace Expr

/-- Whether a node has a meaning in a query alone: a lambda, a query parameter, or a function of the
type `Sql`. -/
def isQueryNode : Expr → Bool
  | lambda .. | parameter .. => true
  | e => e.isQueryCall

theorem isRow_eq_false {e : Expr} (h : e.Lacks isQueryNode) : e.isRow = false := by
  unfold isRow
  split
  · cases h.root
  · cases (h.child (x := parameter _ _) List.mem_cons_self).root
  · rfl

theorem isColumn_eq_false {e : Expr} (h : e.Lacks isQueryNode) : e.isColumn = false := by
  cases e with
  | member target => exact isRow_eq_false (h.child List.mem_cons_self)
  | _ => rfl

theorem isColumnRooted_eq_false {e : Expr} (h : e.Lacks isQueryNode) :
    e.isColumnRooted = false := by
  induction e with
  | member target => exact isRow_eq_false (h.child List.mem_cons_self)
  | call target method args owner type ih => exact ih (h.child List.mem_cons_self)
  | unary op operand type via ih =>
    cases op with
    | convert => exact ih (h.child List.mem_cons_self)
    | _ => rfl
  | _ => rfl

/-- The compiler meets the operator on the way through an expression, and the evaluator would leave
out its right operand. -/
inductive Skips (env : Environment) (op : BinaryOp) (left right : Expr) : Expr → Prop where
  | here {a v : Value} (hl : left.value env = .ok a) (hs : shortCircuit? op a = some v) :
    Skips env op left right (binary op left right)
  | left {op' : BinaryOp} {l r : Expr} (h : Skips env op left right l) :
    Skips env op left right (binary op' l r)
  | right {op' : BinaryOp} {l r : Expr} {a : Value} (hl : l.value env = .ok a)
    (hs : shortCircuit? op' a = none) (h : Skips env op left right r) :
    Skips env op left right (binary op' l r)
  | operand {op' : UnaryOp} {operand : Expr} {type : HostType} {via : Option String}
    (hop : (op' = .convert && via.isSome) = false) (h : Skips env op left right operand) :
    Skips env op left right (unary op' operand type via)
  | item {e collection item : Expr} (hs : e.search? = some (collection, item))
    (h : Skips env op left right item) : Skips env op left right e

end Expr

/-- Whether a fragment can be an operand of a connective that is written out. -/
def Fragment.isCondition : Fragment → Bool
  | native (.bool _) => true
  | native _ => false
  | _ => true

namespace Context

variable {c : Context}

/-- A right operand that is left out does not stand in the way: it compiles, and beside SQL in a
connective it compiles to a condition. -/
def Harmless (c : Context) (op : BinaryOp) (left right : Expr) : Prop :=
  ∃ g, c.compile right = .ok g ∧
    (op.isLogical = true → ∀ f, c.compile left = .ok f → f.isSql = true → g.isCondition = true)

/-! ### Steps that succeed -/

theorem isCondition_of_isSql {f : Fragment} (h : f.isSql = true) : f.isCondition = true := by
  cases f with
  | native => cases h
  | _ => rfl

theorem condition_ok_iff {f : Fragment} :
    (∃ s, c.condition f = .ok s) ↔ f.isCondition = true := by
  unfold condition Fragment.isCondition
  split <;> simp_all

theorem connective_ok {e : Expr} {op : BinaryOp} {l r : Fragment} (he : ∃ v, c.fold e = .ok v)
    (h : (l.isSql || r.isSql) = true → l.isCondition = true ∧ r.isCondition = true) :
    ∃ f, c.connective e op l r = .ok f := by
  rw [connective_eq]
  split
  · rename_i hsql
    rw [← condition_ok_iff (c := c), ← condition_ok_iff (c := c)] at h
    obtain ⟨⟨s, hs⟩, ⟨t, ht⟩⟩ := h hsql
    rw [hs, ht]
    exact ⟨_, rfl⟩
  · obtain ⟨v, hv⟩ := he
    rw [hv]
    exact ⟨_, rfl⟩

theorem conditions_of_connective {e : Expr} {op : BinaryOp} {l r f : Fragment}
    (h : c.connective e op l r = .ok f) (hsql : (l.isSql || r.isSql) = true) :
    l.isCondition = true ∧ r.isCondition = true := by
  rw [connective_eq, if_pos hsql] at h
  obtain ⟨s, hs, h⟩ := Except.bind_eq_ok_iff.1 h
  obtain ⟨t, ht, -⟩ := Except.bind_eq_ok_iff.1 h
  exact ⟨condition_ok_iff.1 ⟨s, hs⟩, condition_ok_iff.1 ⟨t, ht⟩⟩

theorem operator_ok {op : BinaryOp} {leftType rightType : HostType} {l r : Fragment}
    (h : ∀ a b, l = .native a → r = .native b → ∃ v, op.apply a b = .ok v) :
    ∃ f, c.operator op leftType rightType l r = .ok f := by
  cases l with
  | native a =>
    cases r with
    | native b =>
      -- only an operator between two values can fail
      obtain ⟨v, hv⟩ := h a b rfl rfl
      exact ⟨.native v, ofValue_eq_ok_iff.2 ⟨v, hv, rfl⟩⟩
    | _ => exact ⟨_, rfl⟩
  | _ => cases r <;> exact ⟨_, rfl⟩

theorem unaryOperator_ok {op : UnaryOp} {type : HostType} {ofColumn : Bool} {f : Fragment}
    (h : ∀ w, f = .native w → ∃ v, op.apply w type = .ok v) :
    ∃ g, c.unaryOperator op type ofColumn f = .ok g := by
  cases f with
  | native w =>
    obtain ⟨v, hv⟩ := h w rfl
    exact ⟨.native v, ofValue_eq_ok_iff.2 ⟨v, hv, rfl⟩⟩
  | _ =>
    unfold unaryOperator
    dsimp only
    split <;> exact ⟨_, rfl⟩

theorem containment_ok {e collection : Expr} {f : Fragment} (he : ∃ v, c.fold e = .ok v)
    (hcol : ∃ v, c.fold collection = .ok v) :
    ∃ g, c.containment e collection (.ok f) = .ok g := by
  obtain ⟨v, hv⟩ := he
  obtain ⟨w, hw⟩ := hcol
  rw [containment_eq]
  unfold foldNative
  rw [hv, hw]
  cases hf : f.isSql
  · exact ⟨.native v, by simp [bind, Except.bind, hf, Except.map]⟩
  · exact ⟨c.inList w f, by simp [bind, Except.bind, hf, pure, Except.pure]⟩

/-! ### Operands that have a value -/

theorem isCondition_of_shortCircuit {op : BinaryOp} {a v : Value} (hop : op.isLogical = true)
    (h : Expr.shortCircuit? op a = some v) : (Fragment.native a).isCondition = true := by
  obtain ⟨b, rfl, -⟩ := Expr.bool_of_shortCircuit hop h
  rfl

theorem isCondition_of_operate {op : BinaryOp} {a b v : Value} (hop : op.isLogical = true)
    (h : Expr.operate op a b = .ok v) :
    (Fragment.native a).isCondition = true ∧ (Fragment.native b).isCondition = true := by
  obtain ⟨x, y, rfl, rfl, -⟩ := Expr.bools_of_operate hop h
  exact ⟨rfl, rfl⟩

/-- What compiles to a value compiles to its own value. -/
theorem eq_of_compile_native {e : Expr} {v w : Value} (hq : e.Lacks Expr.isQueryNode)
    (hv : e.value c.env = .ok v) (h : c.compile e = .ok (.native w)) : w = v := by
  have hl : e.Lacks Expr.hasParams := hq.mono fun n hn => by
    cases n <;> first | rfl | cases hn
  rw [value_of_compileAt hl h] at hv
  cases hv
  rfl

/-- An operand with the value of a condition compiles to a condition. -/
theorem isCondition_of_compile {e : Expr} {v : Value} {f : Fragment}
    (hq : e.Lacks Expr.isQueryNode) (hv : e.value c.env = .ok v)
    (hcond : (Fragment.native v).isCondition = true) (h : c.compile e = .ok f) :
    f.isCondition = true := by
  cases f with
  | native w => rw [eq_of_compile_native hq hv h]; exact hcond
  | _ => rfl

/-- An operator that is no connective has a value if it does not need its right operand. -/
theorem apply_ok_of_shortCircuit {op : BinaryOp} {a b v : Value} (hop : op.isLogical = false)
    (h : Expr.shortCircuit? op a = some v) : ∃ w, op.apply a b = .ok w := by
  obtain ⟨rfl, -, -⟩ := eq_coalesce_of_shortCircuit hop h
  exact ⟨_, rfl⟩

/-! ### Expressions -/

theorem isLambda_of_lacks {e : Expr} (hq : e.Lacks Expr.isQueryNode) : e.Lacks Expr.isLambda :=
  hq.mono fun n hn => by cases n <;> first | rfl | cases hn

theorem compileNode_connective_of_lacks {op : BinaryOp} {left right : Expr} {depth : Nat}
    {g : Expr → Compiled} (hq : (Expr.binary op left right).Lacks Expr.isQueryNode)
    (hop : op.isLogical = true) :
    c.compileNode depth g (.binary op left right) = (do
      let l ← g left
      let r ← g right
      c.connective (.binary op left right) op l r) := by
  rw [compileNode_connective hop, connectiveOperand, connectiveOperand,
    Expr.isColumn_eq_false (hq.child (x := left) (by simp [Expr.children])),
    Expr.isColumn_eq_false (hq.child (x := right) (by simp [Expr.children]))]
  rfl

/-- The operands of an operator that compiles. -/
theorem operands_of_compile {op : BinaryOp} {left right : Expr} {f : Fragment}
    (hq : (Expr.binary op left right).Lacks Expr.isQueryNode)
    (hd : (Expr.binary op left right).height ≤ c.options.maxDepth)
    (h : c.compile (.binary op left right) = .ok f) :
    ∃ l r, c.compile left = .ok l ∧ c.compile right = .ok r ∧
      (op.isLogical = true → (l.isSql || r.isSql) = true →
        l.isCondition = true ∧ r.isCondition = true) := by
  rw [compile_eq (isLambda_of_lacks hq) hd] at h
  cases hop : op.isLogical with
  | true =>
    rw [compileNode_connective_of_lacks hq hop] at h
    obtain ⟨l, hl, h⟩ := Except.bind_eq_ok_iff.1 h
    obtain ⟨r, hr, h⟩ := Except.bind_eq_ok_iff.1 h
    exact ⟨l, r, hl, hr, fun _ => conditions_of_connective h⟩
  | false =>
    rw [compileNode_operator hop] at h
    obtain ⟨l, hl, h⟩ := Except.bind_eq_ok_iff.1 h
    obtain ⟨r, hr, -⟩ := Except.bind_eq_ok_iff.1 h
    exact ⟨l, r, hl, hr, fun h => by cases h⟩

theorem isQueryCall_of_lacks {e : Expr} (hq : e.Lacks Expr.isQueryNode) :
    e.isQueryCall = false := by
  cases e with
  | staticCall => exact hq.root
  | _ => rfl

/-- An operand that is left out is harmless if the expression compiles. -/
theorem harmless_of_compile {e : Expr} {op : BinaryOp} {left right : Expr} {f : Fragment}
    (hq : e.Lacks Expr.isQueryNode) (hd : e.height ≤ c.options.maxDepth)
    (hs : Expr.Skips c.env op left right e) (h : c.compile e = .ok f) :
    c.Harmless op left right := by
  induction hs generalizing f with
  | here hl hs =>
    -- both operands of this operator compile, also the one that is left out
    obtain ⟨l, r, hl, hr, hcond⟩ := operands_of_compile hq hd h
    refine ⟨r, hr, fun hop l' hl' hsql => ?_⟩
    rw [hl] at hl'
    cases hl'
    exact (hcond hop (by rw [hsql]; rfl)).2
  | @left op' l r hs ih =>
    have hmem : l ∈ (Expr.binary op' l r).children := by simp [Expr.children]
    obtain ⟨g, -, hg, -⟩ := operands_of_compile hq hd h
    exact ih (hq.child hmem) (Expr.height_le_of_child hmem hd) hg
  | @right op' l r a hl hs h' ih =>
    have hmem : r ∈ (Expr.binary op' l r).children := by simp [Expr.children]
    obtain ⟨-, g, -, hg, -⟩ := operands_of_compile hq hd h
    exact ih (hq.child hmem) (Expr.height_le_of_child hmem hd) hg
  | operand hop hs ih =>
    -- any other operator than a user-defined conversion compiles its operand
    rw [compile_eq (isLambda_of_lacks hq) hd, compileNode, if_neg (by simp [hop])] at h
    obtain ⟨g, hg, -⟩ := Except.bind_eq_ok_iff.1 h
    exact ih (hq.child List.mem_cons_self) (Expr.height_le_of_child List.mem_cons_self hd) hg
  | @item e collection item hsearch hs ih =>
    -- a search compiles the item that it looks for
    have hmem := (Expr.mem_children_of_search hsearch).2
    rw [compile_eq (isLambda_of_lacks hq) hd, compileNode_search hsearch (isQueryCall_of_lacks hq)]
      at h
    obtain ⟨g, hg, -⟩ := Except.bind_eq_ok_iff.1 h
    exact ih (hq.child hmem) (Expr.height_le_of_child hmem hd) hg

/-- The right operand of an operator that has a value compiles to what the operator needs: as a
harmless one if it is left out, and as a value or as SQL if it counts. -/
theorem right_of_value {op : BinaryOp} {left right : Expr} {l : Fragment} {a v : Value}
    (hq : right.Lacks Expr.isQueryNode) (hl : c.compile left = .ok l)
    (hop : Expr.shortCircuit? op a = some v ∨ Expr.shortCircuit? op a = none ∧
      ∃ b, right.value c.env = .ok b ∧ Expr.operate op a b = .ok v)
    (hskip : Expr.shortCircuit? op a = some v → c.Harmless op left right)
    (hcompile : ∀ b, Expr.shortCircuit? op a = none → right.value c.env = .ok b →
      ∃ r, c.compile right = .ok r) :
    ∃ r, c.compile right = .ok r ∧
      (op.isLogical = true → (l.isSql || r.isSql) = true →
        (Fragment.native a).isCondition = true ∧ r.isCondition = true) ∧
      (op.isLogical = false → ∀ b, r = .native b → ∃ w, op.apply a b = .ok w) := by
  rcases hop with hshort | ⟨hshort, b, hb, hop⟩
  · -- the right operand is left out: it is harmless by assumption
    obtain ⟨r, hr, hfit⟩ := hskip hshort
    refine ⟨r, hr, fun hlog hsql => ⟨isCondition_of_shortCircuit hlog hshort, ?_⟩,
      fun hlog b _ => apply_ok_of_shortCircuit hlog hshort⟩
    cases hlsql : l.isSql with
    | true => exact hfit hlog l hl hlsql
    -- then the right operand is the one that is SQL
    | false => exact isCondition_of_isSql (by simpa [hlsql] using hsql)
  · -- the right operand counts: it has a value, and compiles as any child that has one
    obtain ⟨r, hr⟩ := hcompile b hshort hb
    refine ⟨r, hr, fun hlog _ => ?_, fun hlog b' hb' => ⟨v, ?_⟩⟩
    · have hab := isCondition_of_operate hlog hop
      exact ⟨hab.1, isCondition_of_compile hq hb hab.2 hr⟩
    · rw [hb'] at hr
      rw [eq_of_compile_native hq hb hr, ← operate_eq_apply hlog]
      exact hop

/-- An operator that has a value compiles if its operands compile to what it needs. -/
theorem compileNode_binary_ok {op : BinaryOp} {left right : Expr} {l r : Fragment} {a v : Value}
    (hq : (Expr.binary op left right).Lacks Expr.isQueryNode)
    (hfold : c.fold (.binary op left right) = .ok v) (ha : left.value c.env = .ok a)
    (hl : c.compile left = .ok l) (hr : c.compile right = .ok r)
    (hcond : op.isLogical = true → (l.isSql || r.isSql) = true →
      (Fragment.native a).isCondition = true ∧ r.isCondition = true)
    (happly : op.isLogical = false → ∀ b, r = .native b → ∃ w, op.apply a b = .ok w) :
    ∃ f, c.compileNode 0 c.compile (.binary op left right) = .ok f := by
  have hql : left.Lacks Expr.isQueryNode := hq.child List.mem_cons_self
  cases hlog : op.isLogical with
  | true =>
    -- beside SQL both operands have to be conditions
    rw [compileNode_connective_of_lacks hq hlog, hl, hr]
    refine connective_ok ⟨v, hfold⟩ fun hsql => ?_
    exact ⟨isCondition_of_compile hql ha (hcond hlog hsql).1 hl, (hcond hlog hsql).2⟩
  | false =>
    -- two values have to be what the operator takes
    rw [compileNode_operator hlog, hl, hr]
    refine operator_ok fun a' b hl' hr' => ?_
    rw [hl'] at hl
    rw [eq_of_compile_native hql ha hl]
    exact happly hlog b hr'

/-- What has a value compiles if each operand that is left out is harmless. -/
theorem compile_ok_of_harmless {e : Expr} {v : Value}
    (hq : e.Lacks Expr.isQueryNode) (hd : e.height ≤ c.options.maxDepth)
    (hv : e.value c.env = .ok v)
    (hs : ∀ op left right, Expr.Skips c.env op left right e → c.Harmless op left right) :
    ∃ f, c.compile e = .ok f := by
  induction e using Expr.induction_children generalizing v with
  | step e ih =>
    have hfold : c.fold e = .ok v := fold_of_value hd hv
    have hnative : c.foldNative e = .ok (.native v) := by rw [foldNative, hfold]; rfl
    -- a child that counts for the value compiles
    have hchild : ∀ x ∈ e.children, (∃ w, x.value c.env = .ok w) →
        (∀ op left right, Expr.Skips c.env op left right x → c.Harmless op left right) →
        ∃ f, c.compile x = .ok f := by
      intro x hx hvalue
      obtain ⟨w, hw⟩ := hvalue
      exact ih x hx (hq.child hx) (Expr.height_le_of_child hx hd) hw
    -- the item is compiled, and the list and the search itself are computed
    have hsearch : ∀ collection item, e.search? = some (collection, item) →
        ∃ f, c.compileNode 0 c.compile e = .ok f := by
      intro collection item h
      obtain ⟨⟨w, hw⟩, hitem⟩ := Expr.parts_of_value_search h hv
      obtain ⟨hmc, hmi⟩ := Expr.mem_children_of_search h
      obtain ⟨f, hf⟩ := hchild item hmi hitem fun _ _ _ hskip => hs _ _ _ (.item h hskip)
      rw [compileNode_search h (isQueryCall_of_lacks hq), hf]
      exact containment_ok ⟨v, hfold⟩ ⟨w, fold_of_value (Expr.height_le_of_child hmc hd) hw⟩
    rw [compile_eq (isLambda_of_lacks hq) hd]
    cases e with
    -- nothing in the expression belongs to a query
    | lambda => cases hq.root
    | parameter => cases hq.root
    | staticMember owner name type => exact ⟨_, hnative⟩
    | member target name declaring type =>
      rw [compileNode, Expr.isColumn_eq_false hq]
      exact ⟨_, hnative⟩
    | constant w type =>
      rw [compileNode]
      split
      · exact ⟨_, rfl⟩
      · exact ⟨_, hnative⟩
    | binary op left right =>
      have hml : left ∈ (Expr.binary op left right).children := by simp [Expr.children]
      have hmr : right ∈ (Expr.binary op left right).children := by simp [Expr.children]
      obtain ⟨a, ha, hop⟩ := Expr.value_binary_eq_ok_iff.1 hv
      obtain ⟨l, hl⟩ := hchild left hml ⟨a, ha⟩ fun _ _ _ h => hs _ _ _ (.left h)
      -- a right operand that counts has a value, and so the induction hypothesis applies
      obtain ⟨r, hr, hcond, happly⟩ := right_of_value (hq.child hmr) hl hop
        (fun hshort => hs op left right (.here ha hshort))
        fun b hshort hb => hchild right hmr ⟨b, hb⟩ fun _ _ _ h => hs _ _ _ (.right ha hshort h)
      exact compileNode_binary_ok hq hfold ha hl hr hcond happly
    | unary op operand type via =>
      obtain ⟨w, hw, hop⟩ := Expr.value_unary_eq_ok_iff.1 hv
      rw [compileNode]
      split
      · exact ⟨_, hnative⟩
      · rename_i hvia
        rw [Bool.not_eq_true] at hvia
        obtain ⟨f, hf⟩ := hchild operand (by simp [Expr.children]) ⟨w, hw⟩
          fun _ _ _ h => hs _ _ _ (.operand hvia h)
        rw [hf]
        refine unaryOperator_ok fun w' hw' => ⟨v, ?_⟩
        -- what compiles to a value compiles to the one that the evaluator computes
        rw [hw'] at hf
        rw [eq_of_compile_native (hq.child (by simp [Expr.children])) hw hf,
          ← operateUnary_eq_apply hvia]
        exact hop
    | call target method args owner type =>
      rcases compileNode_call c 0 target method args owner type c.compile with
        ⟨collection, item, h, -⟩ | ⟨-, hr, -⟩ | ⟨-, -, hc⟩
      · exact hsearch collection item h
      · rw [Expr.isColumnRooted_eq_false (hq.child (by simp [Expr.children]))] at hr
        cases hr
      · exact ⟨_, hc ▸ hnative⟩
    | staticCall owner method args type =>
      rcases compileNode_staticCall c 0 owner method args type c.compile with
        ⟨_, _, _, hcall, -⟩ | ⟨collection, item, h, -⟩ | ⟨-, hc⟩
      · rw [isQueryCall_of_lacks hq] at hcall
        cases hcall
      · exact hsearch collection item h
      · exact ⟨_, hc ▸ hnative⟩
    | new | newArray | memberInit =>
      -- the value of the whole construction is known, so its parts are not tried
      rw [compileNode, construction_eq, hfold]
      exact ⟨_, rfl⟩

/-- **What the evaluator can compute compiles exactly if the operands that it leaves out are
harmless**: nothing else that the compiler meets on its way can fail.  The expression makes no new
identifier, and the evaluator may have another one to come than the compiler. -/
theorem compile_ok_iff {e : Expr} {v : Value} {limit : Nat} {fresh : Guid}
    (hq : e.Lacks Expr.isQueryNode) (hg : e.Lacks Expr.isNewGuid)
    (hd : e.height ≤ c.options.maxDepth)
    (hv : e.evaluate (c.env.withFresh fresh) limit = .ok v) :
    (∃ f, c.compile e = .ok f) ↔
      ∀ op left right, Expr.Skips c.env op left right e → c.Harmless op left right := by
  have hvalue : e.value c.env = .ok v := by
    rw [← Expr.value_withFresh hg]
    exact Expr.value_of_evaluate hv
  exact ⟨fun ⟨_, hf⟩ _ _ _ hs => harmless_of_compile hq hd hs hf,
    compile_ok_of_harmless hq hd hvalue⟩

/-- A test that leaves out the length of a text that is null: `true || null.Length > 3`. -/
def guarded : Expr :=
  .binary .orElse (.ofValue (.bool true))
    (.binary .greaterThan (.memberOf (.constant .null .string) "Length" (.int .int32))
      (.ofValue (.int 3)))

theorem compile_ok_iff_guarded :
    (∃ f, (bare .generic).compile guarded = .ok f) ↔
      ∀ op left right, Expr.Skips (bare .generic).env op left right guarded →
        (bare .generic).Harmless op left right := by
  have hv : guarded.evaluate ((bare .generic).env.withFresh ⟨1⟩) 3 = .ok (.bool true) := rfl
  exact compile_ok_iff (by decide) (by decide) (by decide) hv

/-- The evaluator can compute the guarded test, and the compiler fails on it. -/
theorem not_compile_guarded :
    ¬ ∀ (c : Context) (e : Expr) (v : Value), e.Lacks Expr.isQueryNode →
      e.height ≤ c.options.maxDepth → e.evaluate c.env c.options.maxDepth = .ok v →
      ∃ f, c.compile e = .ok f := by
  intro h
  obtain ⟨f, hf⟩ := h (bare .generic) guarded (.bool true) (by decide) (by decide) rfl
  have herr : (bare .generic).compile guarded =
      .error (.evaluation (.nullReference (.reading "Length"))) := rfl
  rw [herr] at hf
  cases hf

end Context

end QueryClause
