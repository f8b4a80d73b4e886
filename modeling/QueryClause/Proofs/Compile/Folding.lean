import QueryClause.Proofs.Compile.Node
import QueryClause.Proofs.Eval.Fresh

/-!
# Folding agrees with evaluation

Compilation computes what does not read the query parameter, partly by itself, operator by operator,
and partly by handing a whole node to the evaluator.  Both ways lead to the value of the expression:
`Context.value_of_compileAt` for one depth, and `Context.evaluate_of_compile_native` for the
compiler and the evaluator as a client calls them.
-/

namespace QueryClause

/-- Whether a node is a lambda that takes arguments. -/
def Expr.hasParams : Expr → Bool
  | lambda params _ => !params.isEmpty
  | _ => false

namespace Context

variable {c : Context} {depth : Nat}

/-! ### Operators -/

theorem operate_eq_apply {op : BinaryOp} {a b : Value} (hop : op.isLogical = false) :
    Expr.operate op a b = op.apply a b := by
  cases op with
  | andAlso | orElse => cases hop
  | _ => rfl

/-- But for the connectives, only a choice leaves out its right operand. -/
theorem eq_coalesce_of_shortCircuit {op : BinaryOp} {a v : Value} (hop : op.isLogical = false)
    (h : Expr.shortCircuit? op a = some v) : op = .coalesce ∧ a.isNull = false ∧ v = a := by
  unfold Expr.shortCircuit? at h
  split at h
  · cases hop
  · cases hop
  · cases ha : a.isNull with
    | true => simp [ha] at h
    | false =>
      simp only [ha, Bool.false_eq_true, if_false, Option.some.injEq] at h
      exact ⟨rfl, rfl, h.symm⟩
  · cases h

theorem operateUnary_eq_apply {env : Environment} {op : UnaryOp} {v : Value} {type : HostType}
    {via : Option String} (hop : (op = .convert && via.isSome) = false) :
    Expr.operateUnary env op v type via = op.apply v type := by
  unfold Expr.operateUnary
  split
  · simp at hop
  · rfl

/-- An operator that is no connective has the value that its operands give it. -/
theorem value_binary {op : BinaryOp} {left right : Expr} {a b v : Value}
    (hop : op.isLogical = false) (hl : left.value c.env = .ok a) (hr : right.value c.env = .ok b)
    (h : op.apply a b = .ok v) : (Expr.binary op left right).value c.env = .ok v := by
  refine Expr.value_binary_eq_ok_iff.2 ⟨a, hl, ?_⟩
  cases hs : Expr.shortCircuit? op a with
  | none => exact .inr ⟨rfl, b, hr, by rw [operate_eq_apply hop]; exact h⟩
  | some w =>
    -- a choice that leaves out its right operand ignores it when both are given
    obtain ⟨rfl, ha, rfl⟩ := eq_coalesce_of_shortCircuit hop hs
    rw [BinaryOp.apply, ha] at h
    cases h
    exact .inl rfl

/-- A unary operator that is no conversion by name has the value that its operand gives it. -/
theorem value_unary {op : UnaryOp} {operand : Expr} {type : HostType} {via : Option String}
    {w v : Value} (hop : (op = .convert && via.isSome) = false)
    (ho : operand.value c.env = .ok w) (h : op.apply w type = .ok v) :
    (Expr.unary op operand type via).value c.env = .ok v :=
  Expr.value_unary_eq_ok_iff.2 ⟨w, ho, by rw [operateUnary_eq_apply hop]; exact h⟩

/-! ### Expressions -/

/-- A step of compilation that gives a value gives the value of the node, if the fragments for its
children that are values are theirs. -/
theorem value_of_compileNode {e : Expr} {f : Expr → Compiled} {v : Value}
    (hl : e.hasParams = false)
    (hf : ∀ x ∈ e.children, ∀ w, f x = .ok (.native w) → x.value c.env = .ok w)
    (h : c.compileNode depth f e = .ok (.native v)) : e.value c.env = .ok v := by
  cases e with
  | lambda params body =>
    rw [compileNode] at h
    split at h
    · cases isSql_of_trueColumn h
    · have hb : body.value c.env = .ok v := hf body (by simp [Expr.children]) v h
      rw [Expr.hasParams, Bool.not_eq_false'] at hl
      rw [Expr.value_eq, Expr.evaluateNode, hl, hb]
      rfl
  | member target name declaring type =>
    rw [compileNode] at h
    split at h
    · cases isSql_of_column ‹_› h
    · exact value_of_fold (fold_of_foldNative h)
  | staticMember owner name type => exact value_of_fold (fold_of_foldNative h)
  | constant w type =>
    rw [compileNode] at h
    split at h
    · cases h
    · exact value_of_fold (fold_of_foldNative h)
  | parameter name type => cases h
  | binary op left right =>
    cases hop : op.isLogical with
    | true =>
      -- a connective is written out, also if both operands are values
      rw [compileNode_connective hop] at h
      obtain ⟨l, -, h⟩ := Except.bind_eq_ok_iff.1 h
      obtain ⟨r, -, h⟩ := Except.bind_eq_ok_iff.1 h
      cases isSql_of_connective h
    | false =>
      rw [compileNode_operator hop] at h
      obtain ⟨l, hl, h⟩ := Except.bind_eq_ok_iff.1 h
      obtain ⟨r, hr, h⟩ := Except.bind_eq_ok_iff.1 h
      obtain ⟨a, b, rfl, rfl, hab⟩ := operands_of_operator h
      exact value_binary hop (hf left (by simp [Expr.children]) a hl)
        (hf right (by simp [Expr.children]) b hr) hab
  | unary op operand type via =>
    rw [compileNode] at h
    split at h
    · exact value_of_fold (fold_of_foldNative h)
    · obtain ⟨g, hg, h⟩ := Except.bind_eq_ok_iff.1 h
      obtain ⟨w, rfl, hw⟩ := operand_of_unaryOperator h
      exact value_unary (Bool.eq_false_iff.2 ‹_›) (hf operand (by simp [Expr.children]) w hg) hw
  | call target method args owner type =>
    rcases compileNode_call c depth target method args owner type f with
      ⟨collection, item, -, hc⟩ | ⟨-, -, hc⟩ | ⟨-, -, hc⟩ <;> rw [hc] at h
    · exact value_of_fold (fold_of_containment h)
    · cases isSql_of_columnMethod h
    · exact value_of_fold (fold_of_foldNative h)
  | staticCall owner method args type =>
    rcases compileNode_staticCall c depth owner method args type f with
      ⟨k, first, rest, -, -, hc⟩ | ⟨collection, item, -, hc⟩ | ⟨-, hc⟩ <;> rw [hc] at h
    · cases isSql_of_applyM h
    · exact value_of_fold (fold_of_containment h)
    · exact value_of_fold (fold_of_foldNative h)
  | new | newArray | memberInit =>
    rw [compileNode] at h
    exact value_of_fold (fold_of_construction h)

/-- What compiles to a value has that value. -/
theorem value_of_compileAt {e : Expr} {v : Value} (hl : e.Lacks Expr.hasParams)
    (h : c.compileAt depth e = .ok (.native v)) : e.value c.env = .ok v := by
  induction e using Expr.induction_children generalizing depth v with
  | step e ih =>
    exact value_of_compileNode hl.root (fun x hx w hw => ih x hx (hl.child hx) hw)
      (compileNode_of_compileAt h).2

/-- What an operand of a connective compiles to is its value. -/
theorem value_of_connectiveOperand {e : Expr} {v : Value} (hl : e.Lacks Expr.hasParams)
    (h : c.connectiveOperand (c.compileAt depth) e = .ok (.native v)) : e.value c.env = .ok v := by
  rw [connectiveOperand] at h
  split at h
  · cases isSql_of_trueColumn h
  · exact value_of_compileAt hl h

/-- **Folding agrees with the evaluator**: an expression whose lambdas take nothing and that makes
no new identifier has the value that it compiles to, under every limit that leaves it room and
whichever identifier comes next. -/
theorem evaluate_of_compile_native {e : Expr} {v : Value} {limit : Nat}
    (hl : e.Lacks Expr.hasParams) (hg : e.Lacks Expr.isNewGuid) (hr : e.height ≤ limit)
    (h : c.compile e = .ok (.native v)) (fresh : Guid) :
    e.evaluate (c.env.withFresh fresh) limit = .ok v := by
  rw [Expr.evaluate_eq_value hr, Expr.value_withFresh hg]
  exact value_of_compileAt hl h

/-- The compiler computes both operands of a choice, the evaluator only the one that counts. -/
theorem evaluate_of_compile_native_choice :
    let e := Expr.lambda []
      (.binary .coalesce (.binary .add (.ofValue (.int 1)) (.ofValue (.int 2))) (.ofValue (.int 5)))
    (bare .generic).compile e = .ok (.native (.int 3)) ∧
      e.evaluate ((bare .generic).env.withFresh .nil) 3 = .ok (.int 3) :=
  ⟨rfl, evaluate_of_compile_native (by decide) (by decide) (by decide) rfl _⟩

end Context

end QueryClause
