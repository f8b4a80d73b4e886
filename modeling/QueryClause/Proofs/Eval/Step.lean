import QueryClause.Eval.Evaluate
import QueryClause.Proofs.Expr.Subterm
import QueryClause.Proofs.Results

/-!
# One step of evaluation

`Expr.evaluateNode` is one step of evaluation: what a node makes of the results for its children.

Evaluation takes place in a run that draws new identifiers.  Where the draws do not matter, because
they all give the identifier of the environment or because the expression asks for none, a run has
no effect, and its result is the one of `Expr.evaluateAt` (`Expr.evaluateAtM_eq_liftM`), which is
the step, repeated under the depth limit (`Expr.evaluateAt_eq`).  Both are read off one lemma on a
single node of a run, `Expr.evaluateAtM_of_children`.
-/

namespace QueryClause

namespace Expr

/-! ### The step -/

/-- A binding with the result for its expression. -/
def evaluateBinding (f : Expr → Except EvalError Value) (b : String × Expr) :
    Except EvalError (String × Value) := (f b.2).map (Prod.mk b.1)

/-- The value of a node, where `f` gives the results for its children. -/
def evaluateNode (env : Environment) (f : Expr → Except EvalError Value) :
    Expr → Except EvalError Value
  | lambda params body =>
    if params.isEmpty then f body
    else .error (.invalidOperation (.lambdaAsValue (lambda params body).text))
  | constant v type => .ok (v.tagged type)
  | parameter name _ => .error (.invalidOperation (.freeParameter name))
  | member target name _ type => do
    let owner ← f target
    return (← owner.readMember name).tagged type
  | staticMember owner name type => do return (← readStatic env owner name type).tagged type
  | binary op left right => do
    let a ← f left
    match shortCircuit? op a with
    | some v => return v
    | none => operate op a (← f right)
  | unary op operand type via => do operateUnary env op (← f operand) type via
  | call target method args owner type => do
    let receiver ← f target
    let args ← args.mapM f
    return (← invoke env owner (some receiver) method args).tagged type
  | staticCall owner method args type => do
    let args ← args.mapM f
    return (← invoke env owner none method args).tagged type
  | new type args members => do construct env type members (← args.mapM f)
  | newArray _ items => do return .list (← items.mapM f)
  | memberInit type bindings => do return .object type.text (← bindings.mapM (evaluateBinding f))

/-! ### Draws -/

/-- Whether a node is a call of `Guid.NewGuid`. -/
def isNewGuid : Expr → Bool
  | staticCall owner method _ _ => owner.text == "Guid" && method == "NewGuid"
  | _ => false

variable {n : Type → Type} [Monad n] [LawfulMonad n] {draw : n Guid} {env : Environment}
  {limit depth : Nat}

/-- A call is the same in a run if it would draw the identifier of the environment, or none. -/
theorem invokeM_eq_liftM {owner : HostType} {method : String} {args : List Value}
    (h : draw = pure env.freshGuid ∨ (owner.text == "Guid" && method == "NewGuid") = false) :
    invokeM draw env owner method args = liftM (invoke env owner none method args) := by
  rw [invokeM]
  split
  · rename_i hasks
    rcases h with rfl | h
    · rw [liftM_pure, pure_bind]
      rfl
    · rw [asksForGuid, h] at hasks
      cases hasks
  · rfl

/-! ### The step in a run -/

variable {f : Expr → Except EvalError Value}

theorem evaluateItemsM_of_children {es : List Expr}
    (h : ∀ x ∈ es, evaluateAtM draw env limit depth x = liftM (f x)) :
    evaluateItemsM draw env limit depth es = liftM (es.mapM f) := by
  induction es with
  | nil => rfl
  | cons e rest ih =>
    rw [evaluateItemsM, h e List.mem_cons_self, ih fun x hx => h x (List.mem_cons_of_mem _ hx)]
    simp only [List.mapM_cons, liftM_bind, liftM_pure]

theorem evaluateBindingsM_of_children {bs : List (String × Expr)}
    (h : ∀ x ∈ bs.map Prod.snd, evaluateAtM draw env limit depth x = liftM (f x)) :
    evaluateBindingsM draw env limit depth bs = liftM (bs.mapM (evaluateBinding f)) := by
  induction bs with
  | nil => rfl
  | cons b rest ih =>
    obtain ⟨name, e⟩ := b
    have hb : evaluateBinding f (name, e) = do return (name, ← f e) := by
      rw [evaluateBinding]
      cases f e <;> rfl
    rw [evaluateBindingsM, h e List.mem_cons_self, ih fun x hx => h x (List.mem_cons_of_mem _ hx)]
    simp only [List.mapM_cons, hb, liftM_bind, liftM_pure, bind_assoc, pure_bind]

/-- If the run of each child has no effect, neither has the run of the node. -/
theorem evaluateAtM_of_children {e : Expr} (hd : depth ≤ limit)
    (hdraw : draw = pure env.freshGuid ∨ e.isNewGuid = false)
    (h : ∀ x ∈ e.children, evaluateAtM draw env limit (depth + 1) x = liftM (f x)) :
    evaluateAtM draw env limit depth e = liftM (evaluateNode env f e) := by
  have hlimit : ¬ limit < depth := by omega
  cases e with
  | constant | parameter =>
    rw [evaluateAtM, if_neg hlimit]
    rfl
  | lambda params body =>
    rw [evaluateAtM, if_neg hlimit, evaluateNode, h body (by simp [children])]
    split <;> rfl
  | member target name declaring type =>
    rw [evaluateAtM, if_neg hlimit, evaluateNode, h target (by simp [children])]
    simp only [liftM_bind, liftM_pure]
  | staticMember owner name type =>
    rw [evaluateAtM, if_neg hlimit, evaluateNode]
    simp only [liftM_bind, liftM_pure]
  | binary op left right =>
    rw [evaluateAtM, if_neg hlimit, evaluateNode, h left (by simp [children]),
      h right (by simp [children]), liftM_bind]
    refine bind_congr fun a => ?_
    -- the left operand decides whether the right one is run
    cases shortCircuit? op a with
    | some v => rfl
    | none => rw [liftM_bind]
  | unary op operand type via =>
    rw [evaluateAtM, if_neg hlimit, evaluateNode, h operand (by simp [children]), liftM_bind]
  | call target method args owner type =>
    rw [evaluateAtM, if_neg hlimit, evaluateNode, h target List.mem_cons_self,
      evaluateItemsM_of_children fun x hx => h x (List.mem_cons_of_mem _ hx)]
    simp only [liftM_bind, liftM_pure]
  | staticCall owner method args type =>
    simp only [children] at h
    rw [evaluateAtM, if_neg hlimit, evaluateNode, evaluateItemsM_of_children h]
    simp only [liftM_bind, liftM_pure, invokeM_eq_liftM hdraw]
  | new | newArray =>
    simp only [children] at h
    rw [evaluateAtM, if_neg hlimit, evaluateNode, evaluateItemsM_of_children h]
    simp only [liftM_bind, liftM_pure]
  | memberInit type bindings =>
    rw [evaluateAtM, if_neg hlimit, evaluateNode, evaluateBindingsM_of_children h]
    simp only [liftM_bind, liftM_pure]

/-- Evaluation is the step, repeated as long as the limit allows. -/
theorem evaluateAt_eq (e : Expr) :
    evaluateAt env limit depth e =
      if limit < depth then .error (.depthExceeded limit)
      else evaluateNode env (evaluateAt env limit (depth + 1)) e := by
  split
  · rw [evaluateAt, evaluateAtM.eq_def, if_pos ‹_›]
    rfl
  · exact evaluateAtM_of_children (n := Id) (by omega) (.inl rfl) fun _ _ => rfl

/-- **A run without new identifiers** has no effect, and its result is the one outside a run. -/
theorem evaluateAtM_eq_liftM {e : Expr} (h : draw = pure env.freshGuid ∨ e.Lacks isNewGuid) :
    evaluateAtM draw env limit depth e = liftM (evaluateAt env limit depth e) := by
  induction e using induction_children generalizing depth with
  | step e ih =>
    rw [evaluateAt_eq]
    split
    · rw [evaluateAtM.eq_def, if_pos ‹_›]
      rfl
    · exact evaluateAtM_of_children (by omega) (h.imp_right (·.root)) fun x hx =>
        ih x hx (h.imp_right (·.child hx))

end Expr

end QueryClause
