import QueryClause.Proofs.Eval.Step

/-!
# Evaluation and the depth limit

`Expr.value` is what evaluation gives when the limit leaves room for the whole expression: the step,
repeated (`Expr.value_eq`).

The limit matters for nothing else: with room, evaluation at any depth and under any limit gives
`Expr.value` (`Expr.evaluateAt_eq_value`), and without it either the same or
`EvalError.depthExceeded` (`Expr.evaluateAt_eq_value_or`).
-/

namespace QueryClause

namespace Expr

variable {env : Environment} {limit depth : Nat} {f g : Expr → Except EvalError Value} {e : Expr}

/-! ### One step -/

theorem evaluateNode_congr (h : ∀ x ∈ e.children, f x = g x) :
    evaluateNode env f e = evaluateNode env g e := by
  cases e with
  | memberInit type bindings =>
    have hb : ∀ b ∈ bindings, evaluateBinding f b = evaluateBinding g b := fun b hb => by
      rw [evaluateBinding, evaluateBinding, h b.2 (List.mem_map_of_mem hb)]
    rw [evaluateNode, evaluateNode, Except.mapM_congr_mem hb]
  | call target method args owner type =>
    rw [evaluateNode, evaluateNode, h target List.mem_cons_self,
      Except.mapM_congr_mem fun a ha => h a (List.mem_cons_of_mem _ ha)]
  | staticCall | new | newArray =>
    simp only [children] at h
    rw [evaluateNode, evaluateNode, Except.mapM_congr_mem h]
  | _ => simp_all [evaluateNode, children]

/-- If each child gives the result of `g` or the failure `E`, so does the node. -/
theorem evaluateNode_eq_or {E : EvalError} (h : ∀ x ∈ e.children, f x = g x ∨ f x = .error E) :
    evaluateNode env f e = evaluateNode env g e ∨ evaluateNode env f e = .error E := by
  cases e with
  | staticMember | constant | parameter => exact .inl rfl
  | lambda params body =>
    rw [evaluateNode, evaluateNode]
    split
    · exact h body (by simp [children])
    · exact .inl rfl
  | member target name declaring type =>
    rw [evaluateNode, evaluateNode]
    rcases h target (by simp [children]) with ht | ht
    · rw [ht]; exact .inl rfl
    · rw [ht]; exact .inr rfl
  | unary op operand type via =>
    rw [evaluateNode, evaluateNode]
    rcases h operand (by simp [children]) with ho | ho
    · rw [ho]; exact .inl rfl
    · rw [ho]; exact .inr rfl
  | binary op left right =>
    rw [evaluateNode, evaluateNode]
    rcases h left (by simp [children]) with hl | hl
    · rw [hl]
      cases g left with
      | error e => exact .inl rfl
      | ok a =>
        -- the right operand counts only if the left one does not decide
        rcases h right (by simp [children]) with hr | hr
        · rw [hr]; exact .inl rfl
        · cases hs : shortCircuit? op a with
          | some v => left; simp [hs, bind, Except.bind]
          | none => right; simp [hs, hr, bind, Except.bind]
    · rw [hl]; exact .inr rfl
  | call target method args owner type =>
    rw [evaluateNode, evaluateNode]
    rcases h target List.mem_cons_self with ht | ht
    · rw [ht]
      cases g target with
      | error e => exact .inl rfl
      | ok v =>
        rcases Except.mapM_eq_or fun a ha => h a (List.mem_cons_of_mem _ ha) with ha | ha
        · rw [ha]; exact .inl rfl
        · rw [ha]; exact .inr rfl
    · rw [ht]; exact .inr rfl
  | staticCall | new | newArray =>
    -- the first child that fails decides for all of them
    simp only [children] at h
    rw [evaluateNode, evaluateNode]
    rcases Except.mapM_eq_or h with ha | ha
    · rw [ha]; exact .inl rfl
    · rw [ha]; exact .inr rfl
  | memberInit type bindings =>
    have hb : ∀ b ∈ bindings, evaluateBinding f b = evaluateBinding g b ∨
        evaluateBinding f b = .error E := fun b hb => by
      rw [evaluateBinding, evaluateBinding]
      rcases h b.2 (List.mem_map_of_mem hb) with hx | hx
      · rw [hx]; exact .inl rfl
      · rw [hx]; exact .inr rfl
    rw [evaluateNode, evaluateNode]
    rcases Except.mapM_eq_or hb with ha | ha
    · rw [ha]; exact .inl rfl
    · rw [ha]; exact .inr rfl

/-! ### Evaluation with room -/

section Runs

variable {n : Type → Type} [Monad n] {draw : n Guid} {limit' depth' : Nat}

theorem evaluateItemsM_congr {es : List Expr}
    (h : ∀ x ∈ es, evaluateAtM draw env limit depth x = evaluateAtM draw env limit' depth' x) :
    evaluateItemsM draw env limit depth es = evaluateItemsM draw env limit' depth' es := by
  induction es with
  | nil => rfl
  | cons e rest ih =>
    rw [evaluateItemsM, evaluateItemsM, h e List.mem_cons_self,
      ih fun x hx => h x (List.mem_cons_of_mem _ hx)]

theorem evaluateBindingsM_congr {bs : List (String × Expr)}
    (h : ∀ x ∈ bs.map Prod.snd,
      evaluateAtM draw env limit depth x = evaluateAtM draw env limit' depth' x) :
    evaluateBindingsM draw env limit depth bs = evaluateBindingsM draw env limit' depth' bs := by
  induction bs with
  | nil => rfl
  | cons b rest ih =>
    obtain ⟨name, e⟩ := b
    rw [evaluateBindingsM, evaluateBindingsM, h e List.mem_cons_self,
      ih fun x hx => h x (List.mem_cons_of_mem _ hx)]

/-- With room, a run depends neither on the limit nor on the depth it starts at. -/
theorem evaluateAtM_room (h : depth + e.height ≤ limit) (h' : depth' + e.height ≤ limit') :
    evaluateAtM draw env limit depth e = evaluateAtM draw env limit' depth' e := by
  induction e using induction_children generalizing depth depth' with
  | step e ih =>
    have hlow : ¬ limit < depth := by omega
    have hlow' : ¬ limit' < depth' := by omega
    -- a child has the room that its parent has below itself
    have hchild : ∀ x ∈ e.children, evaluateAtM draw env limit (depth + 1) x =
        evaluateAtM draw env limit' (depth' + 1) x :=
      fun x hx => ih x hx (room_of_child hx h) (room_of_child hx h')
    cases e with
    | staticMember | constant | parameter =>
      rw [evaluateAtM, evaluateAtM, if_neg hlow, if_neg hlow']
    | lambda | member | unary =>
      rw [evaluateAtM, evaluateAtM, if_neg hlow, if_neg hlow', hchild _ List.mem_cons_self]
    | binary op left right =>
      rw [evaluateAtM, evaluateAtM, if_neg hlow, if_neg hlow', hchild left (by simp [children]),
        hchild right (by simp [children])]
    | call target method args owner type =>
      rw [evaluateAtM, evaluateAtM, if_neg hlow, if_neg hlow', hchild target List.mem_cons_self,
        evaluateItemsM_congr fun x hx => hchild x (List.mem_cons_of_mem _ hx)]
    | staticCall | new | newArray =>
      simp only [children] at hchild
      rw [evaluateAtM, evaluateAtM, if_neg hlow, if_neg hlow', evaluateItemsM_congr hchild]
    | memberInit =>
      rw [evaluateAtM, evaluateAtM, if_neg hlow, if_neg hlow', evaluateBindingsM_congr hchild]

end Runs

/-- With room, evaluation depends neither on the limit nor on the depth it starts at. -/
theorem evaluateAt_room {limit' depth' : Nat} (h : depth + e.height ≤ limit)
    (h' : depth' + e.height ≤ limit') :
    evaluateAt env limit depth e = evaluateAt env limit' depth' e :=
  evaluateAtM_room h h'

/-- The value of an expression, with room for all of it. -/
def value (env : Environment) (e : Expr) : Except EvalError Value := e.evaluate env e.height

theorem evaluateAt_eq_value (h : depth + e.height ≤ limit) :
    evaluateAt env limit depth e = value env e :=
  evaluateAt_room h (by omega)

theorem evaluate_eq_value (h : e.height ≤ limit) : e.evaluate env limit = value env e :=
  evaluateAt_eq_value (by omega)

/-- The value of a node from the values of its children. -/
theorem value_eq (e : Expr) : value env e = evaluateNode env (value env) e := by
  rw [value, evaluate, evaluateAt_eq, if_neg (Nat.not_lt_zero _)]
  refine evaluateNode_congr fun x hx => evaluateAt_eq_value ?_
  have := height_lt_of_child hx
  omega

/-- Without room, evaluation may also fail for the limit. -/
theorem evaluateAt_eq_value_or (e : Expr) :
    evaluateAt env limit depth e = value env e ∨
      evaluateAt env limit depth e = .error (.depthExceeded limit) := by
  induction e using induction_children generalizing depth with
  | step e ih =>
    rw [evaluateAt_eq, value_eq]
    split
    · -- the limit is reached here, or below
      exact .inr rfl
    · exact evaluateNode_eq_or fun x hx => ih x hx

theorem value_of_evaluate {v : Value} (h : e.evaluate env limit = .ok v) :
    value env e = .ok v := by
  have hor : evaluateAt env limit 0 e = value env e ∨
      evaluateAt env limit 0 e = .error (.depthExceeded limit) := evaluateAt_eq_value_or e
  rcases hor with he | he
  · rw [← he]; exact h
  · rw [evaluate, he] at h; cases h

/-! ### Nodes that have a value -/

theorem value_binary_eq_ok_iff {op : BinaryOp} {left right : Expr} {v : Value} :
    value env (binary op left right) = .ok v ↔
      ∃ a, value env left = .ok a ∧ (shortCircuit? op a = some v ∨
        shortCircuit? op a = none ∧ ∃ b, value env right = .ok b ∧ operate op a b = .ok v) := by
  rw [value_eq, evaluateNode, Except.bind_eq_ok_iff]
  refine exists_congr fun a => and_congr_right fun _ => ?_
  cases hs : shortCircuit? op a with
  | some w => simp [pure, Except.pure]
  | none => simp [Except.bind_eq_ok_iff]

theorem value_unary_eq_ok_iff {op : UnaryOp} {operand : Expr} {type : HostType}
    {via : Option String} {v : Value} :
    value env (unary op operand type via) = .ok v ↔
      ∃ w, value env operand = .ok w ∧ operateUnary env op w type via = .ok v := by
  rw [value_eq, evaluateNode, Except.bind_eq_ok_iff]

/-- The parts of a call that has a value have values. -/
theorem parts_of_value_call {target : Expr} {method : String} {args : List Expr}
    {owner type : HostType} {v : Value}
    (h : value env (call target method args owner type) = .ok v) :
    ∀ x ∈ target :: args, ∃ w, value env x = .ok w := by
  rw [value_eq, evaluateNode, Except.bind_eq_ok_iff] at h
  obtain ⟨w, hw, h⟩ := h
  obtain ⟨ws, hws, -⟩ := Except.bind_eq_ok_iff.1 h
  intro x hx
  rcases List.mem_cons.1 hx with rfl | hx
  · exact ⟨w, hw⟩
  · exact Except.exists_of_mapM_ok hws x hx

theorem parts_of_value_staticCall {owner : HostType} {method : String} {args : List Expr}
    {type : HostType} {v : Value} (h : value env (staticCall owner method args type) = .ok v) :
    ∀ x ∈ args, ∃ w, value env x = .ok w := by
  rw [value_eq, evaluateNode, Except.bind_eq_ok_iff] at h
  obtain ⟨ws, hws, -⟩ := h
  exact Except.exists_of_mapM_ok hws

theorem eq_of_isLogical {op : BinaryOp} (h : op.isLogical = true) :
    op = .andAlso ∨ op = .orElse := by
  cases op with
  | andAlso => exact .inl rfl
  | orElse => exact .inr rfl
  | _ => cases h

/-- The left operand that decides a connective is its value. -/
theorem bool_of_shortCircuit {op : BinaryOp} {a v : Value} (hop : op.isLogical = true)
    (h : shortCircuit? op a = some v) : ∃ b, a = .bool b ∧ v = .bool b := by
  unfold shortCircuit? at h
  split at h
  · cases h
    exact ⟨false, rfl, rfl⟩
  · cases h
    exact ⟨true, rfl, rfl⟩
  · cases hop
  · cases h

/-- A connective that its left operand does not decide has the value of the right one. -/
theorem bools_of_operate {op : BinaryOp} {a b v : Value} (hop : op.isLogical = true)
    (h : operate op a b = .ok v) : ∃ x y, a = .bool x ∧ b = .bool y ∧ v = .bool y := by
  cases a with
  | bool x =>
    cases b with
    | bool y =>
      -- two truth values: the left one did not decide, so the right one is the value
      rcases eq_of_isLogical hop with rfl | rfl <;> cases h <;> exact ⟨x, y, rfl, rfl, rfl⟩
    | _ => rcases eq_of_isLogical hop with rfl | rfl <;> cases h
  | _ => rcases eq_of_isLogical hop with rfl | rfl <;> cases h

/-- The value of a connective is a truth value. -/
theorem bool_of_value_connective {op : BinaryOp} {left right : Expr} {v : Value}
    (hop : op.isLogical = true) (h : value env (binary op left right) = .ok v) :
    ∃ b, v = .bool b := by
  obtain ⟨a, -, hs | ⟨-, b, -, hb⟩⟩ := value_binary_eq_ok_iff.1 h
  · obtain ⟨b, -, hv⟩ := bool_of_shortCircuit hop hs
    exact ⟨b, hv⟩
  · obtain ⟨-, y, -, -, hv⟩ := bools_of_operate hop hb
    exact ⟨y, hv⟩

end Expr

end QueryClause
