import QueryClause.Proofs.Eval.Fresh

/-!
# The failure of the depth limit

Nothing that is built in fails for a depth limit (`Value.avoids_readMember`, `avoids_callMethod`,
`BinaryOp.avoids_apply` and so on), so without a host the evaluator's own guard is all that does.
It lets every node pass to which the limit leaves room, and where it stops one, the whole evaluation
fails for that reason: no operator and no method recovers from it.

`Expr.evaluateAt_limited` puts this together.  Beside evaluation under a higher limit, evaluation
gives the same result, which is no failure of a limit, or the limit was too low for the expression
and it fails for it.
-/

namespace QueryClause

/-! ### Members, arguments and texts -/

@[simp] theorem Value.avoids_readMember (v : Value) (name : String) :
    (v.readMember name).Avoids EvalError.depthExceeded := by
  unfold readMember requireMember
  repeat' split
  all_goals simp

theorem Expr.avoids_readStatic (fresh : Guid) (owner : Option String) (name : String)
    (type : HostType) :
    (readStatic (.none fresh) owner name type).Avoids EvalError.depthExceeded := by
  unfold readStatic
  dsimp only
  split <;> simp [Environment.none]

@[simp] theorem Arguments.avoids_at {α : Type} (kind : ArgumentKind) (view : Value → Option α)
    (method : String) (args : List Value) (i : Nat) :
    (Arguments.at? kind view method args i).Avoids EvalError.depthExceeded := by
  unfold Arguments.at?
  split <;> simp

@[simp] theorem Arguments.avoids_int (method : String) (args : List Value) (i : Nat) :
    (Arguments.int method args i).Avoids EvalError.depthExceeded := avoids_at _ _ _ _ _

@[simp] theorem Arguments.avoids_float (method : String) (args : List Value) (i : Nat) :
    (Arguments.float method args i).Avoids EvalError.depthExceeded := avoids_at _ _ _ _ _

@[simp] theorem Arguments.avoids_string (method : String) (args : List Value) (i : Nat) :
    (Arguments.string method args i).Avoids EvalError.depthExceeded := avoids_at _ _ _ _ _

@[simp] theorem Text.avoids_slice (s : List Char) (start : Int64) (length : Option Int64) :
    (Text.slice s start length).Avoids EvalError.depthExceeded := by
  unfold Text.slice
  repeat' split
  all_goals simp

/-! ### Conversions and operators -/

@[simp] theorem Value.avoids_convert (v : Value) (type : HostType) :
    (v.convert type).Avoids EvalError.depthExceeded := by
  unfold convert convertTo integerPart noConversion
  dsimp only
  repeat' split
  all_goals simp

@[simp] theorem Numeric.avoids_orOverflow {α : Type} (op : BinaryOp) (wrap : α → Value)
    (a : Option α) : (orOverflow op wrap a).Avoids EvalError.depthExceeded := by
  cases a <;> simp [orOverflow]

theorem Numeric.avoids_arithmetic (op : BinaryOp) (x y : Numeric) :
    (arithmetic op x y).Avoids EvalError.depthExceeded := by
  unfold arithmetic onInts onFloats onDecimals
  dsimp only
  repeat' split
  all_goals simp

theorem BinaryOp.avoids_applyTemporal (op : BinaryOp) (a b : Value) :
    (op.applyTemporal? a b).Avoids EvalError.depthExceeded := by
  unfold applyTemporal? shiftBy
  split <;> simp

theorem BinaryOp.avoids_applyOther (op : BinaryOp) (a b : Value) :
    (op.applyOther a b).Avoids EvalError.depthExceeded := by
  unfold applyOther applyNumeric
  split
  · simp
  · split
    · simp
    · split
      · simp
      · split
        · exact op.avoids_applyTemporal a b _ ‹_›
        · split
          · exact Numeric.avoids_arithmetic op _ _
          · simp

theorem BinaryOp.avoids_apply (op : BinaryOp) (a b : Value) :
    (op.apply a b).Avoids EvalError.depthExceeded := by
  cases op with
  | lessThan | lessThanOrEqual | greaterThan | greaterThanOrEqual =>
    simp only [apply, applyOrder]
    repeat' split
    all_goals simp
  | arrayIndex =>
    simp only [apply, applyIndex]
    repeat' split
    all_goals simp
  | equal | notEqual | coalesce => simp [apply]
  -- arithmetic of dates, of numbers, and concatenation
  | _ => exact avoids_applyOther _ a b

theorem UnaryOp.avoids_apply (op : UnaryOp) (v : Value) (type : HostType) :
    (op.apply v type).Avoids EvalError.depthExceeded := by
  unfold apply
  dsimp only
  repeat' split
  all_goals simp

theorem Expr.avoids_operate (op : BinaryOp) (a b : Value) :
    (operate op a b).Avoids EvalError.depthExceeded := by
  unfold operate
  split
  · split <;> simp
  · split <;> simp
  · exact op.avoids_apply a b

/-! ### Methods and constructors -/

theorem avoids_stringMethod (s method : String) (args : List Value) :
    (stringMethod? s method args).Avoids EvalError.depthExceeded := by
  unfold stringMethod?
  split <;> simp
  split <;> simp

@[simp] theorem avoids_addMillis (method : String) (t : DateTime) (ms : Float) :
    (addMillis method t ms).Avoids EvalError.depthExceeded := by
  unfold addMillis
  dsimp only
  split <;> simp

@[simp] theorem avoids_addMonths (method : String) (t : DateTime) (n : Int64) :
    (addMonths method t n).Avoids EvalError.depthExceeded := by
  unfold addMonths
  dsimp only
  split <;> simp

theorem avoids_dateTimeMethod (t : DateTime) (method : String) (args : List Value) :
    (dateTimeMethod? t method args).Avoids EvalError.depthExceeded := by
  unfold dateTimeMethod?
  split <;> simp

theorem avoids_listMethod (items : List Value) (method : String) (args : List Value) :
    (listMethod? items method args).Avoids EvalError.depthExceeded := by
  unfold listMethod?
  split <;> simp

theorem avoids_valueMethod (v : Value) (method : String) (args : List Value) :
    (valueMethod? v method args).Avoids EvalError.depthExceeded := by
  unfold valueMethod? kindMethod?
  split
  · simp
  · simp
  · rw [Option.avoids_some_iff]
    split <;> simp
  · simp
  · split
    · exact avoids_stringMethod _ _ _
    · exact avoids_dateTimeMethod _ _ _
    · exact avoids_listMethod _ _ _
    · simp

@[simp] theorem avoids_mapNumber (v : Value) (onDecimal : Decimal → Decimal)
    (onFloat : Float → Float) :
    (mapNumber v onDecimal onFloat).Avoids EvalError.depthExceeded := by
  unfold mapNumber
  split <;> simp

theorem avoids_mathMethod (method : String) (args : List Value) :
    (mathMethod? method args).Avoids EvalError.depthExceeded := by
  unfold mathMethod?
  dsimp only
  repeat' split
  all_goals simp

theorem avoids_stringFunction (method : String) (args : List Value) :
    (stringFunction? method args).Avoids EvalError.depthExceeded := by
  unfold stringFunction?
  split <;> simp

theorem avoids_listFunction (method : String) (args : List Value) :
    (listFunction? method args).Avoids EvalError.depthExceeded := by
  unfold listFunction?
  split <;> simp

theorem avoids_spanFunction (method : String) (args : List Value) :
    (spanFunction? method args).Avoids EvalError.depthExceeded := by
  unfold spanFunction? spanOf
  split
  · rw [Option.avoids_some_iff]
    split <;> simp
  all_goals simp

theorem avoids_convertFunction (method : String) (args : List Value) :
    (convertFunction? method args).Avoids EvalError.depthExceeded := by
  unfold convertFunction?
  repeat' split
  all_goals simp

theorem avoids_typeMethod (fresh : Guid) (owner method : String) (args : List Value) :
    (typeMethod? fresh owner method args).Avoids EvalError.depthExceeded := by
  unfold typeMethod?
  split
  · rw [Option.avoids_map_iff]
    intro r _
    cases r <;> simp
  · split
    · exact avoids_stringFunction _ _
    · exact avoids_mathMethod _ _
    · exact avoids_listFunction _ _
    · split <;> simp
    · exact avoids_spanFunction _ _
    · exact avoids_convertFunction _ _
    · simp

theorem avoids_callMethod (fresh : Guid) (owner : HostType) (target : Option Value)
    (method : String) (args : List Value) :
    (callMethod? fresh owner target method args).Avoids EvalError.depthExceeded := by
  unfold callMethod?
  split
  · split <;> simp
  · exact avoids_valueMethod _ _ _
  · exact avoids_typeMethod _ _ _ _

theorem avoids_constructValue (type : HostType) (members : List String) (args : List Value) :
    (constructValue? type members args).Avoids EvalError.depthExceeded := by
  unfold constructValue?
  dsimp only
  split
  case h_1 | h_2 =>
    rw [Option.avoids_map_iff]
    intro parts _
    repeat' split
    all_goals simp
  all_goals
    repeat' split
    all_goals simp

/-! ### Evaluation -/

namespace Expr

theorem avoids_invoke (fresh : Guid) (owner : HostType) (target : Option Value) (method : String)
    (args : List Value) :
    (invoke (.none fresh) owner target method args).Avoids EvalError.depthExceeded := by
  simp only [invoke, Environment.none, Option.or_none]
  exact (avoids_callMethod _ _ _ _ _).getD (by simp)

theorem avoids_construct (fresh : Guid) (type : HostType) (members : List String)
    (args : List Value) :
    (construct (.none fresh) type members args).Avoids EvalError.depthExceeded := by
  simp only [construct, Environment.none, Option.none_or]
  exact (avoids_constructValue _ _ _).getD (by simp)

theorem avoids_operateUnary (fresh : Guid) (op : UnaryOp) (v : Value) (type : HostType)
    (via : Option String) :
    (operateUnary (.none fresh) op v type via).Avoids EvalError.depthExceeded := by
  unfold operateUnary
  split
  · exact UnaryOp.avoids_apply .convert v type
  · exact UnaryOp.avoids_apply op v type

variable {fresh : Guid} {limit limit' depth : Nat} {low : Prop} {e : Expr}
  {f g : Expr → Except EvalError Value}

theorem evaluateBinding_limited {b : String × Expr}
    (h : Except.Limited EvalError.depthExceeded limit low (f b.2) (g b.2)) :
    Except.Limited EvalError.depthExceeded limit low (evaluateBinding f b) (evaluateBinding g b) :=
  h.map

/-- A node comes out under the limit as its children do. -/
theorem evaluateNode_limited
    (h : ∀ x ∈ e.children, Except.Limited EvalError.depthExceeded limit low (f x) (g x)) :
    Except.Limited EvalError.depthExceeded limit low (evaluateNode (.none fresh) f e)
      (evaluateNode (.none fresh) g e) := by
  cases e with
  | lambda params body =>
    refine .ite (fun _ => h body (by simp [children])) fun _ => .of_avoids (by simp)
  | constant | parameter => exact .of_avoids (by simp [evaluateNode])
  | member target name declaring type =>
    refine (h target (by simp [children])).bind fun v => .of_avoids ?_
    simp
  | staticMember owner name type =>
    refine .of_avoids ?_
    simp [evaluateNode, avoids_readStatic]
  | binary op left right =>
    refine (h left (by simp [children])).bind fun a => ?_
    split
    · exact .of_avoids (by simp)
    · exact (h right (by simp [children])).bind fun b => .of_avoids (avoids_operate op a b)
  | unary op operand type via =>
    exact (h operand (by simp [children])).bind fun v => .of_avoids (avoids_operateUnary _ _ _ _ _)
  | call target method args owner type =>
    refine (h target List.mem_cons_self).bind fun v => ?_
    refine (Except.Limited.mapM fun a ha => h a (List.mem_cons_of_mem _ ha)).bind fun vs => ?_
    exact .of_avoids (by simp [avoids_invoke])
  | staticCall owner method args type =>
    refine (Except.Limited.mapM h).bind fun vs => .of_avoids ?_
    simp [avoids_invoke]
  | new type args members =>
    exact (Except.Limited.mapM h).bind fun vs => .of_avoids (avoids_construct _ _ _ _)
  | newArray itemType items =>
    exact (Except.Limited.mapM h).bind fun vs => .of_avoids (by simp)
  | memberInit type bindings =>
    refine Except.Limited.bind (Except.Limited.mapM fun b hb => ?_) fun fields =>
      .of_avoids (by simp)
    exact evaluateBinding_limited (h b.2 (List.mem_map_of_mem hb))

/-- **The depth limit only ever fails an evaluation**: it gives what a higher limit gives, or it is
too low for the expression and fails.  Which identifier comes next does not matter. -/
theorem evaluateAt_limited (fresh' : Guid) (hg : e.Lacks isNewGuid) (hle : limit ≤ limit') :
    Except.Limited EvalError.depthExceeded limit (limit < depth + e.height)
      (evaluateAt (.none fresh) limit depth e) (evaluateAt (.none fresh') limit' depth e) := by
  induction e using induction_children generalizing depth with
  | step e ih =>
    rw [evaluateAt_eq, evaluateAt_eq]
    -- the lower limit is reached first; above it both take the same step
    by_cases hdepth : limit < depth
    · rw [if_pos hdepth]
      exact .inr ⟨by omega, rfl⟩
    · have hfresh : ∀ g, evaluateNode (.none fresh') g e = evaluateNode (.none fresh) g e :=
        fun g => show evaluateNode ((Environment.none fresh).withFresh fresh') g e = _ from
          evaluateNode_withFresh g hg.root
      rw [if_neg hdepth, if_neg (by omega), hfresh]
      refine evaluateNode_limited fun x hx => (ih x hx (hg.child hx)).mono fun h => ?_
      have := height_lt_of_child hx
      omega

end Expr

end QueryClause
