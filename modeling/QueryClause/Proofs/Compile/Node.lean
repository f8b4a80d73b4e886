import QueryClause.Compile.Basic
import QueryClause.Proofs.Eval.Depth

/-!
# One step of compilation

`Context.compileNode` is what a node makes of the fragments for its children; compilation repeats it
under the depth limit (`Context.compileAt_eq`).  The lemmas below say for each kind of step what it
can give, so that a proof about compilation does not have to open the step again: when it fails, and
when its fragment is a value.
-/

namespace QueryClause

/-- Whether a node is a lambda. -/
def Expr.isLambda : Expr → Bool
  | lambda .. => true
  | _ => false

/-- Whether a node is a lambda over a column. -/
def Expr.isColumnLambda : Expr → Bool
  | lambda _ body => body.isColumn
  | _ => false

/-- Whether a node is a call of a function of the type `Sql`. -/
def Expr.isQueryCall : Expr → Bool
  | staticCall owner _ _ _ => owner = .object "Sql"
  | _ => false

/-- Whether a node makes an object or a list of its children. -/
def Expr.isConstruction : Expr → Bool
  | new .. | newArray .. | memberInit .. => true
  | _ => false

/-- The collection and the item of a call that searches for an item. -/
def Expr.search? : Expr → Option (Expr × Expr)
  | call target method args owner _ =>
    match method, args, owner.isEnumerable with
    | "Contains", [item], true => some (target, item)
    | _, _, _ => none
  | staticCall _ method args _ =>
    match args with
    | [collection, item] => if method = "Contains" then some (collection, item) else none
    | _ => none
  | _ => none

/-- A search that has a value has a collection and an item that do. -/
theorem Expr.parts_of_value_search {env : Environment} {e collection item : Expr} {v : Value}
    (hs : e.search? = some (collection, item)) (h : e.value env = .ok v) :
    (∃ w, collection.value env = .ok w) ∧ ∃ w, item.value env = .ok w := by
  unfold search? at hs
  split at hs
  · have hparts := parts_of_value_call h
    split at hs
    · cases hs; exact ⟨hparts _ (by simp), hparts _ (by simp)⟩
    · cases hs
  · have hparts := parts_of_value_staticCall h
    split at hs
    · split at hs
      · cases hs; exact ⟨hparts _ (by simp), hparts _ (by simp)⟩
      · cases hs
    · cases hs
  · cases hs

theorem Expr.mem_children_of_search {e collection item : Expr}
    (h : e.search? = some (collection, item)) : collection ∈ e.children ∧ item ∈ e.children := by
  unfold search? at h
  split at h
  · split at h
    · cases h; simp [children]
    · cases h
  · split at h
    · split at h
      · cases h; simp [children]
      · cases h
    · cases h
  · cases h

namespace Context

/-- The compiler of conditions in a dialect that knows no schema, no aliases and no host. -/
def bare (d : Dialect) : Context where
  target := ⟨d, false⟩
  schema := Registry.empty.schema
  aliases := .empty
  env := .none .nil
  options := ⟨false, Expr.defaultMaxDepth⟩
  clause := .predicate

/-- The pieces of an order. -/
def pieces : Expr :=
  .member (.parameter "o" (.entity "Orders")) "Pieces" (some "Orders") (.int .int64)

/-! ### The step -/

/-- The value of a part of an expression as a fragment. -/
def foldNative (c : Context) (e : Expr) : Compiled := (c.fold e).map .native

/-- A connective outside a run. -/
def connective (c : Context) (e : Expr) (op : BinaryOp) (l r : Fragment) : Compiled :=
  c.connectiveM c.fold e op l r

theorem connective_eq (c : Context) (e : Expr) (op : BinaryOp) (l r : Fragment) :
    c.connective e op l r =
      if l.isSql || r.isSql then do
        let l ← c.condition l
        let r ← c.condition r
        return .sql (operatorText op l r)
      else do return .sql (c.target.literal (← c.fold e) .bool) := rfl

/-- The search of a collection outside a run. -/
def containment (c : Context) (e collection : Expr) (column : Compiled) : Compiled :=
  c.containmentM c.fold e collection column

theorem containment_eq (c : Context) (e collection : Expr) (column : Compiled) :
    c.containment e collection column = (do
      let f ← column
      if f.isSql then return c.inList (← c.fold collection) f else c.foldNative e) := rfl

/-- The construction of an object or a list outside a run. -/
def construction (c : Context) (e : Expr) (parts : Unit → List (HostType × Compiled)) : Compiled :=
  c.constructionM c.fold e parts

theorem construction_eq (c : Context) (e : Expr) (parts : Unit → List (HostType × Compiled)) :
    c.construction e parts =
      match c.fold e with
      | .ok v => .ok (.native v)
      | .error (.evaluation (.invalidOperation _)) => do
        return .sql (Text.join "," (← c.partTexts (parts ())))
      | .error cause => .error cause := by
  rw [construction, constructionM]
  cases c.fold e with
  | ok v => rfl
  | error cause =>
    cases cause with
    | evaluation cause => cases cause <;> rfl
    | unsupported | malformed | depthExceeded => rfl

/-- The fragment for a node, where `f` gives the fragments for its children. -/
def compileNode (c : Context) (depth : Nat) (f : Expr → Compiled) (e : Expr) : Compiled :=
  match e with
  | .lambda _ body =>
    if depth = 0 && c.clause = .predicate && body.isColumn then c.trueColumn body else f body
  | .member .. => if e.isColumn then c.column e else c.foldNative e
  | .staticMember .. => c.foldNative e
  | .constant v _ => if v.isNull then .ok (.sql "null") else c.foldNative e
  | .parameter name _ => .ok (.sql name)
  | .binary op left right =>
    if op.isLogical then do
      let l ← if left.isColumn then c.trueColumn left else f left
      let r ← if right.isColumn then c.trueColumn right else f right
      c.connective e op l r
    else do
      let l ← f left
      let r ← f right
      c.operator op left.staticType right.staticType l r
  | .unary op operand type via =>
    if op = .convert && via.isSome then c.foldNative e
    else do c.unaryOperator op type operand.isColumn (← f operand)
  | .call target method args owner _ =>
    match method, args, owner.isEnumerable with
    | "Contains", [column], true => c.containment e target (f column)
    | method, args, _ =>
      if target.isColumnRooted then c.columnMethod target method (f target) (args.map f)
      else c.foldNative e
  | .staticCall owner method args _ =>
    match if owner = .object "Sql" then Helper.ofName? method else none, args with
    | some h, first :: rest => h.applyM c.fold c (f first) rest
    | _, [collection, column] =>
      if method = "Contains" then c.containment e collection (f column) else c.foldNative e
    | _, _ => c.foldNative e
  | .new .. | .newArray .. | .memberInit .. =>
    c.construction e fun _ => e.children.map fun x => (x.staticType, f x)

variable {c : Context} {depth : Nat}

section

variable {m : Type → Type} [Monad m] [MonadExceptOf CompileError m]
  [MonadLiftT (Except CompileError) m] {fold : Expr → m Value}

theorem compileAllM_eq_map (es : List Expr) :
    compileAllM fold c depth es = es.map (compileAtM fold c depth) := by
  induction es with
  | nil => rfl
  | cons e rest ih => rw [compileAllM, List.map_cons, ih]

theorem compilePartsM_eq_map (es : List Expr) :
    compilePartsM fold c depth es = es.map fun x => (x.staticType, compileAtM fold c depth x) := by
  induction es with
  | nil => rfl
  | cons e rest ih => rw [compilePartsM, List.map_cons, ih]

theorem compileBindingsM_eq_map (bs : List (String × Expr)) :
    compileBindingsM fold c depth bs =
      (bs.map Prod.snd).map fun x => (x.staticType, compileAtM fold c depth x) := by
  induction bs with
  | nil => rfl
  | cons b rest ih =>
    obtain ⟨name, e⟩ := b
    rw [compileBindingsM, List.map_cons, List.map_cons, ih]

end

/-- Compilation is the step, repeated as long as the limit allows. -/
theorem compileAt_eq (e : Expr) :
    c.compileAt depth e =
      if c.options.maxDepth < depth then .error (.depthExceeded c.options.maxDepth)
      else c.compileNode depth (c.compileAt (depth + 1)) e := by
  cases e with
  | call => rw [compileAt, compileAtM]; simp only [compileAllM_eq_map]; rfl
  | new | newArray => rw [compileAt, compileAtM]; simp only [compilePartsM_eq_map]; rfl
  | memberInit => rw [compileAt, compileAtM]; simp only [compileBindingsM_eq_map]; rfl
  | _ => rw [compileAt, compileAtM]; rfl

/-- What compiles is within the limit. -/
theorem compileNode_of_compileAt {e : Expr} {f : Fragment} (h : c.compileAt depth e = .ok f) :
    depth ≤ c.options.maxDepth ∧ c.compileNode depth (c.compileAt (depth + 1)) e = .ok f := by
  rw [compileAt_eq] at h
  split at h
  · cases h
  · exact ⟨by omega, h⟩

theorem compileNode_congr {f g : Expr → Compiled} {e : Expr} (h : ∀ x ∈ e.children, f x = g x) :
    c.compileNode depth f e = c.compileNode depth g e := by
  cases e with
  | call target method args owner type =>
    have hargs : args.map f = args.map g :=
      List.map_congr_left fun a ha => h a (List.mem_cons_of_mem _ ha)
    unfold compileNode
    dsimp only
    rw [h target List.mem_cons_self]
    split
    · rw [h _ (List.mem_cons_of_mem _ List.mem_cons_self)]
    · rw [hargs]
  | staticCall owner method args type =>
    unfold compileNode
    dsimp only
    split
    · rw [h _ List.mem_cons_self]
    · rw [h _ (List.mem_cons_of_mem _ List.mem_cons_self)]
    · rfl
  | new | newArray | memberInit =>
    -- the texts of the parts are those of the children
    have hparts := List.map_congr_left fun x hx => congrArg (Prod.mk x.staticType) (h x hx)
    simp only [compileNode, hparts]
  | _ => simp_all [compileNode, Expr.children]

/-- What lacks lambdas compiles the same at every depth that leaves it room. -/
theorem compileAt_room {e : Expr} {depth' : Nat} (hl : e.Lacks Expr.isLambda)
    (h : depth + e.height ≤ c.options.maxDepth) (h' : depth' + e.height ≤ c.options.maxDepth) :
    c.compileAt depth e = c.compileAt depth' e := by
  induction e using Expr.induction_children generalizing depth depth' with
  | step e ih =>
    -- only a lambda asks for its depth
    have hnode : ∀ f, c.compileNode depth f e = c.compileNode depth' f e := fun f => by
      cases e with
      | lambda => cases hl.root
      | _ => rfl
    rw [compileAt_eq, compileAt_eq, if_neg (by omega), if_neg (by omega), hnode]
    exact compileNode_congr fun x hx =>
      ih x hx (hl.child hx) (Expr.room_of_child hx h) (Expr.room_of_child hx h')

/-- With room and without lambdas, compilation is the step, repeated. -/
theorem compile_eq {e : Expr} (hl : e.Lacks Expr.isLambda) (h : e.height ≤ c.options.maxDepth) :
    c.compile e = c.compileNode 0 c.compile e := by
  rw [compile, compileAt_eq, if_neg (by omega)]
  refine compileNode_congr fun x hx => compileAt_room (hl.child hx) ?_ ?_ <;>
    have := Expr.height_lt_of_child hx <;> omega

/-- The fragment for an operand of a connective. -/
def connectiveOperand (c : Context) (f : Expr → Compiled) (e : Expr) : Compiled :=
  if e.isColumn then c.trueColumn e else f e

theorem compileNode_connective {op : BinaryOp} {left right : Expr} {f : Expr → Compiled}
    (hop : op.isLogical = true) :
    c.compileNode depth f (.binary op left right) = (do
      let l ← c.connectiveOperand f left
      let r ← c.connectiveOperand f right
      c.connective (.binary op left right) op l r) := by
  simp only [compileNode, hop, connectiveOperand]
  cases left.isColumn <;> cases right.isColumn <;> rfl

theorem compileNode_operator {op : BinaryOp} {left right : Expr} {f : Expr → Compiled}
    (hop : op.isLogical = false) :
    c.compileNode depth f (.binary op left right) = (do
      let l ← f left
      let r ← f right
      c.operator op left.staticType right.staticType l r) := by
  simp [compileNode, hop]

theorem exists_of_compileAt_connective {op : BinaryOp} {left right : Expr} {f : Fragment}
    (hop : op.isLogical = true) (h : c.compileAt depth (.binary op left right) = .ok f) :
    ∃ l r, c.connectiveOperand (c.compileAt (depth + 1)) left = .ok l ∧
      c.connectiveOperand (c.compileAt (depth + 1)) right = .ok r ∧
      c.connective (.binary op left right) op l r = .ok f := by
  obtain ⟨-, hnode⟩ := compileNode_of_compileAt h
  rw [compileNode_connective hop] at hnode
  obtain ⟨l, hl, hnode⟩ := Except.bind_eq_ok_iff.1 hnode
  obtain ⟨r, hr, hnode⟩ := Except.bind_eq_ok_iff.1 hnode
  exact ⟨l, r, hl, hr, hnode⟩

theorem compileAt_operator {op : BinaryOp} {left right : Expr} {l r : Fragment}
    (hop : op.isLogical = false) (hl : c.compileAt (depth + 1) left = .ok l)
    (hr : c.compileAt (depth + 1) right = .ok r) :
    c.compileAt depth (.binary op left right) =
      c.operator op left.staticType right.staticType l r := by
  have hdepth := (compileNode_of_compileAt hl).1
  rw [compileAt_eq, if_neg (by omega), compileNode_operator hop, hl, hr]
  rfl

theorem exists_of_compileAt_unary {e : Expr} {f : Fragment} {op : UnaryOp} {type : HostType}
    {via : Option String} (hop : (op = .convert && via.isSome) = false)
    (h : c.compileAt depth (.unary op e type via) = .ok f) :
    ∃ g, c.compileAt (depth + 1) e = .ok g ∧ c.unaryOperator op type e.isColumn g = .ok f := by
  obtain ⟨-, hnode⟩ := compileNode_of_compileAt h
  rw [compileNode, hop] at hnode
  exact Except.bind_eq_ok_iff.1 hnode

/-- The three ways to compile a method of an object: a search, a method on a column, or a value. -/
theorem compileNode_call (c : Context) (depth : Nat) (target : Expr) (method : String)
    (args : List Expr) (owner type : HostType) (f : Expr → Compiled) :
    let e := Expr.call target method args owner type
    (∃ collection column, e.search? = some (collection, column) ∧
        c.compileNode depth f e = c.containment e collection (f column)) ∨
      (e.search? = none ∧ target.isColumnRooted = true ∧
        c.compileNode depth f e = c.columnMethod target method (f target) (args.map f)) ∨
      (e.search? = none ∧ target.isColumnRooted = false ∧
        c.compileNode depth f e = c.foldNative e) := by
  unfold compileNode Expr.search?
  dsimp only
  split
  · exact .inl ⟨_, _, rfl, rfl⟩
  · split
    · exact .inr (.inl ⟨rfl, ‹_›, rfl⟩)
    · exact .inr (.inr ⟨rfl, Bool.eq_false_iff.2 ‹_›, rfl⟩)

/-- The three ways to compile a method of a type: a function for queries, a search, or a value. -/
theorem compileNode_staticCall (c : Context) (depth : Nat) (owner : HostType) (method : String)
    (args : List Expr) (type : HostType) (f : Expr → Compiled) :
    let e := Expr.staticCall owner method args type
    (∃ k first rest, e.isQueryCall = true ∧ args = first :: rest ∧
        c.compileNode depth f e = Helper.applyM c.fold c k (f first) rest) ∨
      (∃ collection column, e.search? = some (collection, column) ∧
        c.compileNode depth f e = c.containment e collection (f column)) ∨
      (e.search? = none ∧ c.compileNode depth f e = c.foldNative e) := by
  unfold compileNode Expr.search? Expr.isQueryCall
  dsimp only
  split
  · rename_i k first rest hk
    split at hk
    · exact .inl ⟨k, first, rest, decide_eq_true ‹_›, rfl, rfl⟩
    · cases hk
  · split
    · exact .inr (.inl ⟨_, _, rfl, rfl⟩)
    · exact .inr (.inr ⟨rfl, rfl⟩)
  · rename_i hargs _
    right; right
    refine ⟨?_, rfl⟩
    split
    · exact absurd rfl (hargs _ _)
    · rfl

theorem compileNode_construction {f : Expr → Compiled} {e : Expr} (he : e.isConstruction = true) :
    c.compileNode depth f e =
      c.construction e fun _ => e.children.map fun x => (x.staticType, f x) := by
  cases e with
  | new | newArray | memberInit => rw [compileNode]
  | _ => cases he

theorem compileNode_search {e collection item : Expr} {f : Expr → Compiled}
    (hs : e.search? = some (collection, item)) (hq : e.isQueryCall = false) :
    c.compileNode depth f e = c.containment e collection (f item) := by
  cases e with
  | call target method args owner type =>
    rcases compileNode_call c depth target method args owner type f with
      ⟨_, _, hs', h⟩ | ⟨hs', -⟩ | ⟨hs', -⟩
    · rw [hs] at hs'; cases hs'; exact h
    · rw [hs] at hs'; cases hs'
    · rw [hs] at hs'; cases hs'
  | staticCall owner method args type =>
    rcases compileNode_staticCall c depth owner method args type f with
      ⟨_, _, _, hq', -⟩ | ⟨_, _, hs', h⟩ | ⟨hs', -⟩
    · rw [hq] at hq'; cases hq'
    · rw [hs] at hs'; cases hs'; exact h
    · rw [hs] at hs'; cases hs'
  | _ => cases hs

/-! ### Values -/

theorem value_of_fold {e : Expr} {v : Value} (h : c.fold e = .ok v) : e.value c.env = .ok v := by
  rw [fold] at h
  split at h
  · rename_i w hw
    cases h
    exact Expr.value_of_evaluate hw
  · cases h

theorem fold_of_value {e : Expr} {v : Value} (hd : e.height ≤ c.options.maxDepth)
    (h : e.value c.env = .ok v) : c.fold e = .ok v := by
  rw [fold, Expr.evaluate_eq_value hd, h]

theorem foldNative_eq_ok_iff {e : Expr} {f : Fragment} :
    c.foldNative e = .ok f ↔ ∃ v, c.fold e = .ok v ∧ .native v = f := by
  rw [foldNative, Except.map_eq_ok_iff]

theorem fold_of_foldNative {e : Expr} {v : Value} (h : c.foldNative e = .ok (.native v)) :
    c.fold e = .ok v := by
  obtain ⟨w, hw, hf⟩ := foldNative_eq_ok_iff.1 h
  cases hf
  exact hw

/-! ### Steps that give SQL -/

theorem compileAt_column {e : Expr} (he : e.isColumn = true) (h : depth ≤ c.options.maxDepth) :
    c.compileAt depth e = c.column e := by
  cases e with
  | member => rw [compileAt_eq, if_neg (by omega), compileNode, if_pos he]
  | _ => cases he

theorem column_of_compileAt {e : Expr} {f : Fragment} (he : e.isColumn = true)
    (h : c.compileAt depth e = .ok f) : c.column e = .ok f := by
  rw [← compileAt_column he (compileNode_of_compileAt h).1, h]

theorem columnFragment_isSql (text : String) (type : HostType) :
    (columnFragment text type).isSql = true := by
  rw [columnFragment]
  split <;> rfl

theorem render_columnFragment (text : String) (type : HostType) (t : Target) :
    (columnFragment text type).render t = text := by
  rw [columnFragment]
  split <;> rfl

theorem isSql_of_column {e : Expr} {f : Fragment} (he : e.isColumn = true)
    (h : c.column e = .ok f) : f.isSql = true := by
  cases e with
  | member target name declaring type =>
    rw [column] at h
    split at h
    · cases h; exact columnFragment_isSql _ _
    · cases h
  | _ => cases he

theorem isSql_of_trueColumn {e : Expr} {f : Fragment} (h : c.trueColumn e = .ok f) :
    f.isSql = true := by
  rw [trueColumn, Except.map_eq_ok_iff] at h
  obtain ⟨g, -, rfl⟩ := h
  rfl

theorem isSql_of_connective {e : Expr} {op : BinaryOp} {l r f : Fragment}
    (h : c.connective e op l r = .ok f) : f.isSql = true := by
  rw [connective_eq] at h
  split at h
  · obtain ⟨s, -, h⟩ := Except.bind_eq_ok_iff.1 h
    obtain ⟨t, -, h⟩ := Except.bind_eq_ok_iff.1 h
    cases h; rfl
  · obtain ⟨v, -, h⟩ := Except.bind_eq_ok_iff.1 h
    cases h; rfl

/-- A connective beside SQL writes its operands as conditions. -/
theorem connective_written {e : Expr} {op : BinaryOp} {l r : Fragment} {s t : String}
    (hsql : (l.isSql || r.isSql) = true) (hs : c.condition l = .ok s) (ht : c.condition r = .ok t) :
    c.connective e op l r = .ok (.sql (operatorText op s t)) := by
  rw [connective_eq, if_pos hsql, hs, ht]
  rfl

/-- An operator with SQL on its left is written out. -/
theorem operator_left {op : BinaryOp} {leftType rightType : HostType} {l r f : Fragment}
    (hl : l.isSql = true) (h : c.operator op leftType rightType l r = .ok f) :
    ∃ t, f = .sql (operatorText op (l.render c.target) t) := by
  cases l with
  | native v => cases hl
  | sql text => cases r <;> (cases h; exact ⟨_, rfl⟩)
  | enumColumn text e => cases r <;> (cases h; exact ⟨_, rfl⟩)

/-- An operator with SQL on its right is written out. -/
theorem operator_right {op : BinaryOp} {leftType rightType : HostType} {l r f : Fragment}
    (hr : r.isSql = true) (h : c.operator op leftType rightType l r = .ok f) :
    ∃ t, f = .sql (operatorText op t (r.render c.target)) := by
  cases r with
  | native v => cases hr
  | sql text => cases l <;> (cases h; exact ⟨_, rfl⟩)
  | enumColumn text e => cases l <;> (cases h; exact ⟨_, rfl⟩)

theorem isSql_of_columnMethod {receiver : Expr} {method : String} {column : Compiled}
    {args : List Compiled} {f : Fragment} (h : c.columnMethod receiver method column args = .ok f) :
    f.isSql = true := by
  rw [columnMethod] at h
  obtain ⟨g, -, h⟩ := Except.bind_eq_ok_iff.1 h
  split at h
  · cases h
  · obtain ⟨s, -, h⟩ := Except.bind_eq_ok_iff.1 h
    cases h; rfl

theorem isSql_of_applyM {k : Helper} {first : Compiled} {rest : List Expr} {f : Fragment}
    (h : k.applyM c.fold c first rest = .ok f) : f.isSql = true := by
  rw [Helper.applyM] at h
  obtain ⟨g, -, h⟩ := Except.bind_eq_ok_iff.1 h
  split at h
  · cases h; rfl
  · obtain ⟨vs, -, h⟩ := Except.bind_eq_ok_iff.1 h
    cases h; rfl
  · split at h
    · cases h
    · obtain ⟨v, -, h⟩ := Except.bind_eq_ok_iff.1 h
      cases h; rfl

/-! ### Steps that give a value -/

theorem ofValue_eq_ok_iff {r : Except EvalError Value} {f : Fragment} :
    Compiled.ofValue r = .ok f ↔ ∃ v, r = .ok v ∧ .native v = f := by
  cases r <;> simp [Compiled.ofValue]

theorem operands_of_operator {op : BinaryOp} {leftType rightType : HostType} {l r : Fragment}
    {v : Value} (h : c.operator op leftType rightType l r = .ok (.native v)) :
    ∃ a b, l = .native a ∧ r = .native b ∧ op.apply a b = .ok v := by
  cases l <;> cases r <;>
    simp only [operator, adapted, coerced, Except.ok.injEq, reduceCtorEq] at h
  rename_i a b
  obtain ⟨w, hw, hv⟩ := ofValue_eq_ok_iff.1 h
  cases hv
  exact ⟨a, b, rfl, rfl, hw⟩

theorem operand_of_unaryOperator {op : UnaryOp} {type : HostType} {ofColumn : Bool}
    {f : Fragment} {v : Value} (h : c.unaryOperator op type ofColumn f = .ok (.native v)) :
    ∃ w, f = .native w ∧ op.apply w type = .ok v := by
  cases f with
  | native w =>
    obtain ⟨u, hu, hv⟩ := ofValue_eq_ok_iff.1 h
    cases hv
    exact ⟨w, rfl, hu⟩
  | sql | enumColumn =>
    simp only [unaryOperator] at h
    split at h <;> cases h

theorem fold_of_containment {e collection : Expr} {column : Compiled} {v : Value}
    (h : c.containment e collection column = .ok (.native v)) : c.fold e = .ok v := by
  rw [containment_eq] at h
  obtain ⟨f, -, h⟩ := Except.bind_eq_ok_iff.1 h
  split at h
  · obtain ⟨w, -, h⟩ := Except.bind_eq_ok_iff.1 h
    cases h
  · exact fold_of_foldNative h

theorem fold_of_construction {e : Expr} {parts : Unit → List (HostType × Compiled)} {v : Value}
    (h : c.construction e parts = .ok (.native v)) : c.fold e = .ok v := by
  rw [construction_eq] at h
  split at h
  · rename_i w hw
    cases h
    exact hw
  · obtain ⟨texts, -, h⟩ := Except.bind_eq_ok_iff.1 h
    cases h
  · cases h

end Context

end QueryClause
