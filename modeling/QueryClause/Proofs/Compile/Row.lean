import QueryClause.Compile.Basic
import QueryClause.Proofs.Expr.Subterm
import QueryClause.Proofs.Sql.Condition

/-!
# Expressions on a row

A row gives a value to the text of each column.  `Context.onRow` replaces the columns of an
expression by their values, so that the evaluator can compute it; this makes no expression higher
(`Context.height_onRow_le`).
-/

namespace QueryClause.Context

variable {c : Context} {row : SqlRow}

/-- The text of the column that a node reads. -/
def reference? (c : Context) (e : Expr) : Option String :=
  if e.isColumn then (c.column e).toOption.map (Fragment.render c.target) else none

mutual

/-- An expression with the values of a row in place of its columns. -/
def onRow (c : Context) (row : SqlRow) : Expr → Expr
  | .lambda params body => .lambda params (onRow c row body)
  | .member target name declaring type =>
    match c.reference? (.member target name declaring type) with
    | some text => .ofValue (row text)
    | none => .member (onRow c row target) name declaring type
  | .staticMember owner name type => .staticMember owner name type
  | .constant v type => .constant v type
  | .binary op left right => .binary op (onRow c row left) (onRow c row right)
  | .unary op operand type via => .unary op (onRow c row operand) type via
  | .parameter name type => .parameter name type
  | .call target method args owner type =>
    .call (onRow c row target) method (onRowAll c row args) owner type
  | .staticCall owner method args type => .staticCall owner method (onRowAll c row args) type
  | .new type args members => .new type (onRowAll c row args) members
  | .newArray itemType items => .newArray itemType (onRowAll c row items)
  | .memberInit type bindings => .memberInit type (onRowBindings c row bindings)

/-- Some expressions on a row. -/
def onRowAll (c : Context) (row : SqlRow) : List Expr → List Expr
  | [] => []
  | e :: rest => onRow c row e :: onRowAll c row rest

/-- The bindings of an object on a row. -/
def onRowBindings (c : Context) (row : SqlRow) : List (String × Expr) → List (String × Expr)
  | [] => []
  | (name, e) :: rest => (name, onRow c row e) :: onRowBindings c row rest

end

/-- Every column of an expression has a value of its type. -/
def Fits (c : Context) (row : SqlRow) (e : Expr) : Prop :=
  ∀ x text, Expr.Occurs x e → c.reference? x = some text → (row text).hostType = x.staticType

theorem Fits.child {x e : Expr} (h : c.Fits row e) (hx : x ∈ e.children) : c.Fits row x :=
  fun y text hy => h y text (.child hx hy)

/-- Whether a node reads a column that has a value of another type. -/
def misfits (c : Context) (row : SqlRow) (e : Expr) : Bool :=
  (c.reference? e).any fun text => (row text).hostType != e.staticType

/-- A search of the columns decides whether a row fits. -/
theorem fits_iff {e : Expr} : c.Fits row e ↔ e.Lacks (c.misfits row) := by
  refine forall_congr' fun x => ?_
  rw [misfits]
  cases c.reference? x with
  | none => simp
  | some text => simp

instance {e : Expr} : Decidable (c.Fits row e) := decidable_of_iff _ fits_iff.symm

theorem reference_of_column {e : Expr} {f : Fragment} (he : e.isColumn = true)
    (h : c.column e = .ok f) : c.reference? e = some (f.render c.target) := by
  rw [reference?, if_pos he, h]
  rfl

theorem onRow_column {e : Expr} {text : String} (h : c.reference? e = some text) :
    c.onRow row e = .ofValue (row text) := by
  cases e with
  | member target name declaring type => rw [onRow, h]
  | _ => cases h

/-! ### Height -/

theorem listHeight_onRowAll_le {es : List Expr}
    (h : ∀ x ∈ es, (c.onRow row x).height ≤ x.height) :
    Expr.listHeight (c.onRowAll row es) ≤ Expr.listHeight es := by
  induction es with
  | nil => exact Nat.le_refl _
  | cons e rest ih =>
    have he := h e List.mem_cons_self
    have hrest := ih fun x hx => h x (List.mem_cons_of_mem _ hx)
    rw [onRowAll, Expr.listHeight, Expr.listHeight]
    omega

theorem bindingsHeight_onRowBindings_le {bs : List (String × Expr)}
    (h : ∀ b ∈ bs, (c.onRow row b.2).height ≤ b.2.height) :
    Expr.bindingsHeight (c.onRowBindings row bs) ≤ Expr.bindingsHeight bs := by
  induction bs with
  | nil => exact Nat.le_refl _
  | cons b rest ih =>
    obtain ⟨name, e⟩ := b
    have he := h (name, e) List.mem_cons_self
    have hrest := ih fun x hx => h x (List.mem_cons_of_mem _ hx)
    rw [onRowBindings, Expr.bindingsHeight, Expr.bindingsHeight]
    dsimp only at he
    omega

/-- A row makes no expression higher. -/
theorem height_onRow_le (e : Expr) : (c.onRow row e).height ≤ e.height := by
  induction e with
  | member target name declaring type ih =>
    rw [onRow]
    split
    · exact Nat.zero_le _
    · simp only [Expr.height]
      omega
  | lambda _ _ ih | unary _ _ _ _ ih =>
    simp only [onRow, Expr.height]
    omega
  | binary op left right ihl ihr =>
    simp only [onRow, Expr.height]
    omega
  | call target method args owner type ih ihargs =>
    have hargs := listHeight_onRowAll_le ihargs
    simp only [onRow, Expr.height]
    omega
  | staticCall _ _ _ _ ih | new _ _ _ ih | newArray _ _ ih =>
    simp only [onRow, Expr.height]
    exact listHeight_onRowAll_le ih
  | memberInit type bindings ih =>
    simp only [onRow, Expr.height]
    exact bindingsHeight_onRowBindings_le ih
  | staticMember | constant | parameter => exact Nat.le_refl _

end QueryClause.Context
