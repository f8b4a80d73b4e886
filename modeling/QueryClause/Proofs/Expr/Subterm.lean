import QueryClause.Expr.Basic
import Mathlib.Data.List.Basic

/-!
# The nodes of an expression

An expression holds others in lists of arguments and bindings.  `Expr.children` lists what stands
directly below a node; `Expr.induction` is the induction that gives a hypothesis for each of them,
and the one that `induction` uses for expressions from here on.

`Expr.Occurs n e` says that the node `n` is found somewhere in `e`, `Expr.Lacks p e` that no node
satisfies `p`, and `Expr.height` counts the steps from the root to the deepest node, for which a
depth limit has to leave room.
-/

namespace QueryClause

namespace Expr

/-- The expressions directly below a node, from left to right. -/
def children : Expr → List Expr
  | lambda _ body => [body]
  | member target _ _ _ => [target]
  | staticMember .. | constant .. | parameter .. => []
  | binary _ left right => [left, right]
  | unary _ operand _ _ => [operand]
  | call target _ args _ _ => target :: args
  | staticCall _ _ args _ => args
  | new _ args _ => args
  | newArray _ items => items
  | memberInit _ bindings => bindings.map Prod.snd

theorem sizeOf_lt_of_child {x e : Expr} (h : x ∈ e.children) : sizeOf x < sizeOf e := by
  cases e <;> simp only [children, List.mem_cons, List.not_mem_nil, or_false, List.mem_map] at h
  case lambda => subst h; rw [lambda.sizeOf_spec]; omega
  case member => subst h; rw [member.sizeOf_spec]; omega
  case binary => rcases h with rfl | rfl <;> rw [binary.sizeOf_spec] <;> omega
  case unary => subst h; rw [unary.sizeOf_spec]; omega
  case call =>
    rw [call.sizeOf_spec]
    rcases h with rfl | h
    · omega
    · have := List.sizeOf_lt_of_mem h
      omega
  case staticCall =>
    have := List.sizeOf_lt_of_mem h
    rw [staticCall.sizeOf_spec]
    omega
  case new =>
    have := List.sizeOf_lt_of_mem h
    rw [new.sizeOf_spec]
    omega
  case newArray =>
    have := List.sizeOf_lt_of_mem h
    rw [newArray.sizeOf_spec]
    omega
  case memberInit =>
    obtain ⟨⟨name, e⟩, hb, rfl⟩ := h
    have := List.sizeOf_lt_of_mem hb
    rw [Prod.mk.sizeOf_spec] at this
    change sizeOf e < _
    rw [memberInit.sizeOf_spec]
    omega

/-- Induction along `children`. -/
theorem induction_children {motive : Expr → Prop}
    (step : ∀ e, (∀ x ∈ e.children, motive x) → motive e) (e : Expr) : motive e :=
  step e fun x _ => induction_children step x
termination_by sizeOf e
decreasing_by exact sizeOf_lt_of_child ‹_›

/-- Induction over the nodes of an expression. -/
@[elab_as_elim, induction_eliminator]
theorem induction {motive : Expr → Prop}
    (lambda : ∀ params body, motive body → motive (lambda params body))
    (member : ∀ target name declaring type, motive target →
      motive (member target name declaring type))
    (staticMember : ∀ owner name type, motive (staticMember owner name type))
    (constant : ∀ v type, motive (constant v type))
    (binary : ∀ op left right, motive left → motive right → motive (binary op left right))
    (unary : ∀ op operand type via, motive operand → motive (unary op operand type via))
    (parameter : ∀ name type, motive (parameter name type))
    (call : ∀ target method args owner type, motive target → (∀ a ∈ args, motive a) →
      motive (call target method args owner type))
    (staticCall : ∀ owner method args type, (∀ a ∈ args, motive a) →
      motive (staticCall owner method args type))
    (new : ∀ type args members, (∀ a ∈ args, motive a) → motive (new type args members))
    (newArray : ∀ itemType items, (∀ a ∈ items, motive a) → motive (newArray itemType items))
    (memberInit : ∀ type bindings, (∀ b ∈ bindings, motive b.2) →
      motive (memberInit type bindings))
    (e : Expr) : motive e := by
  refine induction_children (fun e ih => ?_) e
  cases e with
  | lambda params body => exact lambda _ _ (ih body (by simp [children]))
  | member target name declaring type => exact member _ _ _ _ (ih target (by simp [children]))
  | staticMember owner name type => exact staticMember _ _ _
  | constant v type => exact constant _ _
  | binary op left right =>
    exact binary _ _ _ (ih left (by simp [children])) (ih right (by simp [children]))
  | unary op operand type via => exact unary _ _ _ _ (ih operand (by simp [children]))
  | parameter name type => exact parameter _ _
  | call target method args owner type =>
    exact call _ _ _ _ _ (ih target (by simp [children]))
      fun a ha => ih a (by simp [children, ha])
  | staticCall owner method args type => exact staticCall _ _ _ _ fun a ha => ih a ha
  | new type args members => exact new _ _ _ fun a ha => ih a ha
  | newArray itemType items => exact newArray _ _ fun a ha => ih a ha
  | memberInit type bindings =>
    exact memberInit _ _ fun b hb => ih b.2 (List.mem_map_of_mem hb)

/-! ### Occurrence -/

/-- The node `n` is found in an expression. -/
inductive Occurs (n : Expr) : Expr → Prop where
  | root : Occurs n n
  | child {x e : Expr} (hx : x ∈ e.children) (h : Occurs n x) : Occurs n e

/-- No node of an expression is of some kind. -/
def Lacks (p : Expr → Bool) (e : Expr) : Prop := ∀ n, Occurs n e → p n = false

theorem Lacks.root {p : Expr → Bool} {e : Expr} (h : Lacks p e) : p e = false := h e .root

theorem Lacks.child {p : Expr → Bool} {x e : Expr} (h : Lacks p e) (hx : x ∈ e.children) :
    Lacks p x :=
  fun n hn => h n (.child hx hn)

theorem Lacks.of_occurs {p : Expr → Bool} {x e : Expr} (h : Lacks p e) (hx : Occurs x e) :
    Lacks p x := by
  induction hx with
  | root => exact h
  | child hx _ ih => exact ih (h.child hx)

/-- What lacks a kind lacks every kind that is part of it. -/
theorem Lacks.mono {p q : Expr → Bool} {e : Expr} (h : Lacks p e)
    (hqp : ∀ n, q n = true → p n = true) : Lacks q e :=
  fun n hn => Bool.eq_false_iff.2 fun hq => by simpa [hqp n hq] using h n hn

/-- A kind is missing if the root is not of it and it is missing below. -/
theorem lacks_iff {p : Expr → Bool} {e : Expr} :
    Lacks p e ↔ p e = false ∧ ∀ x ∈ e.children, Lacks p x := by
  refine ⟨fun h => ⟨h.root, fun x hx => h.child hx⟩, fun ⟨hr, hc⟩ n hn => ?_⟩
  cases hn with
  | root => exact hr
  | child hx hn => exact hc _ hx n hn

mutual

/-- Whether some node of an expression is of a kind. -/
def any (p : Expr → Bool) (e : Expr) : Bool :=
  p e || match e with
    | lambda _ body => any p body
    | member target _ _ _ => any p target
    | staticMember .. | constant .. | parameter .. => false
    | binary _ left right => any p left || any p right
    | unary _ operand _ _ => any p operand
    | call target _ args _ _ => any p target || anyOf p args
    | staticCall _ _ args _ => anyOf p args
    | new _ args _ => anyOf p args
    | newArray _ items => anyOf p items
    | memberInit _ bindings => anyBound p bindings

/-- Whether some node of some expressions is of a kind. -/
def anyOf (p : Expr → Bool) : List Expr → Bool
  | [] => false
  | e :: rest => any p e || anyOf p rest

/-- Whether some node of some bindings is of a kind. -/
def anyBound (p : Expr → Bool) : List (String × Expr) → Bool
  | [] => false
  | (_, e) :: rest => any p e || anyBound p rest

end

theorem anyOf_eq_any {p : Expr → Bool} (es : List Expr) : anyOf p es = es.any (any p) := by
  induction es with
  | nil => rfl
  | cons e rest ih => rw [anyOf, List.any_cons, ih]

theorem anyBound_eq_any {p : Expr → Bool} (bs : List (String × Expr)) :
    anyBound p bs = (bs.map Prod.snd).any (any p) := by
  induction bs with
  | nil => rfl
  | cons b rest ih =>
    obtain ⟨name, e⟩ := b
    rw [anyBound, List.map_cons, List.any_cons, ih]

theorem any_eq {p : Expr → Bool} (e : Expr) : any p e = (p e || e.children.any (any p)) := by
  cases e <;> simp [any, children, anyOf_eq_any, anyBound_eq_any]

/-- A search of the nodes decides whether a kind is missing. -/
theorem lacks_iff_any {p : Expr → Bool} {e : Expr} : Lacks p e ↔ any p e = false := by
  induction e using induction_children with
  | step e ih =>
    rw [lacks_iff, any_eq, Bool.or_eq_false_iff, List.any_eq_false]
    refine and_congr_right fun _ => forall₂_congr fun x hx => ?_
    rw [ih x hx, Bool.not_eq_true]

instance {p : Expr → Bool} {e : Expr} : Decidable (Lacks p e) :=
  decidable_of_iff _ lacks_iff_any.symm

/-! ### Height -/

mutual

/-- The steps from the root to the deepest node. -/
def height : Expr → Nat
  | lambda _ body => height body + 1
  | member target _ _ _ => height target + 1
  | staticMember .. | constant .. | parameter .. => 0
  | binary _ left right => max (height left) (height right) + 1
  | unary _ operand _ _ => height operand + 1
  | call target _ args _ _ => max (height target + 1) (listHeight args)
  | staticCall _ _ args _ => listHeight args
  | new _ args _ => listHeight args
  | newArray _ items => listHeight items
  | memberInit _ bindings => bindingsHeight bindings

/-- The steps from a node to the deepest one, for a node with these children. -/
def listHeight : List Expr → Nat
  | [] => 0
  | e :: rest => max (height e + 1) (listHeight rest)

/-- The steps from a node to the deepest one, for a node with these bindings. -/
def bindingsHeight : List (String × Expr) → Nat
  | [] => 0
  | (_, e) :: rest => max (height e + 1) (bindingsHeight rest)

end

theorem height_lt_listHeight {x : Expr} {l : List Expr} (h : x ∈ l) : x.height < listHeight l := by
  induction l with
  | nil => cases h
  | cons e rest ih =>
    rw [listHeight]
    rcases List.mem_cons.1 h with rfl | h
    · omega
    · have := ih h; omega

theorem height_lt_bindingsHeight {b : String × Expr} {l : List (String × Expr)} (h : b ∈ l) :
    b.2.height < bindingsHeight l := by
  induction l with
  | nil => cases h
  | cons e rest ih =>
    rw [bindingsHeight]
    rcases List.mem_cons.1 h with rfl | h
    · omega
    · have := ih h; omega

/-- A child is less high than its parent. -/
theorem height_lt_of_child {x e : Expr} (h : x ∈ e.children) : x.height < e.height := by
  cases e <;> simp only [children, List.mem_cons, List.not_mem_nil, or_false, List.mem_map] at h
  case lambda | member | unary => subst h; simp only [height]; omega
  case binary => rcases h with rfl | rfl <;> simp only [height] <;> omega
  case call =>
    rw [height]
    rcases h with rfl | h
    · omega
    · have := height_lt_listHeight h; omega
  case staticCall | new | newArray => rw [height]; exact height_lt_listHeight h
  case memberInit =>
    obtain ⟨b, hb, rfl⟩ := h
    rw [height]; exact height_lt_bindingsHeight hb

/-- A limit that leaves room for an expression leaves room for its children one step deeper. -/
theorem room_of_child {x e : Expr} {depth n : Nat} (hx : x ∈ e.children)
    (h : depth + e.height ≤ n) : depth + 1 + x.height ≤ n := by
  have := height_lt_of_child hx
  omega

theorem height_le_of_child {x e : Expr} {n : Nat} (hx : x ∈ e.children) (h : e.height ≤ n) :
    x.height ≤ n :=
  Nat.le_trans (Nat.le_of_lt (height_lt_of_child hx)) h

end Expr

end QueryClause
