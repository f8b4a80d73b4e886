import QueryClause.Expr.Json
import QueryClause.Proofs.Expr.Subterm
import QueryClause.Proofs.Host.Json

/-!
# Expressions survive JSON

What is written for an expression is read back as that expression (`Expr.roundTrips`), if the values
in it survive (`Value.Legible`).
-/

namespace QueryClause

open Json

theorem Param.roundTrips (p : Param) : RoundTrips toJson ofJson? p where
  back := by
    have hback := p.type.roundTrips.back
    simp [ofJson?, toJson, fields?, valuesOf, required?, string?, hback]
  exact := isExact_object (by simp [p.type.roundTrips.exact])

theorem BinaryOp.ofName?_name (op : BinaryOp) : ofName? op.name = some op := by
  cases op <;> rfl

theorem UnaryOp.ofName?_name (op : UnaryOp) : ofName? op.name = some op := by
  cases op <;> rfl

namespace Expr

mutual

/-- The values in an expression that hold no others. -/
def leaves : Expr → List Value
  | lambda _ body => leaves body
  | member target _ _ _ => leaves target
  | staticMember .. | parameter .. => []
  | constant v _ => v.leaves
  | binary _ left right => leaves left ++ leaves right
  | unary _ operand _ _ => leaves operand
  | call target _ args _ _ => leaves target ++ itemLeaves args
  | staticCall _ _ args _ => itemLeaves args
  | new _ args _ => itemLeaves args
  | newArray _ items => itemLeaves items
  | memberInit _ bindings => bindingLeaves bindings

/-- The values in some expressions that hold no others. -/
def itemLeaves : List Expr → List Value
  | [] => []
  | e :: rest => leaves e ++ itemLeaves rest

/-- The values in some bindings that hold no others. -/
def bindingLeaves : List (String × Expr) → List Value
  | [] => []
  | (_, e) :: rest => leaves e ++ bindingLeaves rest

end

theorem legible_of_item {e : Expr} {es : List Expr} (h : Value.Legible (itemLeaves es))
    (he : e ∈ es) : Value.Legible e.leaves := by
  induction es with
  | nil => cases he
  | cons x es ih =>
    rcases List.mem_cons.1 he with rfl | he
    · exact h.left
    · exact ih h.right he

theorem legible_of_binding {b : String × Expr} {bs : List (String × Expr)}
    (h : Value.Legible (bindingLeaves bs)) (hb : b ∈ bs) : Value.Legible b.2.leaves := by
  induction bs with
  | nil => cases hb
  | cons x bs ih =>
    rcases List.mem_cons.1 hb with rfl | hb
    · exact h.left
    · exact ih h.right hb

/-! ### Fields -/

section Fields

variable {positional : Bool} {name : String} {rest : List (String × Json)}

theorem slotsOf_nil : slotsOf positional [] = [] := rfl

theorem slotsOf_plain (hkind : fieldKind name = .plain) (j : Json) :
    slotsOf positional ((name, j) :: rest) = (name, .plain j) :: slotsOf positional rest := by
  cases j <;> rw [slotsOf, hkind] <;> exact nofun

theorem slotsOf_child (hkind : fieldKind name = .child) (e : Expr) :
    slotsOf positional ((name, e.toJson) :: rest) =
      (name, .child e.toJson (ofJson? positional e.toJson)) :: slotsOf positional rest := by
  cases e <;> rw [toJson, encode, node, slotsOf, hkind] <;> exact nofun

theorem slotsOf_noTarget (hkind : fieldKind name = .child) :
    slotsOf positional ((name, .null) :: rest) =
      (name, .child .null none) :: slotsOf positional rest := by
  rw [slotsOf, hkind]
  · rfl
  · exact nofun

theorem slotsOf_children (hkind : fieldKind name = .children) (items : List Json) :
    slotsOf positional ((name, .array items) :: rest) =
      (name, .children (itemsOf? positional items)) :: slotsOf positional rest := by
  rw [slotsOf, hkind]

theorem slotsOf_bindings (hkind : fieldKind name = .bindings) (items : List Json) :
    slotsOf positional ((name, .array items) :: rest) =
      (name, .bindings (bindingsOf? positional items)) :: slotsOf positional rest := by
  rw [slotsOf, hkind]

end Fields

/-! ### Nodes -/

variable {positional : Bool}

/-- A node survives if it is put together again from its fields. -/
theorem roundTrips_node {e : Expr} (kind : String) (fields : List (String × Json))
    (hnode : e.toJson = node kind fields)
    (hback : assemble? positional kind (slotsOf positional fields) = some e)
    (hexact : ∀ m ∈ fields, m.2.isExact = true) : RoundTrips toJson (ofJson? positional) e where
  back := by rw [hnode, node, ofJson?, hback]
  exact := by
    rw [hnode]
    refine isExact_object fun m hm => ?_
    rw [List.mem_singleton.1 hm]
    exact isExact_object hexact

theorem toJson_ne_null (e : Expr) : e.toJson ≠ .null := by
  cases e <;> exact nofun

/-- A text that may be missing is read back, and so is a missing one. -/
theorem optional?_optionJson (o : Option String) :
    optional? string? (some (optionJson o)) = some o := by
  cases o <;> rfl

theorem isExact_optionJson (o : Option String) : (optionJson o).isExact = true := by
  cases o <;> rfl

theorem itemsOf?_encodeItems {es : List Expr}
    (h : ∀ e ∈ es, RoundTrips toJson (ofJson? positional) e) :
    itemsOf? positional (encodeItems .float es) = some es ∧
      (Json.array (encodeItems .float es)).isExact = true := by
  induction es with
  | nil => exact ⟨rfl, rfl⟩
  | cons e es ih =>
    obtain ⟨hback, hexact⟩ := ih fun x hx => h x (List.mem_cons_of_mem _ hx)
    have he := h e List.mem_cons_self
    have hread : ofJson? positional (encode .float e) = some e := he.back
    have hwritten : (encode .float e).isExact = true := he.exact
    rw [isExact] at hexact
    exact ⟨by rw [encodeItems, itemsOf?, hread, hback]; rfl,
      by rw [encodeItems, isExact, areExact, hwritten, hexact]; rfl⟩

theorem bindingsOf?_encodeBindings {bs : List (String × Expr)}
    (h : ∀ b ∈ bs, RoundTrips toJson (ofJson? positional) b.2) :
    bindingsOf? positional (encodeBindings .float bs) = some bs ∧
      (Json.array (encodeBindings .float bs)).isExact = true := by
  induction bs with
  | nil => exact ⟨rfl, rfl⟩
  | cons b bs ih =>
    obtain ⟨name, e⟩ := b
    obtain ⟨hback, hexact⟩ := ih fun x hx => h x (List.mem_cons_of_mem _ hx)
    have he := h (name, e) List.mem_cons_self
    have hread : ofJson? positional (encode .float e) = some e := he.back
    have hwritten : (encode .float e).isExact = true := he.exact
    rw [isExact] at hexact
    exact ⟨by rw [encodeBindings, bindingsOf?, hread, hback]; rfl,
      by rw [encodeBindings, isExact, areExact, hexact]; simp [isExact, areExact, hwritten]⟩

section Kinds

variable {target body left right operand : Expr} {args : List Expr}

theorem roundTrips_lambda (params : List Param)
    (hbody : RoundTrips toJson (ofJson? positional) body) :
    RoundTrips toJson (ofJson? positional) (lambda params body) := by
  have hparams := RoundTrips.list fun p (_ : p ∈ params) => p.roundTrips
  have hread := hparams.back
  refine roundTrips_node "Lambda" [("parameters", .array (params.map Param.toJson)),
    ("body", body.toJson)] rfl ?_ (by simp [hparams.exact, hbody.exact])
  rw [slotsOf_plain rfl, slotsOf_child rfl, slotsOf_nil, hbody.back]
  -- the kind chooses the branch, and its fields are all there, each once
  unfold assemble?
  simp [Slots.plain?, Slots.child?, Slots.only?, hread]

theorem roundTrips_member (name : String) (declaring : Option String) (type : HostType)
    (htarget : RoundTrips toJson (ofJson? positional) target) :
    RoundTrips toJson (ofJson? positional) (member target name declaring type) := by
  have htype := type.roundTrips
  have hread := htype.back
  refine roundTrips_node "MemberAccess" [("target", target.toJson), ("member", .string name),
    ("declaring_type", optionJson declaring), ("member_type", type.toJson)] rfl ?_
    (by simp [htarget.exact, htype.exact, isExact_optionJson])
  rw [slotsOf_child rfl, slotsOf_plain rfl, slotsOf_plain rfl, slotsOf_plain rfl, slotsOf_nil,
    htarget.back]
  -- a target that is there is told from one that is missing by not being null
  unfold assemble?
  simp [Slots.optionChild?, Slots.plain?, Slots.option?, Slots.only?, optional?_optionJson,
    string?, hread, toJson_ne_null]

theorem roundTrips_staticMember (owner : Option String) (name : String) (type : HostType) :
    RoundTrips toJson (ofJson? positional) (staticMember owner name type) := by
  have htype := type.roundTrips
  have hread := htype.back
  refine roundTrips_node "MemberAccess" [("target", .null), ("member", .string name),
    ("declaring_type", optionJson owner), ("member_type", type.toJson)] rfl ?_
    (by simp [htype.exact, isExact_optionJson])
  rw [slotsOf_noTarget rfl, slotsOf_plain rfl, slotsOf_plain rfl, slotsOf_plain rfl, slotsOf_nil]
  unfold assemble?
  simp [Slots.optionChild?, Slots.plain?, Slots.option?, Slots.only?, optional?_optionJson,
    string?, hread]

theorem roundTrips_constant {v : Value} (type : HostType)
    (hv : RoundTrips Value.toJson (Value.ofJson? positional) v) :
    RoundTrips toJson (ofJson? positional) (constant v type) := by
  have htype := type.roundTrips
  refine roundTrips_node "Constant" [("value", v.toJson), ("ty", type.toJson)] rfl ?_
    (by simp [hv.exact, htype.exact])
  rw [slotsOf_plain rfl, slotsOf_plain rfl, slotsOf_nil]
  unfold assemble?
  simp [Slots.plain?, Slots.only?, hv.back, htype.back]

theorem roundTrips_binary (op : BinaryOp) (hleft : RoundTrips toJson (ofJson? positional) left)
    (hright : RoundTrips toJson (ofJson? positional) right) :
    RoundTrips toJson (ofJson? positional) (binary op left right) := by
  refine roundTrips_node "Binary" [("op", .string op.name), ("left", left.toJson),
    ("right", right.toJson)] rfl ?_ (by simp [hleft.exact, hright.exact])
  rw [slotsOf_plain rfl, slotsOf_child rfl, slotsOf_child rfl, slotsOf_nil, hleft.back,
    hright.back]
  unfold assemble?
  simp [Slots.plain?, Slots.child?, Slots.only?, operator?, caseName?,
    BinaryOp.ofName?_name]

theorem roundTrips_unary (op : UnaryOp) (type : HostType) (via : Option String)
    (hoperand : RoundTrips toJson (ofJson? positional) operand) :
    RoundTrips toJson (ofJson? positional) (unary op operand type via) := by
  have htype := type.roundTrips
  have hread := htype.back
  refine roundTrips_node "Unary" [("op", .string op.name), ("operand", operand.toJson),
    ("ty", type.toJson), ("method", optionJson via)] rfl ?_
    (by simp [hoperand.exact, htype.exact, isExact_optionJson])
  rw [slotsOf_plain rfl, slotsOf_child rfl, slotsOf_plain rfl, slotsOf_plain rfl, slotsOf_nil,
    hoperand.back]
  unfold assemble?
  simp [Slots.plain?, Slots.child?, Slots.option?, Slots.only?, operator?, caseName?,
    optional?_optionJson, hread, UnaryOp.ofName?_name]

theorem roundTrips_parameter (name : String) (type : HostType) :
    RoundTrips toJson (ofJson? positional) (parameter name type) := by
  have htype := type.roundTrips
  refine roundTrips_node "Parameter" [("name", .string name), ("ty", type.toJson)] rfl ?_
    (by simp [htype.exact])
  rw [slotsOf_plain rfl, slotsOf_plain rfl, slotsOf_nil]
  unfold assemble?
  simp [Slots.plain?, Slots.only?, string?, htype.back]

theorem roundTrips_call (method : String) (owner type : HostType)
    (htarget : RoundTrips toJson (ofJson? positional) target)
    (hargs : ∀ a ∈ args, RoundTrips toJson (ofJson? positional) a) :
    RoundTrips toJson (ofJson? positional) (call target method args owner type) := by
  obtain ⟨hback, hexact⟩ := itemsOf?_encodeItems hargs
  have howner := owner.roundTrips
  have htype := type.roundTrips
  refine roundTrips_node "MethodCall" [("target", target.toJson), ("method", .string method),
    ("arguments", .array (encodeItems .float args)), ("owner_type", owner.toJson),
    ("ty", type.toJson)] rfl ?_ (by simp [htarget.exact, hexact, howner.exact, htype.exact])
  rw [slotsOf_child rfl, slotsOf_plain rfl, slotsOf_children rfl, slotsOf_plain rfl,
    slotsOf_plain rfl, slotsOf_nil, htarget.back, hback]
  unfold assemble?
  simp [Slots.optionChild?, Slots.plain?, Slots.children?, Slots.only?, string?,
    howner.back, htype.back, toJson_ne_null]

theorem roundTrips_staticCall (owner : HostType) (method : String) (type : HostType)
    (hargs : ∀ a ∈ args, RoundTrips toJson (ofJson? positional) a) :
    RoundTrips toJson (ofJson? positional) (staticCall owner method args type) := by
  obtain ⟨hback, hexact⟩ := itemsOf?_encodeItems hargs
  have howner := owner.roundTrips
  have htype := type.roundTrips
  refine roundTrips_node "MethodCall" [("target", .null), ("method", .string method),
    ("arguments", .array (encodeItems .float args)), ("owner_type", owner.toJson),
    ("ty", type.toJson)] rfl ?_ (by simp [hexact, howner.exact, htype.exact])
  rw [slotsOf_noTarget rfl, slotsOf_plain rfl, slotsOf_children rfl, slotsOf_plain rfl,
    slotsOf_plain rfl, slotsOf_nil, hback]
  unfold assemble?
  simp [Slots.optionChild?, Slots.plain?, Slots.children?, Slots.only?, string?,
    howner.back, htype.back]

theorem roundTrips_new (type : HostType) (members : List String)
    (hargs : ∀ a ∈ args, RoundTrips toJson (ofJson? positional) a) :
    RoundTrips toJson (ofJson? positional) (new type args members) := by
  obtain ⟨hback, hexact⟩ := itemsOf?_encodeItems hargs
  have htype := type.roundTrips
  have hmembers : RoundTrips (fun l => .array (l.map .string)) (list? string?) members :=
    .list fun _ _ => ⟨rfl, rfl⟩
  refine roundTrips_node "New" [("ty", type.toJson),
    ("arguments", .array (encodeItems .float args)),
    ("members", .array (members.map .string))] rfl ?_
    (by simp [hexact, htype.exact, hmembers.exact])
  rw [slotsOf_plain rfl, slotsOf_children rfl, slotsOf_plain rfl, slotsOf_nil, hback]
  unfold assemble?
  simp [Slots.plain?, Slots.children?, Slots.only?, htype.back, hmembers.back]

theorem roundTrips_newArray (itemType : HostType)
    (hitems : ∀ a ∈ args, RoundTrips toJson (ofJson? positional) a) :
    RoundTrips toJson (ofJson? positional) (newArray itemType args) := by
  obtain ⟨hback, hexact⟩ := itemsOf?_encodeItems hitems
  have htype := itemType.roundTrips
  refine roundTrips_node "NewArray" [("element_type", itemType.toJson),
    ("elements", .array (encodeItems .float args))] rfl ?_ (by simp [hexact, htype.exact])
  rw [slotsOf_plain rfl, slotsOf_children rfl, slotsOf_nil, hback]
  unfold assemble?
  simp [Slots.plain?, Slots.children?, Slots.only?, htype.back]

theorem roundTrips_memberInit (type : HostType) {bindings : List (String × Expr)}
    (hbindings : ∀ b ∈ bindings, RoundTrips toJson (ofJson? positional) b.2) :
    RoundTrips toJson (ofJson? positional) (memberInit type bindings) := by
  obtain ⟨hback, hexact⟩ := bindingsOf?_encodeBindings hbindings
  have htype := type.roundTrips
  refine roundTrips_node "MemberInit" [("ty", type.toJson),
    ("bindings", .array (encodeBindings .float bindings))] rfl ?_ (by simp [hexact, htype.exact])
  rw [slotsOf_plain rfl, slotsOf_bindings rfl, slotsOf_nil, hback]
  unfold assemble?
  simp [Slots.plain?, Slots.bindings?, Slots.only?, htype.back]

end Kinds

/-- An expression survives if the values in it do. -/
theorem roundTrips {e : Expr} (h : Value.Legible e.leaves) :
    RoundTrips toJson (ofJson? positional) e := by
  induction e with
  | lambda params body ih => exact roundTrips_lambda params (ih h)
  | member target name declaring type ih => exact roundTrips_member name declaring type (ih h)
  | staticMember owner name type => exact roundTrips_staticMember owner name type
  | constant v type => exact roundTrips_constant type (v.roundTrips h)
  | binary op left right ihl ihr => exact roundTrips_binary op (ihl h.left) (ihr h.right)
  | unary op operand type via ih => exact roundTrips_unary op type via (ih h)
  | parameter name type => exact roundTrips_parameter name type
  | call target method args owner type ih ihargs =>
    exact roundTrips_call method owner type (ih h.left) fun a ha =>
      ihargs a ha (legible_of_item h.right ha)
  | staticCall owner method args type ih =>
    exact roundTrips_staticCall owner method type fun a ha => ih a ha (legible_of_item h ha)
  | new type args members ih =>
    exact roundTrips_new type members fun a ha => ih a ha (legible_of_item h ha)
  | newArray itemType items ih =>
    exact roundTrips_newArray itemType fun a ha => ih a ha (legible_of_item h ha)
  | memberInit type bindings ih =>
    exact roundTrips_memberInit type fun b hb => ih b hb (legible_of_binding h hb)

end Expr

end QueryClause
