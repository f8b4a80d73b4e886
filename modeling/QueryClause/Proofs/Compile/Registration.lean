import QueryClause.Proofs.Compile.Surroundings
import QueryClause.Proofs.Schema.Registry

/-!
# Implied fields

A member that the schema does not know is a column of its own name, in the table of its entity and
of the type that the access states.  To register this field explicitly changes nothing: every
expression that reads the member at that type compiles to the same as before, whether or not the
entity was known and whatever its table is (`Context.compile_registered`).
-/

namespace QueryClause

/-- Whether a node is a column for a member of an entity, read at another type. -/
def Expr.readsAtOtherType (entity member : String) (type : HostType) : Expr → Bool
  | .member target name declaring t =>
    target.isRow && target.entityOf? declaring == some entity && name == member && t != type
  | _ => false

namespace Context

variable {c : Context} {r : Registry} {entity member : String} {type : HostType}

/-- The default for a member that is not registered is what its registration says. -/
theorem lookUp_registered {owner name : String} {t : HostType}
    (hnew : r.schema.field? entity member = none)
    (htype : owner = entity → name = member → t = type) :
    lookUp { c with schema := (r.field entity member type).schema } owner name t =
      lookUp { c with schema := r.schema } owner name t := by
  have hfield : (r.field entity member type).schema.field? owner name =
      if owner = entity ∧ member = name then
        some ⟨member, member, (r.schema.tableOf? entity).getD entity, type⟩
      else r.schema.field? owner name := r.field?_column entity member member type owner name
  have htable : (r.field entity member type).schema.tableOf? owner =
      if owner = entity then some ((r.schema.tableOf? entity).getD entity)
      else r.schema.tableOf? owner := r.tableOf?_column entity member member type owner
  simp only [lookUp, hfield, htable]
  by_cases howner : owner = entity
  · subst howner
    by_cases hname : member = name
    · subst hname
      rw [if_pos ⟨rfl, rfl⟩, hnew, htype rfl rfl]
      rfl
    · rw [if_neg fun h => hname h.2, if_pos rfl]
      rfl
  · rw [if_neg fun h => howner h.1, if_neg howner]

/-- A column is the same before and after the registration. -/
theorem column_registered {x : Expr} (hnew : r.schema.field? entity member = none)
    (htype : x.readsAtOtherType entity member type = false) (hx : x.isColumn = true) :
    column { c with schema := (r.field entity member type).schema } x =
      column { c with schema := r.schema } x := by
  cases x with
  | member target name declaring t =>
    have hrow : target.isRow = true := hx
    rw [column, column]
    split
    · rename_i owner howner
      have hstated : owner = entity → name = member → t = type := by
        rintro rfl rfl
        simpa [Expr.readsAtOtherType, hrow, howner] using htype
      simp only [lookUp_registered hnew hstated]
      rfl
    · rfl
  | _ => cases hx

/-- **Registering the implied field changes nothing**: a member that an entity does not have yet can
be stored in a column of its name, of the type that all columns of the expression for this member
state, and the expression compiles to the same.

The two compilations take their new identifiers from the same supply, or they ask for none. -/
theorem compile_registered {e : Expr} {s s' : Supply} (hs : s = s' ∨ e.Lacks Expr.isNewGuid)
    (hnew : r.schema.field? entity member = none)
    (htype : e.Lacks (Expr.readsAtOtherType entity member type)) :
    (compileFrom { c with schema := (r.field entity member type).schema } s e).1 =
      (compileFrom { c with schema := r.schema } s' e).1 :=
  compileFrom_surroundings (c := { c with schema := r.schema }) hs
    (fun x hx hcolumn => column_registered hnew (htype x hx) hcolumn) fun _ => rfl

/-- The pieces of an order, which is stored in a table of another name beside a registered member,
and an identifier that is new in each part of a list of fields. -/
theorem compile_registered_pieces :
    let r := (Registry.empty.table "Orders" "orders_2024").column "Orders" "Name" "name" .string
    let c := { bare .postgres with aliases := Aliases.empty.insert "Orders" "" }
    let e := Expr.newArray .null
      [.binary .greaterThan pieces (.ofValue (.int 3)), .newGuid, .newGuid]
    r.schema.field? "Orders" "Pieces" = none ∧
      e.Lacks (Expr.readsAtOtherType "Orders" "Pieces" (.int .int64)) ∧
      (compileFrom { c with schema := (r.field "Orders" "Pieces" (.int .int64)).schema }
        .counting e).1 = (compileFrom { c with schema := r.schema } .counting e).1 := by
  intro r c e
  have hnew : r.schema.field? "Orders" "Pieces" = none := by decide
  have htype : e.Lacks (Expr.readsAtOtherType "Orders" "Pieces" (.int .int64)) := by decide
  exact ⟨hnew, htype, compile_registered (.inl rfl) hnew htype⟩

end Context

end QueryClause
