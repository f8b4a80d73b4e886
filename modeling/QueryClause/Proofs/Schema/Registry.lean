import QueryClause.Schema
import Mathlib.Data.List.Basic

/-!
# Registered fields

What a registry knows after one more field has been stored: the table of the entity, which is the
one that it had (`Registry.tableOf?_column`), and the field itself in the place of every older one
for the same member (`Registry.field?_column`).  All other entities and members are as before.
-/

namespace QueryClause

/-- A member is found where it was put last. -/
theorem EntityDef.find?_putField (f : FieldDef) (fields : List FieldDef) (member : String) :
    (putField f fields).find? (fun g => g.member == member) =
      if f.member = member then some f else fields.find? fun g => g.member == member := by
  induction fields with
  | nil => by_cases h : f.member = member <;> simp [putField, h]
  | cons g rest ih =>
    by_cases hg : g.member = f.member
    · by_cases h : f.member = member <;> simp [putField, hg, h]
    · by_cases h : f.member = member
      · have hne : g.member ≠ member := h ▸ hg
        simp [putField, hne, ih, h]
      · simp [putField, hg, List.find?_cons, ih, h]

namespace Registry

variable (r : Registry) (entity member column : String) (type : HostType)

theorem tableOf?_column (other : String) :
    (r.column entity member column type).schema.tableOf? other =
      if other = entity then some ((r.schema.tableOf? entity).getD entity)
      else r.schema.tableOf? other := by
  simp only [schema, Registry.column, change, Dict.get?_alter]
  split
  · cases r.entities.get? entity <;> rfl
  · rfl

theorem field?_column (other name : String) :
    (r.column entity member column type).schema.field? other name =
      if other = entity ∧ member = name then
        some ⟨member, column, (r.schema.tableOf? entity).getD entity, type⟩
      else r.schema.field? other name := by
  simp only [Schema.field?, schema, Registry.column, change, Dict.get?_alter]
  by_cases he : other = entity
  · subst he
    cases r.entities.get? other <;>
      simp [EntityDef.withColumn, EntityDef.find?_putField]
  · simp [he]

end Registry

end QueryClause
