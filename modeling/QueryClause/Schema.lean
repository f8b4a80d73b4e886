import QueryClause.Dict
import QueryClause.Host.Json

/-!
# Schemas

A `Schema` says in which column and table each member of an entity is stored.  A `Registry` is a
schema that is built step by step or read from JSON; a field that is defined again is replaced in
its place, and a new table name goes to all fields of the entity.
-/

namespace QueryClause

/-- Where a member of an entity is stored. -/
structure FieldDef where
  member : String
  column : String
  /-- The table that the column belongs to. -/
  table : String
  type : HostType
  deriving DecidableEq, Repr

/-- A source of knowledge about entities. -/
structure Schema where
  /-- The fields of an entity. -/
  fieldsOf? : String → Option (List FieldDef)
  /-- The table of an entity. -/
  tableOf? : String → Option String

namespace Schema

/-- The table of the first field. -/
def firstTable? (fieldsOf? : String → Option (List FieldDef)) (entity : String) : Option String :=
  ((fieldsOf? entity).bind List.head?).map FieldDef.table

/-- A schema that knows fields alone. -/
def ofFields (fieldsOf? : String → Option (List FieldDef)) : Schema :=
  ⟨fieldsOf?, firstTable? fieldsOf?⟩

/-- The field of an entity that stores a member. -/
def field? (s : Schema) (entity member : String) : Option FieldDef :=
  (s.fieldsOf? entity).bind fun fields => fields.find? fun f => f.member == member

end Schema

/-- An entity with its table and fields. -/
structure EntityDef where
  table : String
  fields : List FieldDef
  deriving DecidableEq, Repr

namespace EntityDef

/-- The entity with all its fields in another table. -/
def withTable (e : EntityDef) (table : String) : EntityDef :=
  ⟨table, e.fields.map fun f => { f with table }⟩

/-- Replace the field for the same member, or add the field at the end. -/
def putField (f : FieldDef) : List FieldDef → List FieldDef
  | [] => [f]
  | g :: rest => if g.member = f.member then f :: rest else g :: putField f rest

/-- The entity with a member stored in a column. -/
def withColumn (e : EntityDef) (member column : String) (type : HostType) : EntityDef :=
  { e with fields := putField ⟨member, column, e.table, type⟩ e.fields }

/-- The entity with a member stored in the column of its name. -/
def withField (e : EntityDef) (member : String) (type : HostType) : EntityDef :=
  e.withColumn member member type

end EntityDef

/-- Entities by name. -/
structure Registry where
  entities : Dict EntityDef

namespace Registry

/-- No entities. -/
def empty : Registry := ⟨∅⟩

/-- Change an entity; one that is not there yet starts without fields, in the table of its name. -/
def change (r : Registry) (entity : String) (f : EntityDef → EntityDef) : Registry :=
  ⟨r.entities.alter entity fun e => f (e.getD ⟨entity, []⟩)⟩

/-- Register an entity. -/
def entity (r : Registry) (name : String) : Registry := r.change name id

/-- Set the table of an entity. -/
def table (r : Registry) (entity table : String) : Registry :=
  r.change entity fun e => e.withTable table

/-- Store a member of an entity in a column. -/
def column (r : Registry) (entity member column : String) (type : HostType) : Registry :=
  r.change entity fun e => e.withColumn member column type

/-- Store a member of an entity in the column of its name. -/
def field (r : Registry) (entity member : String) (type : HostType) : Registry :=
  r.change entity fun e => e.withField member type

/-- The names of the entities. -/
def names (r : Registry) : List String := r.entities.keys

/-- The registry as a schema. -/
def schema (r : Registry) : Schema where
  fieldsOf? entity := (r.entities.get? entity).map EntityDef.fields
  tableOf? entity := (r.entities.get? entity).map EntityDef.table

/-- The registry as a schema that derives the table from the fields. -/
def fieldSchema (r : Registry) : Schema := .ofFields r.schema.fieldsOf?

end Registry

/-! ### JSON -/

open Json

namespace FieldDef

/-- A field as a record. -/
def toJson (f : FieldDef) : Json :=
  .object [("member_name", .string f.member), ("column_name", .string f.column),
    ("entity_name", .string f.table), ("member_type", f.type.toJson)]

/-- Read a field. -/
def ofJson? (j : Json) : Option FieldDef := do
  let [member, column, table, type] ←
    fields? ["member_name", "column_name", "entity_name", "member_type"] j | none
  return ⟨← required? string? member, ← required? string? column, ← required? string? table,
    ← required? HostType.ofJson? type⟩

end FieldDef

namespace EntityDef

/-- An entity as a record. -/
def toJson (e : EntityDef) : Json :=
  .object [("table", .string e.table), ("fields", .array (e.fields.map FieldDef.toJson))]

/-- Read an entity. -/
def ofJson? (j : Json) : Option EntityDef := do
  let [table, fields] ← fields? ["table", "fields"] j | none
  return ⟨← required? string? table, ← required? (list? FieldDef.ofJson?) fields⟩

end EntityDef

namespace Registry

/-- A registry as JSON. -/
def toJson (r : Registry) : Json :=
  .object [("entities", .object (r.entities.entries.map fun e => (e.1, e.2.toJson)))]

/-- Read a registry; the last entity of a name counts. -/
def ofJson? (j : Json) : Option Registry := do
  let [entities] ← fields? ["entities"] j | none
  return ⟨Dict.ofList (← required? (map? EntityDef.ofJson?) entities)⟩

end Registry

end QueryClause
