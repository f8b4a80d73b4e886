import QueryClause.Proofs.Schema.Registry
import Mathlib.Data.List.Induction

/-!
# Registries that are built step by step

A registry is built by steps (`BuildStep`), which may go back to an entity at any time.  What they
say can be read off their list: the table of an entity is the last one that it is given
(`BuildStep.tableOf`), the column of a member is the last one that it is given
(`BuildStep.columnOf?`), and the members stand in the order in which they are first mentioned
(`BuildStep.membersOf`).

`EntityDef.Reflects` says that the definition of an entity is what some steps say about it.  One
more step keeps it so (`EntityDef.Reflects.edit`, `EntityDef.Reflects.skip`); therefore a registry
knows what the steps say that built it, and nothing else (`Registry.schema_build`).
-/

namespace QueryClause

/-- A step in the building of a registry. -/
inductive BuildStep where
  /-- Begin an entity, or go on with it. -/
  | entity (entity : String)
  | table (entity name : String)
  /-- Store a member in the column of its name. -/
  | field (entity member : String) (type : HostType)
  | column (entity member name : String) (type : HostType)
  deriving DecidableEq, Repr

namespace Registry

/-- Take a step. -/
def take (r : Registry) : BuildStep → Registry
  | .entity e => r.entity e
  | .table e name => r.table e name
  | .field e member type => r.field e member type
  | .column e member name type => r.column e member name type

/-- The registry that some steps build. -/
def build (steps : List BuildStep) : Registry := steps.foldl take empty

theorem build_concat (steps : List BuildStep) (s : BuildStep) :
    build (steps ++ [s]) = (build steps).take s := by
  simp [build]

end Registry

/-! ### What the steps say -/

theorem nodup_eraseDups {α : Type} [DecidableEq α] (l : List α) : l.eraseDups.Nodup := by
  induction hlength : l.length using Nat.strongRecOn generalizing l with
  | ind n ih =>
    cases l with
    | nil => simp
    | cons a rest =>
      rw [List.eraseDups_cons, List.nodup_cons]
      refine ⟨fun hmem => ?_, ih _ ?_ _ rfl⟩
      · simpa using (List.mem_filter.1 (List.mem_eraseDups.1 hmem)).2
      · exact hlength ▸ Nat.lt_succ_of_le (List.length_filter_le _ _)

namespace BuildStep

/-- The entity that a step is about. -/
def subject : BuildStep → String
  | entity e | table e _ | field e _ _ | column e _ _ _ => e

/-- The table that a step gives to its entity. -/
def table? : BuildStep → Option String
  | table _ name => some name
  | _ => none

/-- The member that a step stores, with its column and type. -/
def stored? : BuildStep → Option (String × String × HostType)
  | field _ member type => some (member, member, type)
  | column _ member name type => some (member, name, type)
  | _ => none

/-- The steps about an entity. -/
def about (e : String) (steps : List BuildStep) : List BuildStep :=
  steps.filter fun s => s.subject == e

/-- The last table that an entity is given, or else its name. -/
def tableOf (e : String) (steps : List BuildStep) : String :=
  ((about e steps).filterMap table?).getLast?.getD e

/-- The members that are stored for an entity, one after the other. -/
def storedIn (e : String) (steps : List BuildStep) : List (String × String × HostType) :=
  (about e steps).filterMap stored?

/-- The last column and type that a member of an entity is given. -/
def columnOf? (e member : String) (steps : List BuildStep) : Option (String × HostType) :=
  (((storedIn e steps).filter fun x => x.1 == member).map Prod.snd).getLast?

/-- The members of an entity, each once, in the order in which they are first mentioned. -/
def membersOf (e : String) (steps : List BuildStep) : List String :=
  ((storedIn e steps).map Prod.fst).eraseDups

variable {e member : String} {s : BuildStep} {steps : List BuildStep}
  {x : String × String × HostType}

theorem about_concat (h : s.subject = e) : about e (steps ++ [s]) = about e steps ++ [s] := by
  simp [about, h]

theorem about_concat_of_ne (h : s.subject ≠ e) : about e (steps ++ [s]) = about e steps := by
  simp [about, h]

theorem tableOf_concat (h : s.subject = e) :
    tableOf e (steps ++ [s]) = s.table?.getD (tableOf e steps) := by
  rw [tableOf, about_concat h, List.filterMap_append]
  cases hs : s.table? <;> simp [hs, tableOf]

theorem storedIn_concat (h : s.subject = e) :
    storedIn e (steps ++ [s]) = storedIn e steps ++ s.stored?.toList := by
  rw [storedIn, about_concat h, List.filterMap_append]
  cases hs : s.stored? <;> simp [hs, storedIn]

theorem columnOf?_concat (h : s.subject = e) (hs : s.stored? = some x) :
    columnOf? e member (steps ++ [s]) =
      if x.1 = member then some x.2 else columnOf? e member steps := by
  rw [columnOf?, storedIn_concat h, hs, Option.toList_some, List.filter_append, List.map_append]
  by_cases hx : x.1 = member <;> simp [hx, columnOf?]

theorem membersOf_concat (h : s.subject = e) (hs : s.stored? = some x) :
    membersOf e (steps ++ [s]) =
      if x.1 ∈ membersOf e steps then membersOf e steps else membersOf e steps ++ [x.1] := by
  rw [membersOf, storedIn_concat h, hs, Option.toList_some, List.map_append, List.map_singleton,
    List.eraseDups_append, List.cons_removeAll]
  change membersOf e steps ++ _ = _
  have hmem : x.1 ∈ membersOf e steps ↔ x.1 ∈ (storedIn e steps).map Prod.fst := List.mem_eraseDups
  by_cases hx : x.1 ∈ (storedIn e steps).map Prod.fst
  · rw [if_neg (by simpa using hx), if_pos (hmem.2 hx)]
    exact List.append_nil _
  · rw [if_pos (by simpa using hx), if_neg (mt hmem.1 hx)]
    rfl

theorem columnOf?_congr {steps' : List BuildStep} (h : storedIn e steps' = storedIn e steps) :
    columnOf? e member steps' = columnOf? e member steps := by
  rw [columnOf?, columnOf?, h]

theorem membersOf_congr {steps' : List BuildStep} (h : storedIn e steps' = storedIn e steps) :
    membersOf e steps' = membersOf e steps := by
  rw [membersOf, membersOf, h]

end BuildStep

/-! ### Entities -/

namespace EntityDef

open BuildStep

/-- What a step does to its entity. -/
def edit (d : EntityDef) : BuildStep → EntityDef
  | .entity _ => d
  | .table _ name => d.withTable name
  | .field _ member type => d.withField member type
  | .column _ member name type => d.withColumn member name type

/-- The definition `d` of an entity is what some steps say about it. -/
structure Reflects (e : String) (steps : List BuildStep) (d : EntityDef) : Prop where
  table : d.table = tableOf e steps
  field : ∀ member, (d.fields.find? fun f => f.member == member) =
    (columnOf? e member steps).map fun c => ⟨member, c.1, d.table, c.2⟩
  members : d.fields.map FieldDef.member = membersOf e steps

theorem map_member_putField (f : FieldDef) (fields : List FieldDef) :
    (putField f fields).map FieldDef.member =
      if f.member ∈ fields.map FieldDef.member then fields.map FieldDef.member
      else fields.map FieldDef.member ++ [f.member] := by
  induction fields with
  | nil => simp [putField]
  | cons g rest ih =>
    by_cases h : g.member = f.member
    · simp [putField, h]
    · rw [putField, if_neg h, List.map_cons, List.map_cons, ih]
      by_cases hmem : f.member ∈ rest.map FieldDef.member
      · rw [if_pos hmem, if_pos (List.mem_cons_of_mem _ hmem)]
      · rw [if_neg hmem, if_neg fun hcons =>
          (List.mem_cons.1 hcons).elim (fun heq => h heq.symm) hmem, List.cons_append]

namespace Reflects

variable {e : String} {steps : List BuildStep} {d : EntityDef} {s : BuildStep}

theorem start : Reflects e [] ⟨e, []⟩ := ⟨rfl, fun _ => rfl, rfl⟩

/-- Only tables and stored members count. -/
theorem congr {steps' : List BuildStep} (h : Reflects e steps d)
    (htable : tableOf e steps' = tableOf e steps) (hstored : storedIn e steps' = storedIn e steps) :
    Reflects e steps' d := by
  refine ⟨?_, fun member => ?_, ?_⟩
  · rw [htable]
    exact h.table
  · rw [columnOf?_congr hstored]
    exact h.field member
  · rw [membersOf_congr hstored]
    exact h.members

/-- A step about another entity says nothing. -/
theorem skip (h : Reflects e steps d) (hs : s.subject ≠ e) : Reflects e (steps ++ [s]) d := by
  have habout : about e (steps ++ [s]) = about e steps := about_concat_of_ne hs
  exact h.congr (by rw [tableOf, habout, tableOf]) (by rw [storedIn, habout, storedIn])

theorem withTable {name : String} (h : Reflects e steps d) (hsubject : s.subject = e)
    (htable : s.table? = some name) (hstored : s.stored? = none) :
    Reflects e (steps ++ [s]) (d.withTable name) := by
  have hsame : storedIn e (steps ++ [s]) = storedIn e steps := by
    rw [storedIn_concat hsubject, hstored]
    exact List.append_nil _
  refine ⟨?_, fun member => ?_, ?_⟩
  · rw [tableOf_concat hsubject, htable]
    rfl
  · -- every field moves to the new table, and stays where it is in the list
    have hfind : ((d.withTable name).fields.find? fun f => f.member == member) =
        (d.fields.find? fun f => f.member == member).map fun f => { f with table := name } :=
      List.find?_map
    rw [hfind, h.field, columnOf?_congr hsame, Option.map_map]
    rfl
  · rw [membersOf_congr hsame, ← h.members]
    simp [EntityDef.withTable]

theorem withColumn {member name : String} {type : HostType} (h : Reflects e steps d)
    (hsubject : s.subject = e) (htable : s.table? = none)
    (hstored : s.stored? = some (member, name, type)) :
    Reflects e (steps ++ [s]) (d.withColumn member name type) := by
  refine ⟨?_, fun m => ?_, ?_⟩
  · rw [tableOf_concat hsubject, htable]
    exact h.table
  · rw [columnOf?_concat hsubject hstored]
    refine (find?_putField _ _ m).trans ?_
    by_cases hm : member = m
    · subst hm
      simp [EntityDef.withColumn]
    · rw [if_neg hm, if_neg hm]
      exact h.field m
  · -- a member that is stored again keeps its place
    rw [membersOf_concat hsubject hstored, ← h.members]
    exact map_member_putField _ _

/-- A step about the entity says what it does to it. -/
theorem edit (h : Reflects e steps d) (hs : s.subject = e) :
    Reflects e (steps ++ [s]) (d.edit s) := by
  cases s with
  | entity =>
    refine h.congr (tableOf_concat hs) ?_
    rw [storedIn_concat hs]
    exact List.append_nil _
  | table => exact h.withTable hs rfl rfl
  | field => exact h.withColumn hs rfl rfl
  | column => exact h.withColumn hs rfl rfl

/-- The first field of an entity stands in its table. -/
theorem table_of_head? {f : FieldDef} (h : Reflects e steps d) (hf : d.fields.head? = some f) :
    f.table = d.table := by
  obtain ⟨rest, hfields⟩ := List.head?_eq_some_iff.1 hf
  have hfind : (d.fields.find? fun g => g.member == f.member) = some f := by
    rw [hfields, List.find?_cons, beq_self_eq_true]
  rw [h.field] at hfind
  obtain ⟨c, -, hc⟩ := Option.map_eq_some_iff.1 hfind
  rw [← hc]

end Reflects

end EntityDef

/-! ### Registries -/

namespace Registry

open BuildStep

/-- The definition of an entity, or the one that it starts from. -/
def definition (r : Registry) (e : String) : EntityDef := (r.entities.get? e).getD ⟨e, []⟩

theorem get?_take (r : Registry) (s : BuildStep) (e : String) :
    (r.take s).entities.get? e =
      if e = s.subject then some ((r.definition e).edit s) else r.entities.get? e := by
  have hchange : r.take s = r.change s.subject (EntityDef.edit · s) := by cases s <;> rfl
  rw [hchange, change, Dict.get?_alter]
  split
  · rename_i he
    rw [he, definition]
  · rfl

/-- What a run says about an entity is what its definition holds, and an entity is known if a step
was about it. -/
theorem reflects_build (steps : List BuildStep) (e : String) :
    EntityDef.Reflects e steps ((build steps).definition e) ∧
      (build steps).entities.get? e =
        if about e steps = [] then none else some ((build steps).definition e) := by
  induction steps using List.reverseRecOn with
  | nil => exact ⟨.start, rfl⟩
  | append_singleton steps s ih =>
    have hget := get?_take (build steps) s e
    rw [← build_concat] at hget
    by_cases hs : s.subject = e
    · rw [if_pos hs.symm] at hget
      have hdef : (build (steps ++ [s])).definition e = ((build steps).definition e).edit s := by
        rw [definition, hget, Option.getD_some]
      refine ⟨hdef ▸ ih.1.edit hs, ?_⟩
      rw [hget, hdef, about_concat hs, if_neg (List.append_ne_nil_of_right_ne_nil _ (by simp))]
    · rw [if_neg fun h => hs h.symm] at hget
      have hdef : (build (steps ++ [s])).definition e = (build steps).definition e := by
        rw [definition, hget, definition]
      refine ⟨hdef ▸ ih.1.skip hs, ?_⟩
      rw [hget, hdef, about_concat_of_ne hs]
      exact ih.2

/-- **A registry is what its steps say last.**  An entity is known if a step was about it; its table
is the last one that it was given, or its name; a field is known for each member that was stored,
with the last column and type that it was given and the table of the entity; the members stand in
the order in which they were first mentioned, each once.  The table of the first field is the table
of the entity. -/
theorem schema_build (steps : List BuildStep) (e member : String) :
    let r := build steps
    r.schema.tableOf? e = (if about e steps = [] then none else some (tableOf e steps)) ∧
      r.schema.field? e member =
        (columnOf? e member steps).map (fun c => ⟨member, c.1, tableOf e steps, c.2⟩) ∧
      (r.schema.fieldsOf? e).map (List.map FieldDef.member) =
        (if about e steps = [] then none else some (membersOf e steps)) ∧
      (membersOf e steps).Nodup ∧
      r.fieldSchema.tableOf? e =
        (if membersOf e steps = [] then none else r.schema.tableOf? e) := by
  intro r
  obtain ⟨hreflects, hget⟩ := reflects_build steps e
  by_cases habout : about e steps = []
  · -- nothing is said about the entity
    have hstored : storedIn e steps = [] := by rw [storedIn, habout, List.filterMap_nil]
    have hcolumn : columnOf? e member steps = none := by rw [columnOf?, hstored]; rfl
    have hmembers : membersOf e steps = [] := by rw [membersOf, hstored]; rfl
    rw [if_pos habout] at hget
    rw [if_pos habout, if_pos habout, if_pos hmembers, hcolumn]
    simp only [Registry.schema, fieldSchema, Schema.field?, Schema.ofFields, Schema.firstTable?]
    rw [show r.entities.get? e = none from hget]
    exact ⟨rfl, rfl, rfl, by rw [hmembers]; exact List.nodup_nil, rfl⟩
  · rw [if_neg habout] at hget
    rw [if_neg habout, if_neg habout]
    simp only [Registry.schema, fieldSchema, Schema.field?, Schema.ofFields, Schema.firstTable?]
    rw [show r.entities.get? e = some (r.definition e) from hget]
    refine ⟨congrArg some hreflects.table, ?_, congrArg some hreflects.members,
      nodup_eraseDups _, ?_⟩
    · exact hreflects.table ▸ hreflects.field member
    · have hmembers : membersOf e steps = [] ↔ (r.definition e).fields = [] := by
        rw [← hreflects.members]
        exact List.map_eq_nil_iff
      cases hhead : (r.definition e).fields.head? with
      | none =>
        rw [if_pos (hmembers.2 (List.head?_eq_none_iff.1 hhead))]
        simp [hhead]
      | some f =>
        have hne : (r.definition e).fields ≠ [] := fun hnil => by
          rw [hnil] at hhead
          cases hhead
        rw [if_neg (mt hmembers.1 hne)]
        simp only [Option.map_some, Option.bind_some, hhead]
        exact congrArg some (hreflects.table_of_head? hhead)

end Registry

end QueryClause
