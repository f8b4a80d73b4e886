import QueryClause.Aliases
import QueryClause.Proofs.Expr.Json
import QueryClause.Schema

/-!
# Schemas and aliases survive JSON

A dictionary is the same again after its entries have been stored one by one
(`Dict.ofList_entries`), so registries and aliases survive JSON as expressions do.
`Json.survive_serialization` puts the three together: what is written for them is read back as it
was, as a value at any depth, and as a text as far down as a reader goes.
-/

namespace QueryClause

namespace Dict

variable {α : Type}

theorem alterEntries_of_not_mem {key : String} {f : Option α → α} {l : List (String × α)}
    (h : key ∉ l.map Prod.fst) : alterEntries key f l = l ++ [(key, f none)] := by
  induction l with
  | nil => rfl
  | cons e l ih =>
    obtain ⟨k, a⟩ := e
    rw [List.map_cons, List.mem_cons, not_or] at h
    rw [alterEntries, if_neg (Ne.symm h.1), ih h.2]
    rfl

/-- Entries with new keys go to the end, one after the other. -/
theorem entries_foldl_insert (d : Dict α) {l : List (String × α)}
    (h : ((d.entries ++ l).map Prod.fst).Nodup) :
    (l.foldl (fun d e => d.insert e.1 e.2) d).entries = d.entries ++ l := by
  induction l generalizing d with
  | nil => exact (List.append_nil _).symm
  | cons e l ih =>
    have hnew : e.1 ∉ d.entries.map Prod.fst := by
      rw [List.map_append, List.map_cons, List.nodup_append] at h
      exact fun hmem => h.2.2 _ hmem _ List.mem_cons_self rfl
    have hentries : (d.insert e.1 e.2).entries = d.entries ++ [e] := alterEntries_of_not_mem hnew
    have happend : d.entries ++ e :: l = (d.insert e.1 e.2).entries ++ l := by
      rw [hentries, List.append_assoc, List.singleton_append]
    rw [List.foldl_cons, ih _ (happend ▸ h), happend]

/-- A dictionary is what its entries make. -/
theorem ofList_entries (d : Dict α) : ofList d.entries = d := by
  have hentries := entries_foldl_insert (empty : Dict α) d.keys_nodup
  cases d
  rw [ofList, mk.injEq]
  exact hentries

end Dict

open Json

/-- The entries of a dictionary survive if its values do. -/
theorem Json.RoundTrips.entries {α : Type} {write : α → Json} {read : Json → Option α}
    {l : List (String × α)} (h : ∀ e ∈ l, RoundTrips write read e.2) :
    RoundTrips (fun l => .object (l.map fun e => (e.1, write e.2))) (map? read) l where
  back := mapM_back fun e he => by rw [(h e he).back, Option.map_some]
  exact := by
    refine isExact_object fun m hm => ?_
    obtain ⟨e, he, rfl⟩ := List.mem_map.1 hm
    exact (h e he).exact

theorem FieldDef.roundTrips (f : FieldDef) : RoundTrips toJson ofJson? f where
  back := by
    have htype := f.type.roundTrips.back
    simp [ofJson?, toJson, fields?, valuesOf, required?, string?, htype]
  exact := isExact_object (by simp [f.type.roundTrips.exact])

theorem EntityDef.roundTrips (e : EntityDef) : RoundTrips toJson ofJson? e where
  back := by
    have hfields := (RoundTrips.list fun f (_ : f ∈ e.fields) => f.roundTrips).back
    simp [ofJson?, toJson, fields?, valuesOf, required?, string?, hfields]
  exact := by
    have hfields := (RoundTrips.list fun f (_ : f ∈ e.fields) => f.roundTrips).exact
    exact isExact_object (by simp [hfields])

theorem Registry.roundTrips (r : Registry) : RoundTrips toJson ofJson? r where
  back := by
    have hentries := (RoundTrips.entries fun e (_ : e ∈ r.entities.entries) => e.2.roundTrips).back
    simp [ofJson?, toJson, fields?, valuesOf, required?, hentries, Dict.ofList_entries]
  exact := by
    have hentries := (RoundTrips.entries fun e (_ : e ∈ r.entities.entries) => e.2.roundTrips).exact
    exact isExact_object (by simp [hentries])

theorem Aliases.roundTrips (a : Aliases) : RoundTrips toJson ofJson? a := by
  have hentries : RoundTrips (fun l => .object (l.map fun e => (e.1, .string e.2)))
      (map? string?) a.entries.entries := .entries fun _ _ => ⟨rfl, rfl⟩
  refine ⟨?_, hentries.exact⟩
  have hread := hentries.back
  simp [ofJson?, toJson, hread, ofList, Dict.ofList_entries]

/-- Aliases nest no deeper than a reader goes. -/
theorem Aliases.depth_toJson (a : Aliases) : a.toJson.depth = 1 := by
  have hflat : ∀ l : List (String × String),
      membersDepth (l.map fun e => (e.1, .string e.2)) = 0 := by
    intro l
    induction l with
    | nil => rfl
    | cons e l ih => rw [List.map_cons, membersDepth, ih]; rfl
  rw [toJson, depth, hflat]

namespace Json

/-- **Expressions, schemas and aliases survive JSON.**  The value that is written for one of them is
read back as the same, by both readers of values; for an expression, if it holds no float and its
decimals, instants and identifiers survive their own notations.  The text of that value is read back
as the same if the value nests no deeper than `Json.maxDepth`, and is refused otherwise. -/
theorem survive_serialization :
    (∀ e : Expr, Value.Legible e.leaves →
      (∀ positional, Expr.ofJson? positional e.toJson = some e) ∧
        (ofText? e.toJson.text).bind (Expr.ofJson? true) =
          if e.toJson.depth ≤ maxDepth then some e else none) ∧
      (∀ r : Registry, Registry.ofJson? r.toJson = some r ∧
        (ofText? r.toJson.text).bind Registry.ofJson? =
          if r.toJson.depth ≤ maxDepth then some r else none) ∧
      ∀ a : Aliases, Aliases.ofJson? a.toJson = some a ∧
        (ofText? a.toJson.text).bind Aliases.ofJson? = some a := by
  refine ⟨fun e h => ⟨fun positional => (Expr.roundTrips h).back, (Expr.roundTrips h).text⟩,
    fun r => ⟨r.roundTrips.back, r.roundTrips.text⟩, fun a => ⟨a.roundTrips.back, ?_⟩⟩
  rw [a.roundTrips.text, a.depth_toJson, if_pos (by decide)]

/-- An expression with an instant, an identifier, a decimal and an object in a list. -/
theorem survive_serialization_list :
    let record := Value.object "Order" [("Paid", .bool true), ("Rate", .decimal Decimal.one)]
    let e := Expr.constant
      (.list [.dateTime default, .guid Guid.nil, record, .enum ⟨"Level", [⟨"Low", 1⟩]⟩ 1])
      (.list (.nullable (.object "Order")))
    Value.Legible e.leaves ∧ Expr.ofJson? false e.toJson = some e ∧
      (ofText? e.toJson.text).bind (Expr.ofJson? true) = some e := by
  intro record e
  have hleaves : e.leaves = [.dateTime default, .guid Guid.nil, .bool true, .decimal Decimal.one,
      .enum ⟨"Level", [⟨"Low", 1⟩]⟩ 1] := rfl
  have hlegible : Value.Legible e.leaves := by
    rw [hleaves, Value.legible_iff]
    refine ⟨by simp, fun d hd => ?_, fun g hg => ?_⟩
    · obtain rfl : d = Decimal.one := by simpa using hd
      decide
    · obtain rfl : g = Guid.nil := by simpa using hg
      decide
  obtain ⟨hback, htext⟩ := survive_serialization.1 e hlegible
  refine ⟨hlegible, hback false, ?_⟩
  rw [htext, if_pos (by decide)]

/-- So many negations of a truth value. -/
def negations : Nat → Expr
  | 0 => .constant (.bool true) .bool
  | n + 1 => (negations n).negation

/-- No reader of texts gets to the bottom of 64 negations. -/
theorem not_survive_serialization :
    ¬ ∀ e : Expr, Value.Legible e.leaves →
      (ofText? e.toJson.text).bind (Expr.ofJson? true) = some e := by
  intro h
  have hleaves : (negations 64).leaves = [.bool true] := rfl
  have hlegible : Value.Legible (negations 64).leaves := by
    rw [hleaves, Value.legible_iff]
    simp
  have hread := h (negations 64) hlegible
  rw [(Expr.roundTrips hlegible).text, if_neg (by decide +kernel)] at hread
  cases hread

end Json

end QueryClause
