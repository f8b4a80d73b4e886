import QueryClause.Proofs.Decimal.Order
import QueryClause.Proofs.Host.Json

/-!
# The parts of host values

Two values without floats have the same parts if and only if they are equal after each decimal has
been replaced by the one that `Decimal.ofValue` picks of its value (`Value.same_iff`).
-/

namespace QueryClause.Value

/-- No float is among the values. -/
def NoFloat (vs : List Value) : Prop := ∀ x, float x ∉ vs

/-- No float is in the value, at any depth. -/
def FloatFree (v : Value) : Prop := NoFloat v.leaves

theorem noFloat_append {vs ws : List Value} : NoFloat (vs ++ ws) ↔ NoFloat vs ∧ NoFloat ws := by
  simp [NoFloat, forall_and]

theorem FloatFree.ne_float {v : Value} (h : v.FloatFree) (x : Float) : v ≠ float x := by
  rintro rfl
  exact h x List.mem_cons_self

mutual

/-- The value with one decimal for all decimals of a value. -/
noncomputable def parts : Value → Value
  | decimal d => decimal (Decimal.ofValue d.value)
  | list items => list (itemParts items)
  | object t fields => object t (fieldParts fields)
  | v => v

/-- The items with one decimal for all decimals of a value. -/
noncomputable def itemParts : List Value → List Value
  | [] => []
  | v :: rest => parts v :: itemParts rest

/-- The fields with one decimal for all decimals of a value. -/
noncomputable def fieldParts : List (String × Value) → List (String × Value)
  | [] => []
  | (name, v) :: rest => (name, parts v) :: fieldParts rest

end

mutual

theorem same_iff : ∀ a b : Value, a.FloatFree → b.FloatFree →
    (a.same b = true ↔ a.parts = b.parts)
  | float x, _, ha, _ => absurd rfl (ha.ne_float x)
  | list as, b, ha, hb => by
    cases b with
    | list bs => simpa [same, parts] using sameItems_iff as bs ha hb
    | _ => simp [same, parts]
  | object t as, b, ha, hb => by
    cases b with
    | object u bs => simp [same, parts, sameFields_iff as bs ha hb]
    | _ => simp [same, parts]
  | decimal d, b, _, _ => by
    cases b with
    | decimal e => simp [same, parts, Decimal.compare_eq, Decimal.ofValue_inj]
    | _ => simp [same, parts]
  | null, b, _, _ => by cases b <;> simp [same, parts]
  | bool _, b, _, _ => by cases b <;> simp [same, parts]
  | int _, b, _, _ => by cases b <;> simp [same, parts]
  | char _, b, _, _ => by cases b <;> simp [same, parts]
  | string _, b, _, _ => by cases b <;> simp [same, parts]
  | dateTime _, b, _, _ => by cases b <;> simp [same, parts]
  | timeSpan _, b, _, _ => by cases b <;> simp [same, parts]
  | guid _, b, _, _ => by cases b <;> simp [same, parts]
  | enum _ _, b, _, _ => by cases b <;> simp [same, parts]

theorem sameItems_iff : ∀ as bs : List Value, NoFloat (itemLeaves as) → NoFloat (itemLeaves bs) →
    (sameItems as bs = true ↔ itemParts as = itemParts bs)
  | [], bs, _, _ => by cases bs <;> simp [sameItems, itemParts]
  | a :: as, bs, ha, hb => by
    cases bs with
    | nil => simp [sameItems, itemParts]
    | cons b bs =>
      rw [itemLeaves, noFloat_append] at ha hb
      simp [sameItems, itemParts, same_iff a b ha.1 hb.1, sameItems_iff as bs ha.2 hb.2]

theorem sameFields_iff : ∀ as bs : List (String × Value), NoFloat (fieldLeaves as) →
    NoFloat (fieldLeaves bs) → (sameFields as bs = true ↔ fieldParts as = fieldParts bs)
  | [], bs, _, _ => by cases bs <;> simp [sameFields, fieldParts]
  | (n, a) :: as, bs, ha, hb => by
    cases bs with
    | nil => simp [sameFields, fieldParts]
    | cons b bs =>
      obtain ⟨m, b⟩ := b
      rw [fieldLeaves, noFloat_append] at ha hb
      simp [sameFields, fieldParts, same_iff a b ha.1 hb.1, sameFields_iff as bs ha.2 hb.2,
        and_assoc]

end

end QueryClause.Value
