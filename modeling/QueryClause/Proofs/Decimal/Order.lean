import QueryClause.Proofs.Sql.Numeral
import Mathlib.Order.Compare
import Mathlib.Tactic.FieldSimp

/-!
# The order of decimals

Decimals are compared by what they stand for (`Decimal.compare_eq`), whatever their scales, and a
64-bit integer is a decimal of that value (`Decimal.value_ofInt64`).  `Decimal.ofValue` picks one
decimal of each value, so that decimals of one value can be replaced by the same one.
-/

namespace QueryClause

/-- A map that keeps the strict order keeps the comparison. -/
theorem compare_map {α β : Type*} [LinearOrder α] [LinearOrder β] {f : α → β} (hf : StrictMono f)
    (a b : α) : compare (f a) (f b) = compare a b := by
  rw [← cmp_eq_compare, ← cmp_eq_compare]
  exact hf.cmp_map_eq a b

namespace Decimal

open Numeral

/-- The mantissa at a scale is the value without a fraction. -/
theorem unitsAt_eq {d : Decimal} {s : Nat} (h : d.scale ≤ s) :
    (d.unitsAt s : ℚ) = d.value * 10 ^ s := by
  obtain ⟨k, rfl⟩ := Nat.exists_eq_add_of_le h
  have hten : (tenTo k : ℚ) = 10 ^ k := by simp [tenTo]
  have hcancel : d.mantissa * (10 : ℚ) ^ k = d.mantissa / 10 ^ d.scale * 10 ^ (d.scale + k) := by
    rw [pow_add]
    field_simp
  rw [unitsAt, Nat.add_sub_cancel_left, value, withSign]
  cases d.negative <;> simp [hten, hcancel]

theorem compare_eq (a b : Decimal) : a.compare b = Ord.compare a.value b.value := by
  have hpos : (0 : ℚ) < 10 ^ max a.scale b.scale := by positivity
  rw [compare]
  calc Ord.compare (a.unitsAt (max a.scale b.scale)) (b.unitsAt (max a.scale b.scale))
      = Ord.compare (a.unitsAt (max a.scale b.scale) : ℚ) (b.unitsAt (max a.scale b.scale) : ℚ) :=
        (compare_map Int.cast_strictMono _ _).symm
    _ = Ord.compare (a.value * 10 ^ max a.scale b.scale) (b.value * 10 ^ max a.scale b.scale) := by
        rw [unitsAt_eq (Nat.le_max_left _ _), unitsAt_eq (Nat.le_max_right _ _)]
    _ = Ord.compare a.value b.value := compare_map (strictMono_mul_right_of_pos hpos) _ _

theorem value_ofInt64 (n : Int64) : (ofInt64 n).value = (n.toInt : ℚ) := by
  rw [ofInt64, whole, value]
  by_cases hn : n.toInt < 0
  · simp [hn, withSign, abs_of_neg hn]
  · simp [hn, withSign, abs_of_nonneg (Int.not_lt.1 hn)]

/-- One decimal of a value, if it has any. -/
noncomputable def ofValue (q : ℚ) : Decimal := Function.invFun value q

theorem value_ofValue (d : Decimal) : (ofValue d.value).value = d.value :=
  Function.invFun_eq ⟨d, rfl⟩

theorem ofValue_inj {a b : Decimal} : ofValue a.value = ofValue b.value ↔ a.value = b.value := by
  constructor
  · intro h
    rw [← value_ofValue a, h, value_ofValue]
  · intro h
    rw [h]

end Decimal

end QueryClause
