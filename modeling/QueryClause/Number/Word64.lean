import QueryClause.Number.Power

/-!
# Signed 64-bit integers

The range of `Int64`, and the two ways back into it from an exact integer: `Word64.ofInt?` refuses
what does not fit, `Word64.clamp` takes the nearer end of the range instead.
-/

namespace QueryClause.Word64

/-- Whether the integer lies in the range of signed 64-bit integers. -/
def fits (n : Int) : Bool := -9223372036854775808 ≤ n && n ≤ 9223372036854775807

/-- The 64-bit integer of that value, if there is one. -/
def ofInt? (n : Int) : Option Int64 := if fits n then some (Int64.ofInt n) else none

/-- The 64-bit integer nearest to the value. -/
def clamp (n : Int) : Int64 :=
  Int64.ofInt (max (-9223372036854775808) (min 9223372036854775807 n))

theorem toInt_clamp (n : Int) :
    (clamp n).toInt = max (-9223372036854775808) (min 9223372036854775807 n) := by
  rw [clamp, Int64.toInt_ofInt_of_le] <;> omega

theorem fits_iff {n : Int} : fits n = true ↔ -twoTo 63 ≤ n ∧ n < twoTo 63 := by
  have h : twoTo 63 = 9223372036854775808 := rfl
  simp only [fits, Bool.and_eq_true, decide_eq_true_eq, h]
  omega

theorem toInt_ofInt? {n : Int} {w : Int64} (h : ofInt? n = some w) : w.toInt = n := by
  unfold ofInt? at h
  split at h
  · rename_i hn
    rw [fits_iff] at hn
    cases h
    exact Int64.toInt_ofInt_of_le hn.1 hn.2
  · simp at h

end QueryClause.Word64
