import QueryClause.Eval.Method
import QueryClause.Proofs.Calendar.Month

/-!
# Methods that shift by months

Of the count that `AddMonths` is given, the low 32 bits of its magnitude are taken, with its sign
(`takenMonths`).  The instant is shifted by the months so taken, and there is an overflow only where
the calendar has no such instant (`addMonths_eq`).  So an instant is shifted by the count itself if
and only if no bits were lost (`addMonths_shifts_iff`).
-/

namespace QueryClause

/-- The months that are taken from a count. -/
def takenMonths (n : Int64) : Int := n.toInt.tmod (twoTo 32)

/-- What a method answers that leads to an instant if the calendar has it. -/
def instantOrOverflow (method : String) : Option DateTime → Except EvalError Value
  | some u => .ok (.dateTime u)
  | none => .error (.overflow method)

variable {fresh : Guid} {owner : HostType} {t u : DateTime} {n : Int64} {v : Value}

theorem neg_iff_toInt_neg (n : Int64) : n < 0 ↔ n.toInt < 0 := by
  rw [Int64.lt_iff_toInt_lt, Int64.toInt_zero]

theorem takenMonths_eq (n : Int64) :
    takenMonths n =
      if n < 0 then -((n.toInt.natAbs % twoTo 32 : Nat) : Int)
      else (n.toInt.natAbs % twoTo 32 : Nat) := by
  rw [takenMonths]
  split <;> rename_i hn <;> rw [neg_iff_toInt_neg] at hn
  · obtain ⟨k, hk⟩ := Int.eq_ofNat_of_zero_le (a := -n.toInt) (by omega)
    obtain hneg : n.toInt = -(k : Int) := by omega
    rw [hneg, Int.neg_tmod, Int.natAbs_neg, Int.natAbs_natCast]
    rfl
  · obtain ⟨k, hk⟩ := Int.eq_ofNat_of_zero_le (a := n.toInt) (by omega)
    rw [hk, Int.natAbs_natCast]
    rfl

/-- All months are taken if and only if no bits are lost. -/
theorem takenMonths_eq_iff : takenMonths n = n.toInt ↔ n.toInt.natAbs < twoTo 32 := by
  have hword : twoTo 32 = 4294967296 := rfl
  rw [takenMonths_eq, hword]
  split <;> rename_i hn <;> rw [neg_iff_toInt_neg] at hn <;> omega

/-- A shift by months is the shift by the months that are taken. -/
theorem addMonths_eq (method : String) (t : DateTime) (n : Int64) :
    addMonths method t n = instantOrOverflow method (t.addMonths? (takenMonths n)) := by
  have hword : twoTo 31 = 2147483648 := rfl
  have htaken := takenMonths_eq n
  unfold addMonths
  dsimp only
  generalize n.toInt.natAbs % twoTo 32 = k at htaken ⊢
  by_cases hzero : k = 0
  · have hnone : takenMonths n = 0 := by
      rw [htaken, hzero]
      split <;> rfl
    rw [if_pos hzero, hnone, DateTime.addMonths?_eq_some_iff.2 t.isShifted_zero]
    rfl
  · rw [if_neg hzero]
    by_cases hlarge : twoTo 31 ≤ k
    · -- so many months lead out of the calendar
      have hnone : t.addMonths? (takenMonths n) = none := by
        refine DateTime.addMonths?_of_le ?_
        rw [htaken]
        split <;> omega
      rw [if_pos hlarge, hnone]
      rfl
    · rw [if_neg hlarge, ← htaken]
      cases t.addMonths? (takenMonths n) <;> rfl

theorem Arguments.int_first (method : String) (hv : v.asInt? = some n) :
    Arguments.int method [v] 0 = .ok n := by
  simp [Arguments.int, Arguments.at?, hv]

theorem callMethod?_addMonths (hv : v.asInt? = some n) :
    callMethod? fresh owner (some (.dateTime t)) "AddMonths" [v] =
      some (instantOrOverflow "AddMonths" (t.addMonths? (takenMonths n))) := by
  rw [← addMonths_eq]
  show some ((Arguments.int "AddMonths" [v] 0).bind _) = _
  rw [Arguments.int_first _ hv]
  rfl

theorem callMethod?_addYears (hv : v.asInt? = some n) :
    callMethod? fresh owner (some (.dateTime t)) "AddYears" [v] =
      some (instantOrOverflow "AddYears" (t.addMonths? (takenMonths (n * 12)))) := by
  rw [← addMonths_eq]
  show some ((Arguments.int "AddYears" [v] 0).bind _) = _
  rw [Arguments.int_first _ hv]
  rfl

/-- **An instant is shifted by the months asked for if and only if no bits of their number are
lost.**  Either there is an overflow, and then the calendar has no instant that is shifted by the
months taken; or the instant that is so shifted is the result, and it is shifted by the count itself
if and only if the count is less than `2 ^ 32` in magnitude.  A shift by years is the one by twelve
times as many months. -/
theorem addMonths_shifts_iff (fresh : Guid) (owner : HostType) (t : DateTime)
    (hv : v.asInt? = some n) :
    (((∀ u, ¬ t.IsShifted u (takenMonths n)) ∧
        callMethod? fresh owner (some (.dateTime t)) "AddMonths" [v] =
          some (.error (.overflow "AddMonths"))) ∨
      ∃ u, t.IsShifted u (takenMonths n) ∧
        callMethod? fresh owner (some (.dateTime t)) "AddMonths" [v] = some (.ok (.dateTime u)) ∧
        (t.IsShifted u n.toInt ↔ n.toInt.natAbs < twoTo 32)) ∧
    ∀ m : Int64, m.toInt = 12 * n.toInt → ∃ shifted : Option DateTime,
      callMethod? fresh owner (some (.dateTime t)) "AddYears" [v] =
        some (instantOrOverflow "AddYears" shifted) ∧
      callMethod? fresh owner (some (.dateTime t)) "AddMonths" [.int m] =
        some (instantOrOverflow "AddMonths" shifted) := by
  rw [callMethod?_addMonths hv]
  constructor
  · cases hshift : t.addMonths? (takenMonths n) with
    | none =>
      refine .inl ⟨fun u hu => ?_, rfl⟩
      rw [DateTime.addMonths?_eq_some_iff.2 hu] at hshift
      cases hshift
    | some u =>
      have hu := DateTime.addMonths?_eq_some_iff.1 hshift
      exact .inr ⟨u, hu, rfl, hu.months_inj.trans takenMonths_eq_iff⟩
  · intro m hm
    -- the product with 12 has 64 bits, so no bits of it are lost
    have hproduct : n * 12 = m := by
      have hle := m.le_toInt
      have hlt := m.toInt_lt
      have htwelve : (12 : Int64).toInt = 12 := rfl
      rw [← Int64.toInt_inj, Int64.toInt_mul, htwelve, Int.mul_comm, ← hm]
      exact Int.bmod_eq_of_le (by omega) (by omega)
    refine ⟨_, callMethod?_addYears hv, ?_⟩
    rw [callMethod?_addMonths (v := .int m) rfl, hproduct]

/-- The last day of January 2024. -/
def endOfJanuary : DateTime := ⟨⟨738915, by decide, by decide⟩, TimeOfDay.last⟩

/-- The last day of February 2024. -/
def endOfFebruary : DateTime := ⟨⟨738944, by decide, by decide⟩, TimeOfDay.last⟩

theorem addMonths_shifts_iff_leapYear :
    (Value.decimal .one).asInt? = some 1 ∧
    callMethod? .nil .dateTime (some (.dateTime endOfJanuary)) "AddMonths" [.decimal .one] =
      some (.ok (.dateTime endOfFebruary)) ∧
    endOfJanuary.IsShifted endOfFebruary 1 ∧
    (12 : Int64).toInt = 12 * (1 : Int64).toInt ∧
    ∃ shifted : Option DateTime,
      callMethod? .nil .dateTime (some (.dateTime endOfJanuary)) "AddYears" [.decimal .one] =
        some (instantOrOverflow "AddYears" shifted) ∧
      callMethod? .nil .dateTime (some (.dateTime endOfJanuary)) "AddMonths" [.int 12] =
        some (instantOrOverflow "AddMonths" shifted) := by
  have hv : (Value.decimal .one).asInt? = some 1 := by decide
  have hshift : endOfJanuary.IsShifted endOfFebruary 1 :=
    DateTime.addMonths?_eq_some_iff.1 (by decide)
  obtain ⟨⟨hnone, -⟩ | ⟨u, hu, hcall, -⟩, hyears⟩ :=
    addMonths_shifts_iff .nil .dateTime endOfJanuary hv
  · exact absurd hshift (hnone _)
  · have hfound := DateTime.addMonths?_eq_some_iff.2 hu
    rw [show takenMonths 1 = 1 from rfl, DateTime.addMonths?_eq_some_iff.2 hshift] at hfound
    obtain rfl := Option.some.inj hfound
    exact ⟨hv, hcall, hshift, rfl, hyears 12 rfl⟩

/-- A shift by 4294967297 months is one by a single month. -/
theorem not_addMonths_shifts :
    callMethod? .nil .dateTime (some (.dateTime endOfJanuary)) "AddMonths" [.int 4294967297] =
      some (.ok (.dateTime endOfFebruary)) ∧
    ¬ endOfJanuary.IsShifted endOfFebruary 4294967297 := by
  have hshift : endOfJanuary.IsShifted endOfFebruary 1 :=
    DateTime.addMonths?_eq_some_iff.1 (by decide)
  constructor
  · rw [callMethod?_addMonths (n := 4294967297) rfl, show takenMonths 4294967297 = 1 by decide,
      DateTime.addMonths?_eq_some_iff.2 hshift]
    rfl
  · rw [hshift.months_inj]
    decide

end QueryClause
