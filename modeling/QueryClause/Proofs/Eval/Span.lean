import QueryClause.Eval.Construct
import QueryClause.Eval.Member
import QueryClause.Proofs.Calendar.TimeSpan

/-!
# Spans from their parts

The days, hours, minutes and seconds of a span are counted toward zero, the latter three within the
next larger unit.  Together with what is left of a second they make up the span, and all of them go
in its direction (`TimeSpan.IsSplit`, `TimeSpan.isSplit_counts`).

A span is constructed from such parts by sums and products of 64 bits.  On the way to the ticks no
number is further from zero than the ticks of the span themselves, so none is out of range, and the
span that is constructed is the given one without what is left of a second
(`TimeSpan.construct_units`).  From seconds alone it is the span that `TimeSpan.ofSeconds` makes
(`TimeSpan.constructValue?_seconds`).
-/

namespace QueryClause

namespace Word64

variable {a b k : Int64}

theorem toInt_mul_of_fits (h : fits (a.toInt * b.toInt) = true) :
    (a * b).toInt = a.toInt * b.toInt := by
  simp only [fits, Bool.and_eq_true, decide_eq_true_eq] at h
  rw [Int64.toInt_mul, Int.bmod_eq_of_le] <;> omega

/-- Units of one size and of the next smaller one are counted exactly if both steps are in range. -/
theorem toInt_mul_add_of_fits (hmul : fits (a.toInt * k.toInt) = true)
    (hadd : fits (a.toInt * k.toInt + b.toInt) = true) :
    (a * k + b).toInt = a.toInt * k.toInt + b.toInt := by
  simp only [fits, Bool.and_eq_true, decide_eq_true_eq] at hadd
  rw [Int64.toInt_add, toInt_mul_of_fits hmul, Int.bmod_eq_of_le] <;> omega

end Word64

namespace TimeSpan

/-- The members that count the units of a span. -/
def unitNames : List String := ["Days", "Hours", "Minutes", "Seconds"]

/-- So many ticks are made of days, hours, minutes and seconds, each within the next larger unit,
and of a rest of less than a second; and all go in one direction. -/
structure IsSplit (t d h m s r : Int) : Prop where
  sum : t = d * 864000000000 + h * 36000000000 + m * 600000000 + s * 10000000 + r
  hours : h.natAbs < 24
  minutes : m.natAbs < 60
  seconds : s.natAbs < 60
  rest : r.natAbs < 10000000
  sign : ∀ x ∈ [d, h, m, s, r], (0 ≤ t → 0 ≤ x) ∧ (t ≤ 0 → x ≤ 0)

theorem IsSplit.neg {t d h m s r : Int} (hsplit : IsSplit t d h m s r) :
    IsSplit (-t) (-d) (-h) (-m) (-s) (-r) where
  sum := by
    have := hsplit.sum
    omega
  hours := by rw [Int.natAbs_neg]; exact hsplit.hours
  minutes := by rw [Int.natAbs_neg]; exact hsplit.minutes
  seconds := by rw [Int.natAbs_neg]; exact hsplit.seconds
  rest := by rw [Int.natAbs_neg]; exact hsplit.rest
  sign x hx := by
    have hmem : -x ∈ [d, h, m, s, r] := by
      have := List.mem_map_of_mem (f := Neg.neg) hx
      simpa using this
    have := hsplit.sign _ hmem
    omega

/-- A number of ticks is split by quotients and remainders. -/
theorem isSplit_nat (n : Nat) :
    IsSplit n (n / 864000000000 : Nat) (n / 36000000000 % 24 : Nat) (n / 600000000 % 60 : Nat)
      (n / 10000000 % 60 : Nat) (n % 10000000 : Nat) := by
  -- each unit is counted in the next smaller one
  have hminutes : n / 600000000 = n / 10000000 / 60 := (Nat.div_div_eq_div_mul n 10000000 60).symm
  have hhours : n / 36000000000 = n / 600000000 / 60 := (Nat.div_div_eq_div_mul n 600000000 60).symm
  have hdays : n / 864000000000 = n / 36000000000 / 24 :=
    (Nat.div_div_eq_div_mul n 36000000000 24).symm
  have hticks := Nat.div_add_mod n 10000000
  rw [hdays, hhours, hminutes]
  constructor
  case sign => simp; omega
  all_goals omega

/-- The days, hours, minutes and seconds of a number of ticks, and what is left. -/
theorem isSplit_counts (t : Int) :
    IsSplit t (t.tdiv 864000000000) ((t.tdiv 36000000000).tmod 24) ((t.tdiv 600000000).tmod 60)
      ((t.tdiv 10000000).tmod 60) (t.tmod 10000000) := by
  rcases Int.le_total 0 t with ht | ht
  · obtain ⟨n, rfl⟩ := Int.eq_ofNat_of_zero_le ht
    exact isSplit_nat n
  · obtain ⟨n, hn⟩ := Int.eq_ofNat_of_zero_le (a := -t) (by omega)
    obtain rfl : t = -(n : Int) := by omega
    simp only [Int.neg_tdiv, Int.neg_tmod]
    exact (isSplit_nat n).neg

/-- The members of a span count its units toward zero. -/
theorem exists_units (s : TimeSpan) :
    ∃ d h m sec : Int64,
      unitNames.mapM (Value.timeSpan s).readMember = .ok ([d, h, m, sec].map .int) ∧
      IsSplit s.ticks.toInt d.toInt h.toInt m.toInt sec.toInt (s.ticks.toInt.tmod 10000000) := by
  refine ⟨s.ticks / 864000000000, s.ticks / 36000000000 % 24, s.ticks / 600000000 % 60,
    s.ticks / 10000000 % 60, rfl, ?_⟩
  have hsplit := isSplit_counts s.ticks.toInt
  rwa [Int64.toInt_mod, Int64.toInt_mod, Int64.toInt_mod,
    Int64.toInt_div_of_ne_right _ _ (by decide), Int64.toInt_div_of_ne_right _ _ (by decide),
    Int64.toInt_div_of_ne_right _ _ (by decide), Int64.toInt_div_of_ne_right _ _ (by decide)]

/-- The sums and products on the way from days, hours, minutes and seconds to ticks. -/
def partialTicks (d h m s : Int) : List Int :=
  let hours := d * 24 + h
  let minutes := hours * 60 + m
  let seconds := minutes * 60 + s
  [d * 24, hours, hours * 60, minutes, minutes * 60, seconds, seconds * 10000000]

/-- None of the numbers on the way is out of range. -/
theorem IsSplit.fits {t d h m s r : Int} (hsplit : IsSplit t d h m s r)
    (ht : Word64.fits t = true) : ∀ k ∈ partialTicks d h m s, Word64.fits k = true := by
  have hsum := hsplit.sum
  -- in one direction, the numbers on the way lie between zero and the ticks
  rcases Int.le_total 0 t with h0 | h0
  · have hsign : ∀ x ∈ [d, h, m, s, r], 0 ≤ x := fun x hx => (hsplit.sign x hx).1 h0
    simp only [List.forall_mem_cons, List.not_mem_nil, false_implies, implies_true, and_true,
      partialTicks, Word64.fits, Bool.and_eq_true, decide_eq_true_eq] at hsign ht ⊢
    omega
  · have hsign : ∀ x ∈ [d, h, m, s, r], x ≤ 0 := fun x hx => (hsplit.sign x hx).2 h0
    simp only [List.forall_mem_cons, List.not_mem_nil, false_implies, implies_true, and_true,
      partialTicks, Word64.fits, Bool.and_eq_true, decide_eq_true_eq] at hsign ht ⊢
    omega

/-- Ticks are counted exactly as long as the numbers on the way are in range. -/
theorem toInt_ticks {d h m s : Int64}
    (hfits : ∀ k ∈ partialTicks d.toInt h.toInt m.toInt s.toInt, Word64.fits k = true) :
    (secondsOf d h m s * ticksPerSecond).toInt =
      (((d.toInt * 24 + h.toInt) * 60 + m.toInt) * 60 + s.toInt) * 10000000 := by
  simp only [partialTicks, List.forall_mem_cons, List.not_mem_nil, false_implies, implies_true,
    and_true] at hfits
  obtain ⟨hdays, hhours, hhours', hminutes, hminutes', hseconds, hticks⟩ := hfits
  have hours : (d * 24 + h).toInt = d.toInt * 24 + h.toInt :=
    Word64.toInt_mul_add_of_fits hdays hhours
  rw [← hours] at hhours' hminutes hminutes' hseconds hticks ⊢
  have minutes : ((d * 24 + h) * 60 + m).toInt = (d * 24 + h).toInt * 60 + m.toInt :=
    Word64.toInt_mul_add_of_fits hhours' hminutes
  rw [← minutes] at hminutes' hseconds hticks ⊢
  have seconds : (secondsOf d h m s).toInt = ((d * 24 + h) * 60 + m).toInt * 60 + s.toInt :=
    Word64.toInt_mul_add_of_fits hminutes' hseconds
  rw [← seconds] at hticks ⊢
  exact Word64.toInt_mul_of_fits hticks

theorem constructValue?_timeSpan {type : HostType} (members : List String)
    (htype : type.underlying = .timeSpan) (d h m s : Int64) :
    constructValue? type members ([d, h, m, s].map .int) =
      some (.ok (.timeSpan ⟨secondsOf d h m s * ticksPerSecond⟩)) := by
  unfold constructValue?
  simp only [htype]
  rfl

/-- Seconds alone make the span of so many seconds, as long as its ticks fit. -/
theorem constructValue?_seconds {type : HostType} (members : List String)
    (htype : type.underlying = .timeSpan) {n : Int64}
    (h : Word64.fits (n.toInt * ticksPerSecond.toInt) = true) :
    constructValue? type members ([0, 0, 0, n].map .int) =
      some (.ok (.timeSpan (ofSeconds n))) := by
  have hseconds : secondsOf 0 0 0 n = n := by simp [secondsOf]
  have hspan : (⟨n * ticksPerSecond⟩ : TimeSpan) = ofSeconds n := by
    apply ext_toInt
    rw [ofSeconds, Word64.toInt_clamp, Word64.toInt_mul_of_fits h]
    simp only [Word64.fits, Bool.and_eq_true, decide_eq_true_eq] at h
    omega
  rw [constructValue?_timeSpan members htype, hseconds, hspan]

/-- **The days, hours, minutes and seconds of a span make it up again but for a rest of less than a
second.**  With that rest they are the span, each within the next larger unit and all in its
direction; and constructing a span from them overflows nowhere and gives the span less the rest. -/
theorem construct_units {type : HostType} (members : List String)
    (htype : type.underlying = .timeSpan) (s : TimeSpan) :
    ∃ (d h m sec : Int64) (r : Int),
      unitNames.mapM (Value.timeSpan s).readMember = .ok ([d, h, m, sec].map .int) ∧
      IsSplit s.ticks.toInt d.toInt h.toInt m.toInt sec.toInt r ∧
      (∀ k ∈ partialTicks d.toInt h.toInt m.toInt sec.toInt, Word64.fits k = true) ∧
      ∃ u : TimeSpan,
        constructValue? type members ([d, h, m, sec].map .int) = some (.ok (.timeSpan u)) ∧
        u.ticks.toInt = s.ticks.toInt - r := by
  obtain ⟨d, h, m, sec, hread, hsplit⟩ := s.exists_units
  have hfits := hsplit.fits (Word64.fits_iff.2 ⟨s.ticks.le_toInt, s.ticks.toInt_lt⟩)
  refine ⟨d, h, m, sec, _, hread, hsplit, hfits, _,
    constructValue?_timeSpan members htype d h m sec, ?_⟩
  rw [toInt_ticks hfits]
  have hsum := hsplit.sum
  omega

theorem construct_units_smallest :
    (HostType.nullable .timeSpan).underlying = .timeSpan ∧
    ∃ (d h m sec : Int64) (r : Int),
      unitNames.mapM (Value.timeSpan ⟨Int64.minValue⟩).readMember =
        .ok ([d, h, m, sec].map .int) ∧
      IsSplit Int64.minValue.toInt d.toInt h.toInt m.toInt sec.toInt r ∧
      (∀ k ∈ partialTicks d.toInt h.toInt m.toInt sec.toInt, Word64.fits k = true) ∧
      ∃ u : TimeSpan,
        constructValue? (.nullable .timeSpan) [] ([d, h, m, sec].map .int) =
          some (.ok (.timeSpan u)) ∧
        u.ticks.toInt = Int64.minValue.toInt - r :=
  ⟨rfl, construct_units [] rfl ⟨Int64.minValue⟩⟩

end TimeSpan

end QueryClause
