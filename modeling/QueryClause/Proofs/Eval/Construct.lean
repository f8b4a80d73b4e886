import QueryClause.Eval.Construct
import QueryClause.Eval.Member
import QueryClause.Proofs.Calendar.DateTime

/-!
# Instants from their parts

An instant is constructed from year, month, day and, if given, a time of day, and its members give
these parts back.

The year is taken as it is and of the other parts the low 32 bits count (`takenParts`).  A
construction succeeds if and only if some instant has the parts so taken, and constructs that
instant (`dateTimeOfParts?_eq_some_iff`).  So the parts come back as they were given if and only if
none of them lost bits, and the milliseconds stay below a thousand outside of leap seconds
(`construct_parts_iff`).
-/

namespace QueryClause

namespace DateTime

/-- The members that are the parts of an instant, from the year to the millisecond. -/
def partNames : List String :=
  ["Year", "Month", "Day", "Hour", "Minute", "Second", "Millisecond"]

/-- The parts of an instant, from the year to the millisecond. -/
def parts (t : DateTime) : List Int :=
  [t.date.civil.year, t.date.civil.month, t.date.civil.day, t.time.hour, t.time.minute,
    t.time.second, (t.time.nanos / 1000000 : Nat)]

variable {t : DateTime}

theorem parts_bounds : ∀ n ∈ t.parts, -2 ^ 63 ≤ n ∧ n < 2 ^ 63 := by
  have hyear := t.date.year_bounds
  have hday := t.date.month_day_bounds
  have hseconds := t.time.seconds_lt
  have hnanos := t.time.nanos_lt
  simp only [parts, TimeOfDay.hour, TimeOfDay.minute, TimeOfDay.second, List.forall_mem_cons,
    List.not_mem_nil, false_implies, implies_true, and_true]
  omega

theorem mapM_readMember (t : DateTime) :
    partNames.mapM (Value.dateTime t).readMember =
      .ok (t.parts.map fun n => .int (Int64.ofInt n)) := by
  simp only [parts, List.map_cons, List.map_nil, Int64.ofInt_eq_ofNat]
  rfl

/-- The members of an instant are some integers if and only if these are its parts. -/
theorem mapM_readMember_eq_iff {ns : List Int64} :
    partNames.mapM (Value.dateTime t).readMember = .ok (ns.map .int) ↔
      t.parts = ns.map Int64.toInt := by
  have hint : Function.Injective Value.int := fun _ _ h => Value.int.inj h
  rw [mapM_readMember, Except.ok.injEq, ← Function.comp_def, ← List.map_map,
    (List.map_injective_iff.2 hint).eq_iff]
  constructor
  · rintro rfl
    rw [List.map_map]
    refine (List.map_id _).symm.trans (List.map_congr_left fun n hn => ?_)
    obtain ⟨hle, hlt⟩ := parts_bounds n hn
    exact (Int64.toInt_ofInt_of_le hle hlt).symm
  · intro h
    rw [h, List.map_map]
    exact (List.map_congr_left fun n _ => Int64.ofInt_toInt n).trans (List.map_id _)

end DateTime

/-- The parts that a construction is given; those that are missing are zero. -/
def givenParts (args : List Int64) : List Int64 := (List.range 7).map fun i => args.getD i 0

/-- The parts that a construction takes: the year, and of the others the low 32 bits. -/
def takenParts (args : List Int64) : List Int :=
  (args.getD 0 0).toInt :: (givenParts args).tail.map fun n => n.toInt % twoTo 32

variable {args : List Int64} {t : DateTime}

theorem parts_eq_takenParts_iff :
    t.parts = takenParts args ↔
      t.date.civil = ⟨(args.getD 0 0).toInt, ((args.getD 1 0).toInt % twoTo 32).toNat,
        ((args.getD 2 0).toInt % twoTo 32).toNat⟩ ∧
      t.time.hour = ((args.getD 3 0).toInt % twoTo 32).toNat ∧
      t.time.minute = ((args.getD 4 0).toInt % twoTo 32).toNat ∧
      t.time.second = ((args.getD 5 0).toInt % twoTo 32).toNat ∧
      t.time.nanos / 1000000 = ((args.getD 6 0).toInt % twoTo 32).toNat := by
  have hgiven : (givenParts args).tail = [args.getD 1 0, args.getD 2 0, args.getD 3 0,
    args.getD 4 0, args.getD 5 0, args.getD 6 0] := rfl
  have hlow : ∀ (k : Nat) (n : Int64),
      (k : Int) = n.toInt % twoTo 32 ↔ k = (n.toInt % twoTo 32).toNat := by
    intro k n
    have hword : (twoTo 32 : Int) = 4294967296 := rfl
    rw [hword]
    omega
  rcases hcivil : t.date.civil with ⟨y, month, day⟩
  simp only [DateTime.parts, takenParts, hgiven, hcivil, hlow, List.map_cons, List.map_nil,
    List.cons.injEq, Civil.mk.injEq, and_true, and_assoc]

/-- A construction makes the instant that has the parts so taken. -/
theorem dateTimeOfParts?_eq_some_iff :
    dateTimeOfParts? args = some t ↔ t.parts = takenParts args ∧ t.time.nanos % 1000000 = 0 := by
  rw [parts_eq_takenParts_iff, dateTimeOfParts?]
  dsimp only
  constructor
  · intro h
    split at h
    · cases h
    · split at h
      · cases h
      · rename_i hdate
        obtain ⟨time, htime, rfl⟩ := Option.map_eq_some_iff.1 h
        obtain ⟨hhour, hminute, hsecond, hnanos⟩ := TimeOfDay.ofParts?_eq_some_iff.1 htime
        refine ⟨⟨Date.ofCivil?_eq_some_iff.1 hdate, hhour, hminute, hsecond, ?_⟩, ?_⟩
        · dsimp only
          omega
        · dsimp only
          omega
  · rintro ⟨⟨hcivil, hhour, hminute, hsecond, hmillis⟩, hnanos⟩
    have hyear := t.date.year_bounds
    simp only [hcivil] at hyear
    have hword : (twoTo 31 : Int) = 2147483648 := rfl
    rw [if_neg (by simp only [hword, Bool.or_eq_true, decide_eq_true_eq]; omega),
      Date.ofCivil?_eq_some_iff.2 hcivil]
    have htime := TimeOfDay.ofParts?_eq_some_iff.2 ⟨hhour, hminute, hsecond, rfl⟩
    rw [← Nat.div_add_mod t.time.nanos 1000000, hnanos, hmillis, Nat.add_zero,
      Nat.mul_comm] at htime
    simp only [htime, Option.map_some]

/-- The parts are taken as they are given if and only if none of them loses bits. -/
theorem takenParts_eq_iff :
    takenParts args = (givenParts args).map Int64.toInt ↔
      ∀ n ∈ (givenParts args).tail, 0 ≤ n.toInt ∧ n.toInt < twoTo 32 := by
  have hgiven : givenParts args = args.getD 0 0 :: (givenParts args).tail := rfl
  have hword : (twoTo 32 : Int) = 4294967296 := rfl
  rw [hgiven, takenParts, List.map_cons, List.cons.injEq, eq_self, true_and, List.map_inj_left]
  refine forall₂_congr fun n _ => ?_
  rw [hword]
  omega

/-- What has the parts also has them without a rest of a millisecond. -/
theorem exists_of_parts (t : DateTime) :
    ∃ u : DateTime, u.parts = t.parts ∧ u.time.nanos % 1000000 = 0 := by
  have hnanos := t.time.nanos_lt
  refine ⟨{ t with time := { t.time with
    nanos := t.time.nanos / 1000000 * 1000000
    nanos_lt := by omega } }, ?_, Nat.mul_mod_left _ _⟩
  simp [DateTime.parts, TimeOfDay.hour, TimeOfDay.minute, TimeOfDay.second]

theorem constructValue?_dateTime {type : HostType} {vs : List Value} (members : List String)
    (htype : type.underlying = .dateTime) (hargs : vs.mapM Value.asInt? = some args)
    (hcount : args.length = 3 ∨ args.length = 6 ∨ args.length = 7) :
    constructValue? type members vs = some (match dateTimeOfParts? args with
      | some t => .ok (.dateTime t)
      | none => .error (.invalidArgument (.inNew type .dateTimeRange))) := by
  have haccepted : (args.length = 3 || args.length = 6 || args.length = 7) = true := by
    simpa [or_assoc] using hcount
  unfold constructValue?
  cases hmade : dateTimeOfParts? args with
  | none => simp only [htype, hargs, Option.map_some, haccepted, if_true, hmade]
  | some t => simp only [htype, hargs, Option.map_some, haccepted, if_true, hmade]

/-- **A constructed instant has the parts that it was given, unless bits were lost or it lies in a
leap second.**  From three, six or seven integers either no instant is constructed, and then none
has the parts that were taken; or the one that has them is constructed, and its members are the
integers, with less than a thousand milliseconds, if and only if all but the year fit in 32 bits
and the instant is not in a leap second. -/
theorem construct_parts_iff {type : HostType} {vs : List Value} (members : List String)
    (htype : type.underlying = .dateTime) (hargs : vs.mapM Value.asInt? = some args)
    (hcount : args.length = 3 ∨ args.length = 6 ∨ args.length = 7) :
    ((∀ t : DateTime, t.parts ≠ takenParts args) ∧
      constructValue? type members vs =
        some (.error (.invalidArgument (.inNew type .dateTimeRange)))) ∨
    ∃ t : DateTime, t.parts = takenParts args ∧
      constructValue? type members vs = some (.ok (.dateTime t)) ∧
      (DateTime.partNames.mapM (Value.dateTime t).readMember = .ok ((givenParts args).map .int) ∧
          (args.getD 6 0).toInt < 1000 ↔
        (∀ n ∈ (givenParts args).tail, 0 ≤ n.toInt ∧ n.toInt < twoTo 32) ∧
          t.time.isLeap = false) := by
  rw [constructValue?_dateTime members htype hargs hcount]
  cases hmade : dateTimeOfParts? args with
  | none =>
    -- an instant with the parts would be made, once its rest of a millisecond is dropped
    refine .inl ⟨fun t ht => ?_, rfl⟩
    obtain ⟨u, hu, hmillis⟩ := exists_of_parts t
    have hsome := dateTimeOfParts?_eq_some_iff.2 ⟨hu.trans ht, hmillis⟩
    rw [hmade] at hsome
    cases hsome
  | some t =>
    obtain ⟨hparts, hmillis⟩ := dateTimeOfParts?_eq_some_iff.1 hmade
    refine .inr ⟨t, hparts, rfl, ?_⟩
    rw [DateTime.mapM_readMember_eq_iff, hparts, takenParts_eq_iff]
    refine and_congr_right fun hbits => ?_
    have hmillisecond := (parts_eq_takenParts_iff.1 hparts).2.2.2.2
    have hlast : args.getD 6 0 ∈ (givenParts args).tail := by simp [givenParts, List.range_succ]
    have hword : (twoTo 32 : Int) = 4294967296 := rfl
    have hfits := hbits _ hlast
    rw [hword] at hfits hmillisecond
    rw [TimeOfDay.isLeap_eq_false_iff]
    omega

theorem construct_parts_iff_leap :
    let args : List Int64 := [2016, 12, 31, 23, 59, 59, 1500]
    let vs : List Value := args.map .int
    HostType.dateTime.underlying = .dateTime ∧ vs.mapM Value.asInt? = some args ∧
    (args.length = 3 ∨ args.length = 6 ∨ args.length = 7) ∧
    (((∀ t : DateTime, t.parts ≠ takenParts args) ∧
      constructValue? .dateTime [] vs =
        some (.error (.invalidArgument (.inNew .dateTime .dateTimeRange)))) ∨
    ∃ t : DateTime, t.parts = takenParts args ∧
      constructValue? .dateTime [] vs = some (.ok (.dateTime t)) ∧
      (DateTime.partNames.mapM (Value.dateTime t).readMember = .ok ((givenParts args).map .int) ∧
          (args.getD 6 0).toInt < 1000 ↔
        (∀ n ∈ (givenParts args).tail, 0 ≤ n.toInt ∧ n.toInt < twoTo 32) ∧
          t.time.isLeap = false)) := by
  intro args vs
  exact ⟨rfl, rfl, by decide, construct_parts_iff [] rfl rfl (by decide)⟩

/-- The first moment of the 4th of July 1996. -/
def fourthOfJuly : DateTime := ⟨⟨728843, by decide, by decide⟩, TimeOfDay.midnight⟩

/-- Month 4294967303 of a year is July. -/
theorem not_construct_parts :
    let args : List Int64 := [1996, 4294967303, 4]
    constructValue? .dateTime [] (args.map .int) = some (.ok (.dateTime fourthOfJuly)) ∧
    (Value.dateTime fourthOfJuly).readMember "Month" = .ok (.int 7) ∧
    ¬ DateTime.partNames.mapM (Value.dateTime fourthOfJuly).readMember =
      .ok ((givenParts args).map .int) := by
  intro args
  have hargs : (args.map Value.int).mapM Value.asInt? = some args := rfl
  have hmade : dateTimeOfParts? args = some fourthOfJuly := by decide
  refine ⟨?_, rfl, ?_⟩
  · rw [constructValue?_dateTime [] rfl hargs (by decide), hmade]
  · rw [DateTime.mapM_readMember_eq_iff]
    decide

end QueryClause
