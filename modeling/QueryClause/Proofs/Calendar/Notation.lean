import QueryClause.Calendar.Notation
import QueryClause.Proofs.Calendar.DateTime
import QueryClause.Proofs.Text.Integer

/-!
# Instants read back

A number with zeros in front reads back in front of any text that does not go on with a digit, or of
any text at all where it fills the width asked for (`Calendar.number?_run`).  So each piece of a
pattern reads back what was written for it, and a date and a time of day do, in front of any rest
and whether or not blanks are allowed between their parts (`Calendar.readAll?_date`,
`Calendar.readAll?_clock`).

The exact form of an instant reads back as that instant (`DateTime.ofIso?_isoText`), and the plain
form as the instant without what is less than a millisecond (`DateTime.parse?_text`), in any year
and also in a leap second.
-/

namespace QueryClause

namespace Calendar

open Text

/-! ### Pieces -/

variable {f g : Fields} {s t rest : List Char} {ps : List Piece}

theorem number?_run {width : Nat} {ds : List Char} (hne : ds ≠ [])
    (hdigits : ∀ c ∈ ds, c.isDigit = true) (hle : ds.length ≤ width)
    (hend : ds.length = width ∨ ∀ c, rest.head? = some c → c.isDigit = false) :
    number? width (ds ++ rest) = some (Nat.ofDigitChars 10 ds 0, rest) := by
  have htaken : ((ds ++ rest).take width).takeWhile Char.isDigit = ds := by
    rw [List.take_append, List.take_of_length_le hle]
    apply takeWhile_run hdigits
    intro c hc
    rw [List.head?_take] at hc
    rcases hend with hlength | hrest
    · rw [if_pos (by omega)] at hc
      cases hc
    · split at hc
      · cases hc
      · exact hrest c hc
  rw [number?, htaken, List.drop_left]
  simp [hne]

theorem number?_padded {width places n : Nat} (hle : (padded places n).toList.length ≤ width)
    (hend : (padded places n).toList.length = width ∨
      ∀ c, rest.head? = some c → c.isDigit = false) :
    number? width ((padded places n).toList ++ rest) = some (n, rest) := by
  rw [number?_run padded_ne_nil (fun _ => isDigit_of_mem_toList_padded) hle hend,
    ofDigitChars_padded]

/-- A number that fills the width reads back in front of anything. -/
theorem number?_full {width n : Nat} (hwidth : 0 < width) (h : n < tenTo width)
    (rest : List Char) : number? width ((padded width n).toList ++ rest) = some (n, rest) := by
  have hlength := length_padded hwidth h
  exact number?_padded hlength.le (.inl hlength)

theorem readAll?_cons {p : Piece} (h : p.read? f s = some (g, t)) :
    readAll? f s (p :: ps) = readAll? g t ps := by
  rw [readAll?, h]

theorem read?_number {n : Nat} (store : Fields → Nat → Fields) (h : n < 100) :
    (Piece.number store).read? f ((padded 2 n).toList ++ rest) = some (store f n, rest) := by
  rw [Piece.read?, trimStart_padded, number?_full (by decide) h]
  rfl

theorem read?_mark {c : Char} : (Piece.mark c).read? f (c :: rest) = some (f, rest) :=
  if_pos rfl

theorem read?_blanks (h : trimStart s = s) : Piece.blanks.read? f (' ' :: s) = some (f, s) := by
  rw [Piece.read?, trimStart, List.dropWhile_cons_of_pos (by decide)]
  exact congrArg (fun s => some (f, s)) h

theorem read?_minus (s : List Char) :
    Piece.year.read? f ('-' :: s) =
      (number? s.length s).map fun p => ({ f with year := -1 * p.1 }, p.2) := rfl

theorem read?_plus (s : List Char) :
    Piece.year.read? f ('+' :: s) =
      (number? s.length s).map fun p => ({ f with year := 1 * p.1 }, p.2) := rfl

theorem read?_unsigned {c : Char} (hc : c.isDigit = true) (s : List Char) :
    Piece.year.read? f (c :: s) =
      (number? 4 (c :: s)).map fun p => ({ f with year := 1 * p.1 }, p.2) := by
  have hminus : c ≠ '-' := by rintro rfl; cases hc
  have hplus : c ≠ '+' := by rintro rfl; cases hc
  have htrim : trimStart (c :: s) = c :: s :=
    List.dropWhile_cons_of_neg (by simp [isBlank_of_isDigit hc])
  simp [Piece.read?, htrim, hminus, hplus]

/-- A year reads back in front of its hyphen. -/
theorem read?_year (y : Int) :
    Piece.year.read? f ((yearText y).toList ++ '-' :: rest) =
      some ({ f with year := y }, '-' :: rest) := by
  have hwide : number? ((padded 4 y.natAbs).toList ++ '-' :: rest).length
      ((padded 4 y.natAbs).toList ++ '-' :: rest) = some (y.natAbs, '-' :: rest) := by
    refine number?_padded (by simp) (.inr ?_)
    rintro c ⟨⟩
    rfl
  unfold yearText
  -- a year of four digits has no sign, and any other one has
  by_cases hplain : 0 ≤ y ∧ y ≤ 9999
  · have hy : 1 * (y.natAbs : Int) = y := by omega
    have hlt : y.natAbs < 10000 := by omega
    have hread : number? 4 ((padded 4 y.natAbs).toList ++ '-' :: rest) =
        some (y.natAbs, '-' :: rest) := number?_full (by decide) hlt _
    rw [if_pos (by simpa using hplain)]
    cases hlist : (padded 4 y.natAbs).toList with
    | nil => exact absurd hlist padded_ne_nil
    | cons c cs =>
      have hc : c.isDigit = true := isDigit_of_mem_toList_padded (hlist ▸ List.mem_cons_self)
      rw [hlist, List.cons_append] at hread
      rw [List.cons_append, read?_unsigned hc, hread, Option.map_some, hy]
  · rw [if_neg (by simpa using hplain), String.toList_append, List.append_assoc]
    by_cases hneg : y < 0
    · have hy : -1 * (y.natAbs : Int) = y := by omega
      rw [if_pos hneg, show "-".toList = ['-'] from rfl, List.singleton_append, read?_minus, hwide,
        Option.map_some, hy]
    · have hy : 1 * (y.natAbs : Int) = y := by omega
      rw [if_neg hneg, show "+".toList = ['+'] from rfl, List.singleton_append, read?_plus, hwide,
        Option.map_some, hy]

/-- A fraction of so many places reads back as nanoseconds if they need no more places. -/
theorem read?_fraction {n : Nat} (places : Nat) (hpos : 0 < places) (hle : places ≤ 9)
    (hn : n < tenTo 9) (hplaces : n % tenTo (9 - places) = 0) :
    Piece.fraction.read? f ("." ++ padded places (n / tenTo (9 - places))).toList =
      some ({ f with nanos := n }, []) := by
  have hlt : n / tenTo (9 - places) < tenTo places := by
    apply Nat.div_lt_of_lt_mul
    rwa [← tenTo_add, Nat.sub_add_cancel hle]
  have hlength := length_padded hpos hlt
  -- the reader takes up to nine places, and fills up those that are missing
  have hread : number? 9 (padded places (n / tenTo (9 - places))).toList =
      some (n / tenTo (9 - places), []) := by
    have hall : number? 9 ((padded places (n / tenTo (9 - places))).toList ++ []) =
        some (n / tenTo (9 - places), []) := number?_padded (by omega) (.inr nofun)
    rwa [List.append_nil] at hall
  rw [String.toList_append, show ".".toList = ['.'] from rfl, List.singleton_append, Piece.read?]
  simp only [hread, hlength, Option.map_some, List.length_nil, Nat.sub_zero,
    Nat.div_mul_cancel (Nat.dvd_of_mod_eq_zero hplaces)]
  rfl

/-! ### Dates and times of day -/

variable {gap : List Piece}

/-- A gap may be empty where no blank follows. -/
theorem readAll?_gap (hgap : gap = [] ∨ gap = [.blanks]) (hs : trimStart s = s) :
    readAll? f s (gap ++ ps) = readAll? f s ps := by
  rcases hgap with rfl | rfl
  · rfl
  · exact readAll?_cons (by rw [Piece.read?, hs])

theorem readAll?_date (hgap : gap = [] ∨ gap = [.blanks]) (d : Date) :
    readAll? f (d.text.toList ++ rest) (datePattern gap ++ ps) =
      readAll? { f with year := d.civil.year, month := d.civil.month, day := d.civil.day }
        rest ps := by
  obtain ⟨hmonth, hday⟩ := d.month_day_bounds
  simp only [Date.text, datePattern, String.toList_append, List.append_assoc, List.nil_append,
    show "-".toList = ['-'] from rfl, List.cons_append]
  rw [readAll?_cons (read?_year _), readAll?_gap hgap rfl, readAll?_cons read?_mark,
    readAll?_cons (read?_number _ (by omega)), readAll?_gap hgap rfl, readAll?_cons read?_mark,
    readAll?_cons (read?_number _ (by omega))]

/-- A time of day reads back without its fraction; a leap second is number 60. -/
theorem readAll?_clock (hgap : gap = [] ∨ gap = [.blanks]) (t : TimeOfDay) :
    readAll? f (t.clockText.toList ++ rest) (clockPattern gap ++ ps) =
      readAll? { f with
        hour := t.hour, minute := t.minute, second := t.second + t.nanos / nanosPerSecond }
        rest (.fraction :: ps) := by
  have hseconds := t.seconds_lt
  have hnanos := t.nanos_lt
  have hhour : t.hour < 100 := by rw [TimeOfDay.hour]; omega
  have hminute : t.minute < 100 := by rw [TimeOfDay.minute]; omega
  have hsecond : t.second + t.nanos / nanosPerSecond < 100 := by
    rw [TimeOfDay.second, nanosPerSecond]
    omega
  simp only [TimeOfDay.clockText, clockPattern, String.toList_append, List.append_assoc,
    List.nil_append, show ":".toList = [':'] from rfl, List.cons_append]
  rw [readAll?_cons (read?_number _ hhour), readAll?_gap hgap rfl, readAll?_cons read?_mark,
    readAll?_cons (read?_number _ hminute), readAll?_gap hgap rfl, readAll?_cons read?_mark,
    readAll?_cons (read?_number _ hsecond)]

/-- A fraction of three, six or nine places reads back, and so does the missing one. -/
theorem read?_fractionText (t : TimeOfDay) (hf : f.nanos = 0) :
    Piece.fraction.read? f t.fractionText.toList =
      some ({ f with nanos := t.nanos % nanosPerSecond }, []) := by
  have hlt : t.nanos % nanosPerSecond < tenTo 9 := Nat.mod_lt _ (by decide)
  unfold TimeOfDay.fractionText
  generalize t.nanos % nanosPerSecond = n at hlt ⊢
  by_cases hzero : n = 0
  · rw [if_pos hzero, hzero, ← hf]
    rfl
  rw [if_neg hzero]
  by_cases hmillis : n % 1000000 = 0
  · rw [if_pos hmillis]
    exact read?_fraction 3 (by decide) (by decide) hlt hmillis
  rw [if_neg hmillis]
  by_cases hmicros : n % 1000 = 0
  · rw [if_pos hmicros]
    exact read?_fraction 6 (by decide) (by decide) hlt hmicros
  rw [if_neg hmicros]
  have hnanos := read?_fraction (f := f) 9 (by decide) (by decide) hlt (Nat.mod_one n)
  rwa [show n / tenTo (9 - 9) = n from Nat.div_one n] at hnanos

end Calendar

open Calendar

/-! ### Instants -/

/-- The time without what is less than a millisecond. -/
def TimeOfDay.wholeMillis (t : TimeOfDay) : TimeOfDay where
  seconds := t.seconds
  nanos := t.nanos / 1000000 * 1000000
  seconds_lt := t.seconds_lt
  nanos_lt := by have := t.nanos_lt; omega

namespace DateTime

/-- The instant without what is less than a millisecond. -/
def wholeMillis (t : DateTime) : DateTime := { t with time := t.time.wholeMillis }

/-- The parts that are read for an instant; a leap second is number 60. -/
def fields (t : DateTime) : Fields where
  year := t.date.civil.year
  month := t.date.civil.month
  day := t.date.civil.day
  hour := t.time.hour
  minute := t.time.minute
  second := t.time.second + t.time.nanos / nanosPerSecond
  nanos := t.time.nanos % nanosPerSecond

theorem instant?_fields (t : DateTime) : t.fields.instant? = some t := by
  have hnanos := t.time.nanos_lt
  have hsecond : t.time.second < 60 := Nat.mod_lt _ (by decide)
  have hdate : Date.ofCivil? ⟨t.fields.year, t.fields.month, t.fields.day⟩ = some t.date :=
    Date.ofCivil?_eq_some_iff.2 rfl
  rw [Fields.instant?, hdate]
  by_cases hleap : 1000000000 ≤ t.time.nanos
  · -- a leap second is number 60, and a part of the second before
    have hlast : t.time.second = 59 := (hnanos.resolve_left (by omega)).2
    have hnumber : t.fields.second = 60 := by
      simp only [fields, hlast, nanosPerSecond]
      omega
    have htime : TimeOfDay.ofParts? t.fields.hour t.fields.minute 59
        (nanosPerSecond + t.fields.nanos) = some t.time :=
      TimeOfDay.ofParts?_eq_some_iff.2
        ⟨rfl, rfl, hlast, by simp only [fields, nanosPerSecond]; omega⟩
    simp only [hnumber, if_true, htime]
    rfl
  · have hnumber : t.fields.second = t.time.second := by
      simp only [fields, nanosPerSecond]
      omega
    have htime : TimeOfDay.ofParts? t.fields.hour t.fields.minute t.time.second t.fields.nanos =
        some t.time :=
      TimeOfDay.ofParts?_eq_some_iff.2
        ⟨rfl, rfl, rfl, by simp only [fields, nanosPerSecond]; omega⟩
    simp only [hnumber, if_neg (Nat.ne_of_lt hsecond), htime]
    rfl

theorem trimStart_clock (t : TimeOfDay) (rest : List Char) :
    Text.trimStart (t.clockText.toList ++ rest) = t.clockText.toList ++ rest := by
  simp only [TimeOfDay.clockText, String.toList_append, List.append_assoc]
  exact Text.trimStart_padded 2 t.hour _

/-- The plain form reads back by the first pattern. -/
theorem read?_text (t : DateTime) :
    read? (datePattern [] ++ [.blanks] ++ clockPattern []) t.text = some t.wholeMillis := by
  have hfields : readAll? {} t.text.toList (datePattern [] ++ [.blanks] ++ clockPattern []) =
      some t.wholeMillis.fields := by
    -- the leap second stays, and the fraction is cut to three places
    have hsecond : t.time.second + t.time.nanos / nanosPerSecond =
        t.wholeMillis.fields.second := by
      simp only [fields, wholeMillis, TimeOfDay.wholeMillis, TimeOfDay.second, nanosPerSecond]
      omega
    have hnanos : t.wholeMillis.fields.nanos = t.time.nanos / 1000000 % 1000 * 1000000 := by
      simp only [fields, wholeMillis, TimeOfDay.wholeMillis, nanosPerSecond]
      omega
    rw [text, List.append_assoc, String.toList_append, String.toList_append, String.toList_append,
      List.append_assoc, List.append_assoc, readAll?_date (.inl rfl),
      show " ".toList = [' '] from rfl, List.singleton_append, List.singleton_append,
      readAll?_cons (read?_blanks (trimStart_clock _ _)), ← List.append_nil (clockPattern []),
      readAll?_clock (.inl rfl), hsecond]
    by_cases hmillis : t.time.nanos / 1000000 = 0
    · -- no fraction is written
      have hzero : t.wholeMillis.fields = { t.wholeMillis.fields with nanos := 0 } := by
        rw [Fields.mk.injEq, hnanos, hmillis]
        simp
      rw [if_pos hmillis, hzero]
      rfl
    · have hlt : t.wholeMillis.fields.nanos < tenTo 9 := Nat.mod_lt _ (by decide)
      have hplaces : t.wholeMillis.fields.nanos % tenTo (9 - 3) = 0 := by
        rw [hnanos]
        exact Nat.mul_mod_left _ _
      have hdigits : t.time.nanos / 1000000 % 1000 =
          t.wholeMillis.fields.nanos / tenTo (9 - 3) := by
        rw [hnanos]
        exact (Nat.mul_div_cancel _ (by decide)).symm
      rw [if_neg hmillis, hdigits,
        readAll?_cons (read?_fraction 3 (by decide) (by decide) hlt hplaces)]
      rfl
  rw [read?, hfields, Option.bind_some, instant?_fields]

theorem parse?_text (t : DateTime) : parse? t.text = some t.wholeMillis := by
  rw [parse?, read?_text, Option.some_or]

/-- The exact form reads back exactly. -/
theorem ofIso?_isoText (t : DateTime) : ofIso? t.isoText = some t := by
  have hfields {gap : List Piece} (hgap : gap = [] ∨ gap = [.blanks]) :
      readAll? {} t.isoText.toList
        (datePattern gap ++ gap ++ [.mark 'T'] ++ clockPattern gap ++ gap) = some t.fields := by
    simp only [isoText, String.toList_append, List.append_assoc, show "T".toList = ['T'] from rfl,
      List.cons_append, List.nil_append]
    rw [readAll?_date hgap, readAll?_gap hgap rfl, readAll?_cons read?_mark, readAll?_clock hgap,
      readAll?_cons (read?_fractionText t.time rfl), ← List.append_nil gap, readAll?_gap hgap rfl]
    rfl
  rw [ofIso?, read?, hfields (.inr rfl), Option.bind_some, instant?_fields]

end DateTime

end QueryClause
