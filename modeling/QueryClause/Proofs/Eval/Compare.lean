import QueryClause.Eval.Operate
import QueryClause.Proofs.Calendar.DateTime
import QueryClause.Proofs.Calendar.TimeSpan
import QueryClause.Proofs.Host.Value

/-!
# What equality and order look at

A value that has an order has a `Rank`: its kind, and its place among the values of the kind.  Each
kind is ordered by a lawful comparison, and of two values without floats the ranks are compared
(`Value.compare?_eq`); integers, enumeration constants, characters and decimals are of one kind and
are placed by the number they stand for.

Two values without floats are equal if and only if they have the same `Value.Form`
(`Value.equals_iff`): the rank where there is one, item by item for a list, and the parts for null
and the objects.
-/

namespace QueryClause

open Std

/-! ### The orders of the kinds -/

instance : TransCmp TimeOfDay.compare :=
  inferInstanceAs (TransCmp (compareLex (compareOn TimeOfDay.seconds) (compareOn TimeOfDay.nanos)))

instance : LawfulEqCmp TimeOfDay.compare where
  eq_of_compare {s t} h := by
    have h' : s.seconds = t.seconds ∧ s.nanos = t.nanos := by
      simpa only [TimeOfDay.compare, Ordering.then_eq_eq, LawfulEqOrd.compare_eq_iff_eq] using h
    cases s
    cases t
    simpa using h'

instance : TransCmp (fun s t : DateTime => s.time.compare t.time) where
  eq_swap := OrientedCmp.eq_swap
  isLE_trans := TransCmp.isLE_trans

instance : TransCmp DateTime.compare :=
  inferInstanceAs (TransCmp (compareLex (compareOn fun t : DateTime => t.date.number)
    (fun s t => s.time.compare t.time)))

instance : LawfulEqCmp DateTime.compare where
  eq_of_compare {s t} h := by
    have h' : s.date.number = t.date.number ∧ s.time = t.time := by
      simpa only [DateTime.compare, Ordering.then_eq_eq, LawfulEqOrd.compare_eq_iff_eq,
        LawfulEqCmp.compare_eq_iff_eq] using h
    obtain ⟨⟨d, _, _⟩, a⟩ := s
    obtain ⟨⟨e, _, _⟩, b⟩ := t
    simpa using h'

instance : TransCmp Guid.compare :=
  inferInstanceAs (TransCmp (compareOn fun g : Guid => g.bits.toNat))

instance : LawfulEqCmp Guid.compare where
  eq_of_compare {g h} heq := by
    have hbits : g.bits = h.bits := BitVec.eq_of_toNat_eq (LawfulEqOrd.eq_of_compare heq)
    cases g
    cases h
    exact congrArg Guid.mk hbits

/-- The order of spans. -/
def TimeSpan.compare (s t : TimeSpan) : Ordering := Ord.compare s.ticks.toInt t.ticks.toInt

instance : TransCmp TimeSpan.compare :=
  inferInstanceAs (TransCmp (compareOn fun s : TimeSpan => s.ticks.toInt))

instance : LawfulEqCmp TimeSpan.compare where
  eq_of_compare h := TimeSpan.ext_toInt (LawfulEqOrd.eq_of_compare h)

/-! ### Ranks -/

/-- The kinds of values that have an order. -/
inductive Kind where
  | truth
  | number
  | text
  | instant
  | span
  | identifier
  deriving DecidableEq

namespace Kind

/-- What the order of a kind looks at. -/
def Place : Kind → Type
  | truth => Bool
  | number => ℚ
  | text => String
  | instant => DateTime
  | span => TimeSpan
  | identifier => Guid

/-- The order of a kind. -/
def compare : (k : Kind) → k.Place → k.Place → Ordering
  | truth => fun a b : Bool => Ord.compare a b
  | number => fun a b : ℚ => Ord.compare a b
  | text => fun a b : String => Ord.compare a b
  | instant => DateTime.compare
  | span => TimeSpan.compare
  | identifier => Guid.compare

instance (k : Kind) : TransCmp k.compare :=
  match k with
  | truth => inferInstanceAs (TransCmp fun a b : Bool => Ord.compare a b)
  | number => inferInstanceAs (TransCmp fun a b : ℚ => Ord.compare a b)
  | text => inferInstanceAs (TransCmp fun a b : String => Ord.compare a b)
  | instant => inferInstanceAs (TransCmp DateTime.compare)
  | span => inferInstanceAs (TransCmp TimeSpan.compare)
  | identifier => inferInstanceAs (TransCmp Guid.compare)

instance (k : Kind) : LawfulEqCmp k.compare :=
  match k with
  | truth => inferInstanceAs (LawfulEqCmp fun a b : Bool => Ord.compare a b)
  | number => inferInstanceAs (LawfulEqCmp fun a b : ℚ => Ord.compare a b)
  | text => inferInstanceAs (LawfulEqCmp fun a b : String => Ord.compare a b)
  | instant => inferInstanceAs (LawfulEqCmp DateTime.compare)
  | span => inferInstanceAs (LawfulEqCmp TimeSpan.compare)
  | identifier => inferInstanceAs (LawfulEqCmp Guid.compare)

end Kind

/-- The kind of a value and its place among the values of the kind. -/
structure Rank where
  kind : Kind
  place : kind.Place

namespace Rank

variable {r s t : Rank} {o p : Ordering}

/-- The order of two ranks of one kind. -/
def compare? : Rank → Rank → Option Ordering
  | ⟨k, x⟩, ⟨l, y⟩ => if h : k = l then some (l.compare (h ▸ x) y) else none

theorem compare?_same (k : Kind) (x y : k.Place) :
    compare? ⟨k, x⟩ ⟨k, y⟩ = some (k.compare x y) := dif_pos rfl

/-- Ranks have an order if they are of one kind. -/
theorem exists_places (h : r.compare? s = some o) :
    ∃ (k : Kind) (x y : k.Place), r = ⟨k, x⟩ ∧ s = ⟨k, y⟩ ∧ k.compare x y = o := by
  obtain ⟨k, x⟩ := r
  obtain ⟨l, y⟩ := s
  by_cases hkind : k = l
  · subst hkind
    rw [compare?_same] at h
    exact ⟨k, x, y, rfl, rfl, Option.some.inj h⟩
  · rw [compare?, dif_neg hkind] at h
    cases h

theorem compare?_swap (h : r.compare? s = some o) : s.compare? r = some o.swap := by
  obtain ⟨k, x, y, rfl, rfl, rfl⟩ := exists_places h
  rw [compare?_same]
  exact congrArg some OrientedCmp.eq_swap

/-- Ranks of one kind with a third one are of one kind, and two steps in one direction are a step in
that direction, a strict one if one of them is. -/
theorem compare?_trans (h : r.compare? s = some o) (h' : s.compare? t = some p) :
    ∃ q, r.compare? t = some q ∧ (o.isLE = true → p.isLE = true → q = o.then p) ∧
      (o.isGE = true → p.isGE = true → q = o.then p) := by
  obtain ⟨k, x, y, rfl, rfl, rfl⟩ := exists_places h
  obtain ⟨l, _, z, heq, rfl, rfl⟩ := exists_places h'
  cases heq
  refine ⟨_, compare?_same k x z, ?_, ?_⟩
  · intro ho hp
    cases hxy : k.compare x y with
    | eq => exact TransCmp.congr_left hxy
    | lt => exact TransCmp.lt_of_lt_of_isLE hxy hp
    | gt => rw [hxy] at ho; cases ho
  · intro ho hp
    cases hxy : k.compare x y with
    | eq => exact TransCmp.congr_left hxy
    | lt => rw [hxy] at ho; cases ho
    | gt => exact TransCmp.gt_of_gt_of_isGE hxy hp

theorem compare?_eq_some_eq : r.compare? s = some .eq ↔ r = s := by
  constructor
  · intro h
    obtain ⟨k, x, y, rfl, rfl, hplaces⟩ := exists_places h
    rw [LawfulEqCmp.eq_of_compare hplaces]
  · rintro rfl
    exact (compare?_same _ _ _).trans (congrArg some ReflCmp.compare_self)

end Rank

/-! ### Values -/

namespace Numeric

/-- What a number stands for; a float is left out. -/
def rational? : Numeric → Option ℚ
  | int n => some n.toInt
  | decimal d => some d.value
  | float _ => none

/-- Numbers are compared by what they stand for. -/
theorem compare?_eq {x y : Numeric} {p q : ℚ} (hx : x.rational? = some p)
    (hy : y.rational? = some q) : x.compare? y = some (Ord.compare p q) := by
  have hcast (m n : Int64) : Ord.compare m.toInt n.toInt = Ord.compare (m.toInt : ℚ) n.toInt :=
    (compare_map Int.cast_strictMono _ _).symm
  cases x <;> cases hx <;> cases y <;> cases hy
  · exact congrArg some (hcast _ _)
  · exact congrArg some ((Decimal.compare_eq _ _).trans (by rw [Decimal.value_ofInt64]))
  · exact congrArg some ((Decimal.compare_eq _ _).trans (by rw [Decimal.value_ofInt64]))
  · exact congrArg some (Decimal.compare_eq _ _)

end Numeric

namespace Value

variable {a b : Value}

/-- The rank of a value that has an order. -/
def rank? : Value → Option Rank
  | bool b => some ⟨.truth, b⟩
  | string s => some ⟨.text, s⟩
  | dateTime t => some ⟨.instant, t⟩
  | timeSpan s => some ⟨.span, s⟩
  | guid g => some ⟨.identifier, g⟩
  | v => ((Numeric.ofValue? v).bind Numeric.rational?).map (Rank.mk .number)

theorem number_of_rank? {q : ℚ} (h : a.rank? = some ⟨.number, q⟩) :
    ∃ x, Numeric.ofValue? a = some x ∧ x.rational? = some q := by
  cases a <;> cases h <;> exact ⟨_, rfl, rfl⟩

theorem compare?_numbers {q r : ℚ} (ha : a.rank? = some ⟨.number, q⟩)
    (hb : b.rank? = some ⟨.number, r⟩) : a.compare? b = some (Ord.compare q r) := by
  obtain ⟨x, hx, hq⟩ := number_of_rank? ha
  obtain ⟨y, hy, hr⟩ := number_of_rank? hb
  rw [← Numeric.compare?_eq hq hr]
  unfold compare?
  split
  case h_6 => rw [hx, hy]; rfl
  all_goals cases hx

/-- Values are compared by their ranks. -/
theorem compare?_eq (ha : a.FloatFree) (hb : b.FloatFree) :
    a.compare? b = a.rank?.bind fun r => b.rank?.bind r.compare? := by
  -- two numbers may be of different representations; of all others, both sides compute
  cases a <;> cases b <;> first
    | rfl
    | exact absurd rfl (ha.ne_float _)
    | exact absurd rfl (hb.ne_float _)
    | exact compare?_numbers rfl rfl

/-! ### Equality -/

theorem equals_ranked {r s : Rank} (ha : a.rank? = some r) (hb : b.rank? = some s) :
    a.equals b = true ↔ a.compare? b = some .eq := by
  cases a <;> cases ha <;> cases b <;> cases hb <;>
    simp [equals, equalsSimple, Numeric.ofValue?, same, compare?, TimeSpan.toInt_ticks_inj]

/-- What equality looks at. -/
inductive Form where
  | ranked (r : Rank)
  | list (items : List Form)
  | other (parts : Value)

mutual

/-- The form of a value. -/
noncomputable def form : Value → Form
  | list items => .list (itemForms items)
  | v => match v.rank? with
    | some r => .ranked r
    | none => .other v.parts

/-- The forms of some items. -/
noncomputable def itemForms : List Value → List Form
  | [] => []
  | v :: rest => form v :: itemForms rest

end

theorem form_ranked {r : Rank} (h : a.rank? = some r) : a.form = .ranked r := by
  cases a <;> cases h <;> rfl

theorem form_unranked (h : a.rank? = none) (hlist : ∀ items, a ≠ list items) :
    a.form = .other a.parts := by
  cases a <;> cases h <;> first
    | rfl
    | exact absurd rfl (hlist _)

theorem form_ne_list (hlist : ∀ items, a ≠ list items) (forms : List Form) :
    a.form ≠ .list forms := by
  cases hr : a.rank? with
  | some r => rw [form_ranked hr]; nofun
  | none => rw [form_unranked hr hlist]; nofun

theorem rank?_parts (a : Value) : a.parts.rank? = a.rank? := by
  cases a with
  | decimal d => exact congrArg (fun q => some (Rank.mk .number q)) (Decimal.value_ofValue d)
  | _ => rfl

theorem parts_ne_list (hlist : ∀ items, a ≠ list items) (items : List Value) :
    a.parts ≠ list items := by
  cases a with
  | list items => exact absurd rfl (hlist items)
  | _ => rintro ⟨⟩

/-- A value with a rank is not equal to one without. -/
theorem not_equals_of_rank? {r : Rank} (ha : a.rank? = some r) (hb : b.rank? = none)
    (hfree : b.FloatFree) : a.equals b = false := by
  cases a <;> cases ha <;> cases b <;> cases hb <;> first
    | rfl
    | exact absurd rfl (hfree.ne_float _)

/-- Null and the objects are equal to what has the same parts. -/
theorem equals_unranked (ha : a.rank? = none) (hlist : ∀ items, a ≠ list items)
    (hfree : a.FloatFree) : a.equals b = a.same b := by
  cases a <;> cases ha <;> first
    | exact absurd rfl (hlist _)
    | exact absurd rfl (hfree.ne_float _)
    | cases b <;> rfl

/-- Equality of all values but lists. -/
theorem equals_iff_of_not_list (hlist : ∀ items, a ≠ list items) (ha : a.FloatFree)
    (hb : b.FloatFree) : a.equals b = true ↔ a.form = b.form := by
  -- ranks decide where both values have one, and a value that has one differs from one without
  cases hr : a.rank? with
  | some r =>
    rw [form_ranked hr]
    cases hs : b.rank? with
    | some s =>
      rw [equals_ranked hr hs, compare?_eq ha hb, hr, hs, form_ranked hs, Form.ranked.injEq]
      exact Rank.compare?_eq_some_eq
    | none =>
      have hform : ∀ s, Form.ranked s ≠ b.form := by
        cases b <;> cases hs <;> rintro s ⟨⟩
      rw [not_equals_of_rank? hr hs hb]
      exact iff_of_false Bool.false_ne_true (hform r)
  | none =>
    rw [equals_unranked hr hlist ha, same_iff a b ha hb, form_unranked hr hlist]
    cases hs : b.rank? with
    | some s =>
      rw [form_ranked hs]
      -- equal parts would have equal ranks
      refine iff_of_false (fun h => ?_) nofun
      rw [← rank?_parts, h, rank?_parts, hs] at hr
      cases hr
    | none =>
      by_cases hlist' : ∃ items, b = list items
      · obtain ⟨items, rfl⟩ := hlist'
        exact iff_of_false (parts_ne_list hlist _) nofun
      · rw [form_unranked hs fun items h => hlist' ⟨items, h⟩, Form.other.injEq]

mutual

/-- Values are equal if they have the same form. -/
theorem equals_iff (a b : Value) (ha : a.FloatFree) (hb : b.FloatFree) :
    a.equals b = true ↔ a.form = b.form := by
  cases a with
  | list as =>
    cases b with
    | list bs => simpa [equals, form] using equalItems_iff as bs ha hb
    | _ => exact iff_of_false (by rintro ⟨⟩) fun h => form_ne_list (by simp) _ h.symm
  | _ => exact equals_iff_of_not_list nofun ha hb

theorem equalItems_iff (as bs : List Value) (ha : NoFloat (itemLeaves as))
    (hb : NoFloat (itemLeaves bs)) : equalItems as bs = true ↔ itemForms as = itemForms bs := by
  cases as with
  | nil => cases bs <;> simp [equalItems, itemForms]
  | cons a as =>
    cases bs with
    | nil => simp [equalItems, itemForms]
    | cons b bs =>
      rw [itemLeaves, noFloat_append] at ha hb
      simp [equalItems, itemForms, equals_iff a b ha.1 hb.1, equalItems_iff as bs ha.2 hb.2]

end

end Value

end QueryClause
