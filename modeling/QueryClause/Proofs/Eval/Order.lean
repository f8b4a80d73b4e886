import QueryClause.Eval.Method
import QueryClause.Proofs.Eval.Compare

/-!
# Coherence of equality and order

On values without floats, equality is an equivalence, and the order, where there is one, is
transitive, turns around with its operands and is that of equals exactly for equal values
(`equality_order_coherent`).  So the operators and methods that look at it agree with each other
(`Agreement`).
-/

namespace QueryClause

namespace Value

variable {a b c : Value} {o p : Ordering}

/-- Two values that have an order have ranks of one kind. -/
theorem ranks_of_compare? (ha : a.FloatFree) (hb : b.FloatFree) (h : a.compare? b = some o) :
    ∃ r s, a.rank? = some r ∧ b.rank? = some s ∧ r.compare? s = some o := by
  rw [compare?_eq ha hb, Option.bind_eq_some_iff] at h
  obtain ⟨r, hr, h⟩ := h
  obtain ⟨s, hs, h⟩ := Option.bind_eq_some_iff.1 h
  exact ⟨r, s, hr, hs, h⟩

theorem compare?_of_ranks {r s : Rank} (ha : a.FloatFree) (hb : b.FloatFree)
    (hr : a.rank? = some r) (hs : b.rank? = some s) : a.compare? b = r.compare? s := by
  rw [compare?_eq ha hb, hr, hs]
  rfl

theorem compare?_swap (ha : a.FloatFree) (hb : b.FloatFree) (h : a.compare? b = some o) :
    b.compare? a = some o.swap := by
  obtain ⟨r, s, hr, hs, hplaces⟩ := ranks_of_compare? ha hb h
  rw [compare?_of_ranks hb ha hs hr]
  exact Rank.compare?_swap hplaces

theorem compare?_trans (ha : a.FloatFree) (hb : b.FloatFree) (hc : c.FloatFree)
    (h : a.compare? b = some o) (h' : b.compare? c = some p) :
    ∃ q, a.compare? c = some q ∧ (o.isLE = true → p.isLE = true → q = o.then p) ∧
      (o.isGE = true → p.isGE = true → q = o.then p) := by
  obtain ⟨r, s, hr, hs, hplaces⟩ := ranks_of_compare? ha hb h
  obtain ⟨s', t, hs', ht, hplaces'⟩ := ranks_of_compare? hb hc h'
  obtain rfl : s = s' := Option.some.inj (hs.symm.trans hs')
  rw [compare?_of_ranks ha hc hr ht]
  exact Rank.compare?_trans hplaces hplaces'

theorem compare?_eq_iff (ha : a.FloatFree) (hb : b.FloatFree) (h : a.compare? b = some o) :
    o = .eq ↔ a.equals b = true := by
  obtain ⟨r, s, hr, hs, -⟩ := ranks_of_compare? ha hb h
  rw [equals_ranked hr hs, h, Option.some.injEq]

theorem isNull_of_rank? {r : Rank} (h : a.rank? = some r) : a.isNull = false := by
  cases a <;> cases h <;> rfl

theorem compare?_self (ha : a.FloatFree) {r : Rank} (hr : a.rank? = some r) :
    a.compare? a = some .eq := by
  rw [compare?_of_ranks ha ha hr hr]
  exact Rank.compare?_eq_some_eq.2 rfl

end Value

open Value BinaryOp

variable {a b c : Value} {o : Ordering}

/-! ### Operators and methods -/

theorem BinaryOp.applyOrder_eq (op : BinaryOp) (ha : a.FloatFree) (hb : b.FloatFree)
    (h : a.compare? b = some o) : op.applyOrder a b = .ok (.bool (op.accepts o)) := by
  obtain ⟨r, s, hr, hs, -⟩ := ranks_of_compare? ha hb h
  rw [applyOrder, isNull_of_rank? hr, isNull_of_rank? hs, h]
  rfl

theorem lessThanOrEqual_of_ne_gt (ha : a.FloatFree) (hb : b.FloatFree)
    (h : a.compare? b = some o) (ho : o ≠ .gt) :
    lessThanOrEqual.apply a b = .ok (.bool true) := by
  refine (applyOrder_eq lessThanOrEqual ha hb h).trans ?_
  rw [accepts, bne_iff_ne.2 ho]

theorem lessThanOrEqual_self (ha : a.FloatFree) {r : Rank} (hr : a.rank? = some r) :
    lessThanOrEqual.apply a a = .ok (.bool true) :=
  lessThanOrEqual_of_ne_gt ha ha (compare?_self ha hr) nofun

theorem callMethod?_value (fresh : Guid) (owner : HostType) {r : Rank} (ha : a.rank? = some r)
    (method : String) (args : List Value) :
    callMethod? fresh owner (some a) method args = valueMethod? a method args := by
  cases a <;> cases ha <;> rfl

theorem callMethod?_max {fresh : Guid} {owner : HostType} (howner : owner.text = "Math")
    (h : a.compare? b = some o) :
    callMethod? fresh owner none "Max" [a, b] = some (.ok (if o = .lt then b else a)) := by
  simp [callMethod?, typeMethod?, howner, mathMethod?, h]

theorem callMethod?_min {fresh : Guid} {owner : HostType} (howner : owner.text = "Math")
    (h : a.compare? b = some o) :
    callMethod? fresh owner none "Min" [a, b] = some (.ok (if o = .lt then a else b)) := by
  simp [callMethod?, typeMethod?, howner, mathMethod?, h]

/-- What looks at the order of two values agrees with equality and with each other. -/
structure Agreement (fresh : Guid) (a b : Value) : Prop where
  /-- Of less, equal and greater, one is true and the others are false. -/
  trichotomy : ∃ less same greater : Bool,
    lessThan.apply a b = .ok (.bool less) ∧ equal.apply a b = .ok (.bool same) ∧
      greaterThan.apply a b = .ok (.bool greater) ∧ [less, same, greater].count true = 1
  negation : ∃ greater : Bool, greaterThan.apply a b = .ok (.bool greater) ∧
    lessThanOrEqual.apply a b = .ok (.bool !greater)
  methods (owner : HostType) : ∃ (n : Int64) (same : Bool),
    callMethod? fresh owner (some a) "CompareTo" [b] = some (.ok (.int n)) ∧
      callMethod? fresh owner (some a) "Equals" [b] = some (.ok (.bool same)) ∧
      (n = 0 ↔ same = true)
  max (owner : HostType) (howner : owner.text = "Math") : ∃ m ∈ [a, b],
    callMethod? fresh owner none "Max" [a, b] = some (.ok m) ∧
      lessThanOrEqual.apply a m = .ok (.bool true) ∧ lessThanOrEqual.apply b m = .ok (.bool true)
  min (owner : HostType) (howner : owner.text = "Math") : ∃ m ∈ [a, b],
    callMethod? fresh owner none "Min" [a, b] = some (.ok m) ∧
      lessThanOrEqual.apply m a = .ok (.bool true) ∧ lessThanOrEqual.apply m b = .ok (.bool true)

theorem agreement (fresh : Guid) (ha : a.FloatFree) (hb : b.FloatFree)
    (h : a.compare? b = some o) : Agreement fresh a b := by
  obtain ⟨r, s, hr, hs, -⟩ := ranks_of_compare? ha hb h
  -- the order of the two values decides everything that is asked of them
  have hequals : a.equals b = (o == .eq) := by
    rw [Bool.eq_iff_iff, ← compare?_eq_iff ha hb h, beq_iff_eq]
  have hself := lessThanOrEqual_self ha hr
  have hself' := lessThanOrEqual_self hb hs
  -- the two inequalities that a maximum and a minimum need
  have hle (ho : o = .lt) : lessThanOrEqual.apply a b = .ok (.bool true) :=
    lessThanOrEqual_of_ne_gt ha hb h (by rw [ho]; nofun)
  have hge (ho : o ≠ .lt) : lessThanOrEqual.apply b a = .ok (.bool true) := by
    refine lessThanOrEqual_of_ne_gt hb ha (compare?_swap ha hb h) ?_
    cases o <;> simp at ho ⊢
  constructor
  case trichotomy =>
    refine ⟨_, _, _, applyOrder_eq lessThan ha hb h, rfl, applyOrder_eq greaterThan ha hb h, ?_⟩
    rw [hequals]
    cases o <;> rfl
  case negation =>
    refine ⟨_, applyOrder_eq greaterThan ha hb h, ?_⟩
    refine (applyOrder_eq lessThanOrEqual ha hb h).trans ?_
    cases o <;> rfl
  case methods =>
    intro owner
    refine ⟨orderNumber o, a.equals b, ?_, ?_, ?_⟩
    · rw [callMethod?_value fresh owner hr, valueMethod?, h]
    · rw [callMethod?_value fresh owner hr, valueMethod?]
    · rw [hequals]
      cases o <;> decide
  case max =>
    intro owner howner
    rw [callMethod?_max howner h]
    by_cases ho : o = .lt
    · exact ⟨b, by simp, by rw [if_pos ho], hle ho, hself'⟩
    · exact ⟨a, by simp, by rw [if_neg ho], hself, hge ho⟩
  case min =>
    intro owner howner
    rw [callMethod?_min howner h]
    by_cases ho : o = .lt
    · exact ⟨a, by simp, by rw [if_pos ho], hself, hle ho⟩
    · exact ⟨b, by simp, by rw [if_neg ho], hge ho, hself'⟩

/-- **Equality and order are coherent.**  Equality is reflexive, symmetric and transitive.  The
order of two values, where they have one, is the opposite one the other way round, is that of equals
if and only if the values are equal, and is transitive; and what looks at it agrees. -/
theorem equality_order_coherent (fresh : Guid) (ha : a.FloatFree) (hb : b.FloatFree)
    (hc : c.FloatFree) :
    (a.equals a = true ∧ (a.equals b = true → b.equals a = true) ∧
      (a.equals b = true → b.equals c = true → a.equals c = true)) ∧
    ∀ o, a.compare? b = some o →
      b.compare? a = some o.swap ∧ (o = .eq ↔ a.equals b = true) ∧
      (∀ p, b.compare? c = some p → ∃ q, a.compare? c = some q ∧
        (o.isLE = true → p.isLE = true → q = o.then p) ∧
        (o.isGE = true → p.isGE = true → q = o.then p)) ∧
      Agreement fresh a b := by
  rw [equals_iff a a ha ha, equals_iff a b ha hb, equals_iff b a hb ha, equals_iff b c hb hc,
    equals_iff a c ha hc]
  refine ⟨⟨rfl, Eq.symm, Eq.trans⟩, fun o h => ⟨compare?_swap ha hb h, ?_, fun p h' =>
    compare?_trans ha hb hc h h', agreement fresh ha hb h⟩⟩
  rw [compare?_eq_iff ha hb h, equals_iff a b ha hb]

/-- The number 49.5, as a decimal. -/
def fortyNineAndHalf : Decimal := ⟨false, 495, 1, by decide, by decide⟩

theorem equality_order_coherent_mixed :
    (Value.int 48).FloatFree ∧ (Value.char '1').FloatFree ∧
    (Value.decimal fortyNineAndHalf).FloatFree ∧
    (Value.int 48).compare? (.char '1') = some .lt ∧
    (Value.char '1').compare? (.decimal fortyNineAndHalf) = some .lt ∧
    (Value.int 48).compare? (.decimal fortyNineAndHalf) = some .lt ∧
    Agreement .nil (.int 48) (.char '1') := by
  have hint : (Value.int 48).FloatFree := by simp [FloatFree, NoFloat, leaves]
  have hchar : (Value.char '1').FloatFree := by simp [FloatFree, NoFloat, leaves]
  have hdecimal : (Value.decimal fortyNineAndHalf).FloatFree := by simp [FloatFree, NoFloat, leaves]
  have hfirst : (Value.int 48).compare? (.char '1') = some .lt := by decide
  have hsecond : (Value.char '1').compare? (.decimal fortyNineAndHalf) = some .lt := by
    decide
  obtain ⟨-, -, htrans, hagree⟩ :=
    (equality_order_coherent .nil hint hchar hdecimal).2 .lt hfirst
  obtain ⟨q, hthird, hlt, -⟩ := htrans .lt hsecond
  rw [hlt rfl rfl] at hthird
  exact ⟨hint, hchar, hdecimal, hfirst, hsecond, hthird, hagree⟩

end QueryClause
