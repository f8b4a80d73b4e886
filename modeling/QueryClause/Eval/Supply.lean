import QueryClause.Guid

/-!
# Supplies of new identifiers

A `Supply` stands for the source of new identifiers.  `Supply.run` runs a computation on it.
-/

namespace QueryClause

/-- The new identifiers that are still to come, in the order in which they are drawn. -/
structure Supply where
  guid : Nat → Guid

namespace Supply

/-- What is left after some identifiers. -/
def drop (s : Supply) (count : Nat) : Supply := ⟨fun i => s.guid (i + count)⟩

/-- Draw an identifier. -/
def next : StateM Supply Guid := fun s => (s.guid 0, s.drop 1)

/-- The result of a computation that may fail, and what it leaves of the supply, in any case. -/
def run {ε α : Type} (s : Supply) (x : ExceptT ε (StateM Supply) α) : Except ε α × Supply :=
  StateT.run (ExceptT.run x) s

variable {ε α β : Type} {s s' : Supply} {x : ExceptT ε (StateM Supply) α} {a : α} {e : ε}

theorem run_bind_ok {f : α → ExceptT ε (StateM Supply) β} (h : s.run x = (.ok a, s')) :
    s.run (x >>= f) = s'.run (f a) := by
  rw [run] at h
  rw [run, ExceptT.run_bind, StateT.run_bind, h]
  rfl

theorem run_bind_error {f : α → ExceptT ε (StateM Supply) β} (h : s.run x = (.error e, s')) :
    s.run (x >>= f) = (.error e, s') := by
  rw [run] at h
  rw [run, ExceptT.run_bind, StateT.run_bind, h]
  rfl

theorem run_map_ok {f : α → β} (h : s.run x = (.ok a, s')) : s.run (f <$> x) = (.ok (f a), s') := by
  rw [run] at h
  rw [run, ExceptT.run_map, StateT.run_map, h]
  rfl

theorem run_adapt_ok {δ : Type} {r : ε → δ} (h : s.run x = (.ok a, s')) :
    s.run (x.adapt r) = (.ok a, s') := by
  rw [run] at h
  rw [run, ExceptT.run_adapt, StateT.run_map, h]
  rfl

theorem run_tryCatch_ok {f : ε → ExceptT ε (StateM Supply) α} (h : s.run x = (.ok a, s')) :
    s.run (tryCatch x f) = (.ok a, s') := by
  rw [run] at h
  rw [run, ExceptT.run_tryCatch, StateT.run_bind, h]
  rfl

theorem run_tryCatch_error {f : ε → ExceptT ε (StateM Supply) α} (h : s.run x = (.error e, s')) :
    s.run (tryCatch x f) = s'.run (f e) := by
  rw [run] at h
  rw [run, ExceptT.run_tryCatch, StateT.run_bind, h]
  rfl

end Supply

end QueryClause
