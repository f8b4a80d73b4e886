import Mathlib.Data.List.Basic

/-!
# Results that may fail

When a chain of results succeeds, and how a list of them depends on its items.

`Except.Avoids` says that a result is none of some failures.  `Except.Limited` compares a result
that was computed under a limit with one under a higher limit: the limit left room and did not
matter, or it is why there is no result.
-/

namespace Except

variable {α β ε : Type}

theorem bind_eq_ok_iff {x : Except ε α} {f : α → Except ε β} {b : β} :
    (x >>= f) = .ok b ↔ ∃ a, x = .ok a ∧ f a = .ok b := by
  cases x with
  | error e => simp [bind, Except.bind]
  | ok a => simp [bind, Except.bind]

theorem map_eq_ok_iff {x : Except ε α} {f : α → β} {b : β} :
    x.map f = .ok b ↔ ∃ a, x = .ok a ∧ f a = b := by
  cases x with
  | error e => simp [Except.map]
  | ok a => simp [Except.map]

theorem eq_ok_of_toOption {x : Except ε α} {a : α} (h : x.toOption = some a) : x = .ok a := by
  cases x with
  | error e => cases h
  | ok b => cases h; rfl

variable {f g : α → Except ε β} {l : List α}

theorem mapM_congr_mem (h : ∀ a ∈ l, f a = g a) : l.mapM f = l.mapM g := by
  induction l with
  | nil => rfl
  | cons a rest ih =>
    rw [List.mapM_cons, List.mapM_cons, h a List.mem_cons_self,
      ih fun b hb => h b (List.mem_cons_of_mem _ hb)]

/-- If each item gives the result of `g` or the failure `E`, so does the list. -/
theorem mapM_eq_or {E : ε} (h : ∀ a ∈ l, f a = g a ∨ f a = .error E) :
    l.mapM f = l.mapM g ∨ l.mapM f = .error E := by
  induction l with
  | nil => exact .inl rfl
  | cons a rest ih =>
    rw [List.mapM_cons, List.mapM_cons]
    rcases h a List.mem_cons_self with ha | ha
    · rcases ih fun b hb => h b (List.mem_cons_of_mem _ hb) with hr | hr
      · rw [ha, hr]; exact .inl rfl
      · rw [ha, hr]
        cases g a with
        | error e => exact .inl rfl
        | ok b => exact .inr rfl
    · rw [ha]; exact .inr rfl

/-- A list of results that succeeds has only items that succeed. -/
theorem exists_of_mapM_ok {r : List β} (h : l.mapM f = .ok r) : ∀ a ∈ l, ∃ b, f a = .ok b := by
  induction l generalizing r with
  | nil => intro a ha; cases ha
  | cons a rest ih =>
    rw [List.mapM_cons] at h
    obtain ⟨b, hb, h⟩ := bind_eq_ok_iff.1 h
    obtain ⟨bs, hbs, -⟩ := bind_eq_ok_iff.1 h
    intro x hx
    rcases List.mem_cons.1 hx with rfl | hx
    · exact ⟨b, hb⟩
    · exact ih hbs x hx

/-! ### Results in a run -/

section Runs

variable {δ : Type} {n : Type → Type} [Monad n] [LawfulMonad n]

/-- A run that recovers from a result without effects recovers as one does outside a run. -/
theorem tryCatch_liftM (x : Except ε α) (h : ε → Except ε α) :
    tryCatch (liftM x : ExceptT ε n α) (fun e => liftM (h e)) = liftM (tryCatch x h) := by
  cases x with
  | ok a => exact pure_bind (m := n) _ _
  | error e => exact pure_bind (m := n) _ _

theorem adapt_pure (r : ε → δ) (a : α) : (pure a : ExceptT ε n α).adapt r = pure a :=
  map_pure _ _

theorem adapt_liftM (r : ε → δ) (x : Except ε α) :
    (liftM x : ExceptT ε n α).adapt r = liftM (x.mapError r) :=
  map_pure _ _

theorem adapt_bind (r : ε → δ) (x : ExceptT ε n α) (k : α → ExceptT ε n β) :
    (x >>= k).adapt r = x.adapt r >>= fun a => (k a).adapt r := by
  apply ExceptT.ext
  rw [ExceptT.run_adapt, ExceptT.run_bind, ExceptT.run_bind, ExceptT.run_adapt, map_bind,
    bind_map_left]
  refine congrArg (x.run >>= ·) (funext fun y => ?_)
  cases y with
  | ok a => rfl
  | error e => exact map_pure _ _

end Runs

/-! ### Failures that do not occur -/

variable {ι : Type} {failure : ι → ε}

/-- The result is none of some failures. -/
def Avoids (failure : ι → ε) (x : Except ε α) : Prop := ∀ i, x ≠ .error (failure i)

@[simp] theorem avoids_ok (a : α) : (ok a : Except ε α).Avoids failure := fun _ h => by cases h

@[simp] theorem avoids_pure (a : α) : (pure a : Except ε α).Avoids failure := avoids_ok a

@[simp] theorem avoids_error_iff {e : ε} :
    (error e : Except ε α).Avoids failure ↔ ∀ i, e ≠ failure i := by
  simp [Avoids]

@[simp] theorem avoids_throw_iff {e : ε} :
    (throw e : Except ε α).Avoids failure ↔ ∀ i, e ≠ failure i := avoids_error_iff

@[simp] theorem avoids_bind_iff {x : Except ε α} {f : α → Except ε β} :
    (x.bind f).Avoids failure ↔ x.Avoids failure ∧ ∀ a, x = .ok a → (f a).Avoids failure := by
  cases x <;> simp [Except.bind]

@[simp] theorem avoids_monad_bind_iff {x : Except ε α} {f : α → Except ε β} :
    (x >>= f).Avoids failure ↔ x.Avoids failure ∧ ∀ a, x = .ok a → (f a).Avoids failure :=
  avoids_bind_iff

@[simp] theorem avoids_map_iff {x : Except ε α} {f : α → β} :
    (x.map f).Avoids failure ↔ x.Avoids failure := by
  cases x <;> simp [Except.map]

@[simp] theorem avoids_monad_map_iff {x : Except ε α} {f : α → β} :
    (f <$> x).Avoids failure ↔ x.Avoids failure := avoids_map_iff

/-! ### Results under a limit -/

/-- The result `x` under the limit `i` is no failure of a limit and the same as `y`, or the limit
was too low, which is why it fails. -/
def Limited (failure : ι → ε) (i : ι) (low : Prop) (x y : Except ε α) : Prop :=
  x.Avoids failure ∧ x = y ∨ low ∧ x = .error (failure i)

namespace Limited

variable {i : ι} {low : Prop} {x y : Except ε α}

theorem of_avoids (h : x.Avoids failure) : Limited failure i low x x := .inl ⟨h, rfl⟩

theorem mono {low' : Prop} (h : Limited failure i low x y) (hlow : low → low') :
    Limited failure i low' x y :=
  h.imp_right fun h => ⟨hlow h.1, h.2⟩

theorem ite {p : Prop} [Decidable p] {x' y' : Except ε α} (h : p → Limited failure i low x y)
    (h' : ¬ p → Limited failure i low x' y') :
    Limited failure i low (if p then x else x') (if p then y else y') := by
  split
  · exact h ‹_›
  · exact h' ‹_›

theorem bind {f g : α → Except ε β} (h : Limited failure i low x y)
    (hf : ∀ a, Limited failure i low (f a) (g a)) :
    Limited failure i low (x >>= f) (y >>= g) := by
  rcases h with ⟨havoid, rfl⟩ | ⟨hlow, rfl⟩
  · cases x with
    | ok a => exact hf a
    | error e => exact of_avoids (avoids_error_iff.2 (avoids_error_iff.1 havoid))
  · exact .inr ⟨hlow, rfl⟩

theorem map {f : α → β} (h : Limited failure i low x y) :
    Limited failure i low (x.map f) (y.map f) := by
  rcases h with ⟨havoid, rfl⟩ | ⟨hlow, rfl⟩
  · exact of_avoids (avoids_map_iff.2 havoid)
  · exact .inr ⟨hlow, rfl⟩

theorem mapM {f g : α → Except ε β} {l : List α}
    (h : ∀ a ∈ l, Limited failure i low (f a) (g a)) :
    Limited failure i low (l.mapM f) (l.mapM g) := by
  induction l with
  | nil => exact of_avoids (avoids_ok _)
  | cons a rest ih =>
    rw [List.mapM_cons, List.mapM_cons]
    refine (h a List.mem_cons_self).bind fun b => ?_
    exact (ih fun a ha => h a (List.mem_cons_of_mem _ ha)).bind fun bs => of_avoids (avoids_ok _)

/-- What is not the failure of a limit does not change under a higher one. -/
theorem eq (h : Limited failure i low x y) (hx : x.Avoids failure) : x = y := by
  rcases h with ⟨-, h⟩ | ⟨-, h⟩
  · exact h
  · exact absurd h (hx i)

/-- Under a limit that is not too low, no limit fails. -/
theorem avoids (h : Limited failure i low x y) (hlow : ¬ low) : x.Avoids failure := by
  rcases h with ⟨h, -⟩ | ⟨h, -⟩
  · exact h
  · exact absurd h hlow

end Limited

end Except

namespace Option

variable {α ε ι : Type} {failure : ι → ε}

/-- The answer, if there is one, is a result that is none of some failures. -/
def Avoids (failure : ι → ε) (o : Option (Except ε α)) : Prop := ∀ r ∈ o, r.Avoids failure

@[simp] theorem avoids_none : (none : Option (Except ε α)).Avoids failure := fun _ h => by cases h

@[simp] theorem avoids_some_iff {r : Except ε α} :
    (some r).Avoids failure ↔ r.Avoids failure := by
  simp [Avoids]

@[simp] theorem avoids_map_iff {β : Type} {o : Option β} {f : β → Except ε α} :
    (o.map f).Avoids failure ↔ ∀ b ∈ o, (f b).Avoids failure := by
  cases o <;> simp

theorem Avoids.getD {o : Option (Except ε α)} {r : Except ε α} (ho : o.Avoids failure)
    (hr : r.Avoids failure) : (o.getD r).Avoids failure := by
  cases o with
  | none => exact hr
  | some x => exact ho x rfl

end Option
