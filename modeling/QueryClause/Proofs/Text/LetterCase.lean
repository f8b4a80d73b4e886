import QueryClause.Text.LetterCase
import Mathlib.Data.List.Basic

/-!
# Characters that letter case leaves alone

Upper case makes letters of letters.  A character that no entry of the case tables leads to
(`Text.isUpperFree`) comes out only where it went in (`Text.eq_of_mem_upperChar`).

Of texts that consist of Latin letters alone, lower case is the lower case of each letter
(`Text.toLower_of_latin`).
-/

namespace QueryClause.Text

/-! ### Upper case -/

/-- Whether no entry of the table for upper case leads to a code point. -/
def isUpperFree (m : Nat) : Bool :=
  upperRuns.all (fun r => decide (r.last + r.shift < m ∨ m < r.first + r.shift)) &&
    upperExpansions.all fun e => !e.2.contains m

variable {c d : Char}

theorem shifted_ne {m n k : Nat} {runs : List CaseRun} (hm : m ≠ 0)
    (hruns : ∀ r ∈ runs, r.last + r.shift < m ∨ m < r.first + r.shift)
    (h : shifted n runs = some k) : k ≠ m := by
  induction runs with
  | nil => cases h
  | cons r rest ih =>
    rw [shifted] at h
    split at h
    · rename_i hin
      simp only [Bool.and_eq_true, decide_eq_true_eq] at hin
      have hr := hruns r List.mem_cons_self
      have hk : Int.toNat (n + r.shift) = k := Option.some.inj h
      omega
    · exact ih (fun x hx => hruns x (List.mem_cons_of_mem _ hx)) h

theorem mem_lookup {n k : Nat} {ks : List Nat} {table : List (Nat × List Nat)}
    (h : table.lookup n = some ks) (hk : k ∈ ks) : ∃ e ∈ table, k ∈ e.2 := by
  induction table with
  | nil => cases h
  | cons e rest ih =>
    rw [List.lookup_cons] at h
    split at h
    · cases h
      exact ⟨e, List.mem_cons_self, hk⟩
    · obtain ⟨x, hx, hkx⟩ := ih h
      exact ⟨x, List.mem_cons_of_mem _ hx, hkx⟩

/-- Upper case leads to a code point outside of its table from this code point alone. -/
theorem eq_of_mem_mapCode {m n : Nat} (hm : m ≠ 0) (hfree : isUpperFree m = true)
    (h : m ∈ mapCode upperRuns upperExpansions n) : m = n := by
  simp only [isUpperFree, Bool.and_eq_true, List.all_eq_true, decide_eq_true_eq,
    Bool.not_eq_true', List.contains_eq_mem, decide_eq_false_iff_not] at hfree
  unfold mapCode at h
  split at h
  · rename_i k hk
    rw [List.mem_singleton] at h
    exact absurd h.symm (shifted_ne hm hfree.1 hk)
  · cases hlookup : upperExpansions.lookup n with
    | none =>
      rw [hlookup] at h
      exact List.mem_singleton.1 h
    | some ks =>
      rw [hlookup] at h
      obtain ⟨e, he, hme⟩ := mem_lookup hlookup h
      exact absurd hme (hfree.2 e he)

theorem toNat_ofNat_ne_zero {n : Nat} (h : (Char.ofNat n).toNat ≠ 0) :
    (Char.ofNat n).toNat = n := by
  by_cases hv : n.isValidChar
  · rw [Char.ofNat, dif_pos hv]
    rfl
  · rw [Char.ofNat, dif_neg hv] at h
    exact absurd rfl h

/-- Upper case makes a character outside of its table of this character alone. -/
theorem eq_of_mem_upperChar (hd : d.toNat ≠ 0) (hfree : isUpperFree d.toNat = true)
    (h : d ∈ upperChar c) : d = c := by
  obtain ⟨n, hn, rfl⟩ := List.mem_map.1 h
  have hcode := toNat_ofNat_ne_zero hd
  rw [hcode] at hd hfree
  rw [eq_of_mem_mapCode hd hfree hn, Char.ofNat_toNat]

/-! ### Lower case -/

/-- The characters that become a small Latin letter have no other lower case. -/
theorem lowerChar_of_toLower (hd : d.isLower = true) (h : c.toLower = d) :
    lowerChar c = [d] ∧ c ≠ 'Σ' := by
  have hascii : ∀ n < 128, (Char.ofNat n).toLower.isLower = true →
      lowerChar (Char.ofNat n) = [(Char.ofNat n).toLower] := by decide +kernel
  have hcode : c.toNat < 128 := by
    have hlast : d.toNat ≤ 122 := by
      have hbounds : (decide ('a'.val ≤ d.val) && decide (d.val ≤ 'z'.val)) = true := hd
      rw [Bool.and_eq_true, decide_eq_true_eq, decide_eq_true_eq] at hbounds
      exact UInt32.le_iff_toNat_le.1 hbounds.2
    unfold Char.toLower at h
    split at h
    · rename_i hupper
      have hupperLast : c.toNat ≤ 90 := UInt32.le_iff_toNat_le.1 hupper.2
      omega
    · rw [h]
      omega
  refine ⟨?_, ?_⟩
  · have hc := hascii c.toNat hcode
    rw [Char.ofNat_toNat, h] at hc
    exact hc hd
  · rintro rfl
    exact absurd hcode (by decide)

theorem lowerAfter_of_toLower {before s w : List Char} (hw : ∀ d ∈ w, d.isLower = true)
    (h : s.map Char.toLower = w) : lowerAfter before s = w := by
  induction s generalizing before w with
  | nil =>
    cases h
    rfl
  | cons c rest ih =>
    rw [List.map_cons] at h
    subst h
    obtain ⟨hlower, hsigma⟩ := lowerChar_of_toLower (hw _ List.mem_cons_self) (c := c) rfl
    rw [lowerAfter, if_neg hsigma, hlower,
      ih (fun d hd => hw d (List.mem_cons_of_mem _ hd)) rfl]
    rfl

/-- A text that is a word of small Latin letters but for its letter case is this word in lower
case. -/
theorem toLower_of_latin {s w : List Char} (hw : ∀ d ∈ w, d.isLower = true)
    (h : s.map Char.toLower = w) : toLower s = w :=
  lowerAfter_of_toLower hw h

end QueryClause.Text
