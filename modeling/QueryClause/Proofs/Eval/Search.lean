import QueryClause.Eval.Member
import QueryClause.Eval.Method
import QueryClause.Proofs.Text.Search
import Mathlib.Data.Int.ModEq

/-!
# Searches and parts of texts

A host looks for a pattern in a text by `IndexOf`, `Contains` and `StartsWith`, and takes a part of
a text by `Substring`.  Where the pattern is found, the part of its length is the pattern, and no
part of this length that starts before is (`FoundAt`).  Two parts that meet make up the text.  All
positions count characters, although the place of a pattern is looked for among bytes
(`search_substring`).
-/

namespace QueryClause

/-! ### Slices -/

namespace Text

variable {s u : List Char} {start length : Int64}

theorem slice_some_eq_ok_iff : slice s start (some length) = .ok u ↔
    0 ≤ start ∧ 0 ≤ length ∧ start.toNatClampNeg + length.toNatClampNeg ≤ s.length ∧
      (s.drop start.toNatClampNeg).take length.toNatClampNeg = u := by
  unfold slice
  simp only [Bool.or_eq_true, decide_eq_true_eq]
  split
  · rename_i hstart
    refine iff_of_false nofun ?_
    rintro ⟨hnonneg, -, hle, -⟩
    rcases hstart with hneg | hlong
    · exact absurd hneg (Int64.not_lt.2 hnonneg)
    · omega
  · rename_i hstart
    rw [not_or, Int64.not_lt] at hstart
    split
    · rename_i hneg
      exact iff_of_false nofun fun h => absurd hneg (Int64.not_lt.2 h.2.1)
    · rename_i hlength
      rw [Int64.not_lt] at hlength
      split
      · exact iff_of_false nofun fun h => absurd h.2.2.1 (by omega)
      · rename_i hle
        rw [Except.ok.injEq]
        exact ⟨fun h => ⟨hstart.1, hlength, Nat.not_lt.1 hle, h⟩, fun h => h.2.2.2⟩

theorem slice_none_eq_ok_iff : slice s start none = .ok u ↔
    0 ≤ start ∧ start.toNatClampNeg ≤ s.length ∧ s.drop start.toNatClampNeg = u := by
  unfold slice
  simp only [Bool.or_eq_true, decide_eq_true_eq]
  split
  · rename_i hstart
    rw [← Int64.not_le, ← Nat.not_le, ← not_and_or] at hstart
    exact iff_of_false nofun fun h => hstart ⟨h.1, h.2.1⟩
  · rename_i hstart
    rw [not_or, Int64.not_lt, Nat.not_lt] at hstart
    rw [Except.ok.injEq]
    exact ⟨fun h => ⟨hstart.1, hstart.2, h⟩, fun h => h.2.2⟩

end Text

/-! ### Positions -/

namespace Word64

theorem zero_le_ofNat {n : Nat} (hn : n < 2 ^ 63) : 0 ≤ Int64.ofNat n := by
  rw [Int64.le_iff_toInt_le, Int64.toInt_ofNat_of_lt hn]
  exact Int.natCast_nonneg n

theorem ofNat_ne_neg_one {n : Nat} (hn : n < 2 ^ 63) : Int64.ofNat n ≠ -1 :=
  fun h => absurd (zero_le_ofNat hn) (h ▸ by decide)

/-- A position is given by a natural number. -/
theorem exists_eq_ofNat {k : Int64} (hk : 0 ≤ k) : ∃ n < 2 ^ 63, k = Int64.ofNat n := by
  have hnonneg : 0 ≤ k.toInt := Int64.le_iff_toInt_le.1 hk
  have hlt := k.toInt_lt
  refine ⟨k.toInt.toNat, by omega, ?_⟩
  have hofNat : Int64.ofNat k.toInt.toNat = Int64.ofInt k.toInt.toNat := rfl
  rw [hofNat, Int.toNat_of_nonneg hnonneg, Int64.ofInt_toInt]

end Word64

open Value Word64

/-! ### Calls -/

section Calls

variable {fresh : Guid} {owner : HostType} {s p u : String} {i j k : Nat}

theorem callMethod?_indexOf (fresh : Guid) (owner : HostType) (s p : String) :
    callMethod? fresh owner (some (.string s)) "IndexOf" [.string p] =
      some (.ok (.int (((Text.findIndex? p.toList s.toList).map Int64.ofNat).getD (-1)))) := by
  change some (Except.ok (int _)) = _
  cases Text.findIndex? p.toList s.toList <;> rfl

theorem callMethod?_substring_eq_iff {start length : Int64} :
    callMethod? fresh owner (some (.string s)) "Substring" [.int start, .int length] =
        some (.ok (.string u)) ↔
      Text.slice s.toList start (some length) = .ok u.toList := by
  have hcall : callMethod? fresh owner (some (.string s)) "Substring" [.int start, .int length] =
      some ((Text.slice s.toList start (some length)).map fun t => .string (String.ofList t)) := rfl
  rw [hcall]
  cases Text.slice s.toList start (some length) with
  | error e => simp [Except.map]
  | ok t =>
    rw [Except.map, Option.some_inj, Except.ok.injEq, Except.ok.injEq, string.injEq]
    exact ⟨fun h => h ▸ String.toList_ofList.symm, fun h => h ▸ String.ofList_toList⟩

theorem callMethod?_substring_rest (start : Int64) :
    callMethod? fresh owner (some (.string s)) "Substring" [.int start] =
      some ((Text.slice s.toList start none).map fun t => .string (String.ofList t)) := rfl

/-- The part that has the length of a pattern is the pattern if and only if this stands there. -/
theorem callMethod?_substring_pattern_iff (hj : j < 2 ^ 63) (hp : p.length < 2 ^ 63) :
    callMethod? fresh owner (some (.string s)) "Substring"
        [.int (Int64.ofNat j), .int (Int64.ofNat p.length)] = some (.ok (.string p)) ↔
      j + p.length ≤ s.length ∧ p.toList <+: s.toList.drop j := by
  rw [callMethod?_substring_eq_iff, Text.slice_some_eq_ok_iff, Int64.toNatClampNeg_ofNat_of_lt hj,
    Int64.toNatClampNeg_ofNat_of_lt hp, List.prefix_iff_eq_take, String.length_toList,
    String.length_toList, eq_comm (a := p.toList)]
  exact ⟨fun h => h.2.2, fun h => ⟨zero_le_ofNat hj, zero_le_ofNat hp, h⟩⟩

/-- The two parts that meet at a position. -/
theorem exists_substring_append (fresh : Guid) (owner : HostType) (hs : s.length < 2 ^ 63)
    (hk : k ≤ s.length) :
    ∃ u v, callMethod? fresh owner (some (.string s)) "Substring"
        [.int 0, .int (Int64.ofNat k)] = some (.ok (.string u)) ∧
      callMethod? fresh owner (some (.string s)) "Substring" [.int (Int64.ofNat k)] =
        some (.ok (.string v)) ∧
      u ++ v = s ∧ u.length = k := by
  have hlt : k < 2 ^ 63 := hk.trans_lt hs
  have hnat := Int64.toNatClampNeg_ofNat_of_lt hlt
  rw [← String.length_toList] at hk
  refine ⟨String.ofList (s.toList.take k), String.ofList (s.toList.drop k), ?_, ?_, ?_, ?_⟩
  · rw [callMethod?_substring_eq_iff, Text.slice_some_eq_ok_iff, hnat, String.toList_ofList]
    have hzero : (0 : Int64).toNatClampNeg = 0 := rfl
    rw [hzero, Nat.zero_add, List.drop_zero]
    exact ⟨Int64.le_refl 0, zero_le_ofNat hlt, hk, rfl⟩
  · rw [callMethod?_substring_rest,
      Text.slice_none_eq_ok_iff.2 ⟨zero_le_ofNat hlt, hnat.trans_le hk, rfl⟩, hnat]
    rfl
  · rw [← String.ofList_append, List.take_append_drop, String.ofList_toList]
  · rw [String.length_ofList, List.length_take_of_le hk]

end Calls

/-! ### Searches -/

/-- The pattern `p` is the part of `s` of its length `n` at position `i`, and no such part before.
The position is the number of characters before the first place of its bytes. -/
structure FoundAt (fresh : Guid) (owner : HostType) (s p : String) (n i : Int64) : Prop where
  nonneg : 0 ≤ i
  part : callMethod? fresh owner (some (.string s)) "Substring" [.int i, .int n] =
    some (.ok (.string p))
  first : ∀ j, 0 ≤ j → j < i →
    callMethod? fresh owner (some (.string s)) "Substring" [.int j, .int n] ≠
      some (.ok (.string p))
  bytes : ∃ before, before <+: s.toList ∧ i.toInt = before.length ∧
    Text.findByte? p.toList s.toList = some (Text.bytes before).length

variable {s p : String}

theorem foundAt_of_findIndex? (fresh : Guid) (owner : HostType) {i : Nat}
    (hs : s.length < 2 ^ 63) (hp : p.length < 2 ^ 63)
    (h : Text.findIndex? p.toList s.toList = some i) :
    FoundAt fresh owner s p (Int64.ofNat p.length) (Int64.ofNat i) := by
  have hle := Text.add_length_le_of_findIndex? h
  obtain ⟨hplace, hbefore⟩ := Text.findIndex?_eq_some_iff.1 h
  rw [String.length_toList, String.length_toList] at hle
  have hi : i < 2 ^ 63 := by omega
  refine ⟨zero_le_ofNat hi, (callMethod?_substring_pattern_iff hi hp).2 ⟨hle, hplace⟩, ?_, ?_⟩
  · -- an earlier part of this length would be an earlier place
    intro j hj hlt
    obtain ⟨j, hj', rfl⟩ := exists_eq_ofNat hj
    rw [Int64.lt_iff_toInt_lt, Int64.toInt_ofNat_of_lt hj', Int64.toInt_ofNat_of_lt hi,
      Int.ofNat_lt] at hlt
    exact fun hpart => hbefore j hlt ((callMethod?_substring_pattern_iff hj' hp).1 hpart).2
  · -- the bytes of the characters before the place
    refine ⟨s.toList.take i, List.take_prefix i _, ?_, ?_⟩
    · rw [Int64.toInt_ofNat_of_lt hi, List.length_take_of_le]
      rw [String.length_toList]
      omega
    · rw [Text.findByte?_eq, h, Option.map_some]

/-- **Searching and slicing agree.**  `IndexOf` gives no position if and only if `Contains` denies
the pattern; else it gives the first position where `Substring` takes the pattern, and this is the
start if and only if `StartsWith` affirms it.  A text is what `Substring` takes up to a position
followed by what it takes from there.  The positions and lengths count characters; there are fewer
than `2 ^ 63` of them in any text that a host can hold. -/
theorem search_substring (fresh : Guid) (owner : HostType) (hs : s.length < 2 ^ 63)
    (hp : p.length < 2 ^ 63) :
    (∃ (i n : Int64) (found starts : Bool),
      callMethod? fresh owner (some (.string s)) "IndexOf" [.string p] = some (.ok (.int i)) ∧
      (Value.string p).readMember "Length" = .ok (.int n) ∧ n.toInt = p.length ∧
      callMethod? fresh owner (some (.string s)) "Contains" [.string p] =
        some (.ok (.bool found)) ∧
      callMethod? fresh owner (some (.string s)) "StartsWith" [.string p] =
        some (.ok (.bool starts)) ∧
      (found = true ↔ p.toList <:+: s.toList) ∧ (i = -1 ↔ found = false) ∧
      (i = -1 ↔ Text.findByte? p.toList s.toList = none) ∧
      (i ≠ -1 → FoundAt fresh owner s p n i) ∧ (i = 0 ↔ starts = true)) ∧
    ∃ n : Int64, (Value.string s).readMember "Length" = .ok (.int n) ∧ n.toInt = s.length ∧
      ∀ k, 0 ≤ k → k ≤ n → ∃ u v,
        callMethod? fresh owner (some (.string s)) "Substring" [.int 0, .int k] =
          some (.ok (.string u)) ∧
        callMethod? fresh owner (some (.string s)) "Substring" [.int k] =
          some (.ok (.string v)) ∧
        u ++ v = s ∧ k.toInt = u.length := by
  refine ⟨⟨_, _, _, _, callMethod?_indexOf fresh owner s p, rfl, Int64.toInt_ofNat_of_lt hp, rfl,
    rfl, Text.occurs_iff, ?_⟩, _, rfl, Int64.toInt_ofNat_of_lt hs, ?_⟩
  · -- all three methods look for the first place
    rw [List.isPrefixOf_iff_prefix, ← Text.findIndex?_eq_zero_iff, Text.findByte?_eq, Text.occurs]
    cases h : Text.findIndex? p.toList s.toList with
    | none => exact ⟨iff_of_true rfl rfl, iff_of_true rfl rfl, fun hne => absurd rfl hne, by decide⟩
    | some i =>
      have hfound := foundAt_of_findIndex? fresh owner hs hp h
      have hle := Text.add_length_le_of_findIndex? h
      rw [String.length_toList, String.length_toList] at hle
      have hi : i < 2 ^ 63 := by omega
      -- a position is never the number that stands for none
      have hne := ofNat_ne_neg_one hi
      refine ⟨iff_of_false hne (by simp), iff_of_false hne (by simp), fun _ => hfound, ?_⟩
      rw [Option.map_some, Option.getD_some, ← Int64.toInt_inj, Int64.toInt_ofNat_of_lt hi]
      exact Int.natCast_eq_zero.trans Option.some_inj.symm
  · -- any position from 0 to the length cuts the text in two
    intro k hk hlast
    obtain ⟨k, hk', rfl⟩ := exists_eq_ofNat hk
    rw [Int64.le_iff_toInt_le, Int64.toInt_ofNat_of_lt hk', Int64.toInt_ofNat_of_lt hs,
      Int.ofNat_le] at hlast
    obtain ⟨u, v, htaken, hrest, happend, hlength⟩ := exists_substring_append fresh owner hs hlast
    exact ⟨u, v, htaken, hrest, happend, by rw [Int64.toInt_ofNat_of_lt hk', hlength]⟩

/-- In a text whose characters have from one to four bytes. -/
theorem search_substring_wide :
    let s := "aß€😀€b"
    let p := "€b"
    s.length < 2 ^ 63 ∧ p.length < 2 ^ 63 ∧
    callMethod? .nil .string (some (.string s)) "IndexOf" [.string p] = some (.ok (.int 4)) ∧
    FoundAt .nil .string s p 2 4 ∧
    Text.findByte? p.toList s.toList = some 10 ∧
    ∃ u v, callMethod? .nil .string (some (.string s)) "Substring" [.int 0, .int 4] =
        some (.ok (.string u)) ∧
      callMethod? .nil .string (some (.string s)) "Substring" [.int 4] =
        some (.ok (.string v)) ∧
      u ++ v = s := by
  intro s p
  have hs : s.length < 2 ^ 63 := by decide
  have hp : p.length < 2 ^ 63 := by decide
  have hfirst : Text.findIndex? p.toList s.toList = some 4 := by decide
  have hbytes : Text.findByte? p.toList s.toList = some 10 := by decide
  have hindex := callMethod?_indexOf .nil .string s p
  rw [hfirst] at hindex
  have hn : Int64.ofNat p.length = 2 := by decide
  obtain ⟨⟨i, n, found, starts, hi, hlength, -, -, -, -, -, -, hfound, -⟩, n', hlength', -,
    hparts⟩ := search_substring .nil .string hs hp
  cases hindex.symm.trans hi
  cases hlength
  cases hlength'
  rw [hn] at hfound
  obtain ⟨u, v, htaken, hrest, happend, -⟩ := hparts 4 (by decide) (by decide)
  exact ⟨hs, hp, hi, hfound (by decide), hbytes, u, v, htaken, hrest, happend⟩

end QueryClause
