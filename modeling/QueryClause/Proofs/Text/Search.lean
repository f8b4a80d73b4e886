import QueryClause.Text.Search
import Mathlib.Data.List.Infix

/-!
# The first place of a pattern

`Text.findIndex?` counts the characters before the first place where a pattern stands
(`Text.findIndex?_eq_some_iff`).

The same place is found among the bytes that the text and the pattern have in UTF-8: the first byte
of a character is of another kind than the others, so that the bytes of a pattern cannot stand where
its characters do not.  What is before the first place of the bytes is the text that is before the
first place of the characters (`Text.findByte?_eq`).
-/

namespace QueryClause.Text

variable {p s : List Char} {i : Nat}

/-! ### Characters -/

theorem findIndex?_nil : findIndex? p [] = if p = [] then some 0 else none := by
  cases p <;> rfl

theorem findIndex?_cons (c : Char) :
    findIndex? p (c :: s) = if p <+: c :: s then some 0 else (findIndex? p s).map (· + 1) := by
  rw [findIndex?]
  simp only [List.isPrefixOf_iff_prefix]

/-- The pattern stands at the position that is found, and at none before. -/
theorem findIndex?_eq_some_iff :
    findIndex? p s = some i ↔ p <+: s.drop i ∧ ∀ j < i, ¬ p <+: s.drop j := by
  induction s generalizing i with
  | nil =>
    simp only [findIndex?_nil, List.drop_nil, List.prefix_nil]
    constructor
    · intro h
      split at h
      · rename_i hp
        cases h
        exact ⟨hp, nofun⟩
      · cases h
    · rintro ⟨hp, hbefore⟩
      rw [if_pos hp, Nat.eq_zero_of_not_pos fun hi => hbefore 0 hi hp]
  | cons c s ih =>
    rw [findIndex?_cons]
    by_cases hp : p <+: c :: s
    · rw [if_pos hp]
      constructor
      · intro h
        cases h
        exact ⟨hp, nofun⟩
      · rintro ⟨-, hbefore⟩
        rw [Nat.eq_zero_of_not_pos fun hi => hbefore 0 hi hp]
    · rw [if_neg hp]
      cases i with
      | zero => simp [hp]
      | succ i =>
        rw [Option.map_eq_some_iff, Nat.forall_lt_succ_left]
        simp only [List.drop_succ_cons, List.drop_zero, hp, not_false_eq_true, true_and]
        rw [← ih]
        simp

/-- The whole pattern is inside of the text. -/
theorem add_length_le_of_findIndex? (h : findIndex? p s = some i) : i + p.length ≤ s.length := by
  obtain ⟨hp, hbefore⟩ := findIndex?_eq_some_iff.1 h
  have hlength := hp.length_le
  rw [List.length_drop] at hlength
  -- an empty pattern stands behind the end, too, but first it stands at the start
  rcases Nat.eq_zero_or_pos i with rfl | hi
  · omega
  · have hne : p ≠ [] := fun hnil => hbefore 0 hi (hnil ▸ List.nil_prefix)
    have hpos := List.length_pos_iff.2 hne
    omega

theorem findIndex?_eq_zero_iff : findIndex? p s = some 0 ↔ p <+: s := by
  rw [findIndex?_eq_some_iff, List.drop_zero]
  exact and_iff_left nofun

theorem occurs_iff : occurs p s = true ↔ p <:+: s := by
  rw [occurs]
  induction s with
  | nil =>
    rw [findIndex?_nil, List.infix_nil]
    split <;> simp [*]
  | cons c s ih =>
    rw [findIndex?_cons, List.infix_cons_iff, ← ih]
    split <;> simp [*]

/-! ### Bytes -/

/-- The bytes of a text in UTF-8. -/
def bytes (s : List Char) : List UInt8 := s.flatMap String.utf8EncodeChar

/-- The number of bytes before the first place where the bytes of a pattern stand. -/
def findByte? (p s : List Char) : Option Nat := (bytes s).tails.findIdx? (bytes p).isPrefixOf

theorem bytes_cons (c : Char) (s : List Char) :
    bytes (c :: s) = String.utf8EncodeChar c ++ bytes s :=
  List.flatMap_cons

/-- The bytes of a pattern start a text if and only if its characters do. -/
theorem bytes_prefix_bytes_iff : bytes p <+: bytes s ↔ p <+: s := by
  constructor
  · rintro ⟨rest, h⟩
    refine List.isPrefix_of_utf8Encode_append_eq_utf8Encode rest.toByteArray ?_
    rw [List.utf8Encode, List.utf8Encode, ← List.toByteArray_append]
    exact congrArg List.toByteArray h
  · rintro ⟨rest, rfl⟩
    exact ⟨bytes rest, List.flatMap_append.symm⟩

/-- A byte that a character goes on with does not start one. -/
theorem not_isUTF8FirstByte_of_mem_tail {c : Char} {b : UInt8}
    (h : b ∈ (String.utf8EncodeChar c).tail) : ¬ b.IsUTF8FirstByte := by
  obtain ⟨i, hi, rfl⟩ := List.getElem_of_mem h
  rw [List.getElem_tail, UInt8.isUTF8FirstByte_getElem_utf8EncodeChar]
  exact Nat.succ_ne_zero i

theorem isUTF8FirstByte_of_bytes {b : UInt8} {rest : List UInt8} (h : bytes p = b :: rest) :
    b.IsUTF8FirstByte := by
  cases p with
  | nil => cases h
  | cons c p =>
    have hpos := List.length_pos_iff.2 (String.utf8EncodeChar_ne_nil (c := c))
    have hb : (String.utf8EncodeChar c)[0] = b := by
      have hget : (bytes (c :: p))[0]? = some b := by rw [h]; rfl
      rw [bytes_cons, List.getElem?_append_left hpos, List.getElem?_eq_getElem hpos] at hget
      exact Option.some.inj hget
    rw [← hb, UInt8.isUTF8FirstByte_getElem_utf8EncodeChar]

/-- A pattern does not stand where a character goes on. -/
theorem findIdx?_tails_append (hp : p ≠ []) (rest : List UInt8) :
    ∀ inner : List UInt8, (∀ b ∈ inner, ¬ b.IsUTF8FirstByte) →
      (inner ++ rest).tails.findIdx? (bytes p).isPrefixOf =
        (rest.tails.findIdx? (bytes p).isPrefixOf).map (· + inner.length)
  | [], _ => by simp
  | b :: inner, hinner => by
    obtain ⟨hb, hinner⟩ := List.forall_mem_cons.1 hinner
    have hstart : (bytes p).isPrefixOf (b :: (inner ++ rest)) = false := by
      obtain ⟨c, q, rfl⟩ := List.exists_cons_of_ne_nil hp
      cases hbytes : bytes (c :: q) with
      | nil => simp [bytes_cons, String.utf8EncodeChar_ne_nil] at hbytes
      | cons a q' =>
        have ha : a ≠ b := fun h => hb (h ▸ isUTF8FirstByte_of_bytes hbytes)
        simp [List.isPrefixOf, ha]
    rw [List.cons_append, List.tails_cons, List.findIdx?_cons, hstart, if_neg nofun,
      findIdx?_tails_append hp rest inner hinner, Option.map_map]
    rfl

/-- The search by bytes passes over a whole character. -/
theorem findByte?_cons (c : Char) :
    findByte? p (c :: s) = if p <+: c :: s then some 0
      else (findByte? p s).map (· + (String.utf8EncodeChar c).length) := by
  obtain ⟨b, inner, hc⟩ := List.exists_cons_of_ne_nil (String.utf8EncodeChar_ne_nil (c := c))
  have hstart : (bytes p).isPrefixOf (b :: (inner ++ bytes s)) = true ↔ p <+: c :: s := by
    rw [List.isPrefixOf_iff_prefix, ← bytes_prefix_bytes_iff, bytes_cons, hc, List.cons_append]
  rw [findByte?, bytes_cons, hc, List.cons_append, List.tails_cons, List.findIdx?_cons]
  simp only [hstart]
  by_cases hp : p <+: c :: s
  · rw [if_pos hp, if_pos hp]
  · have hne : p ≠ [] := fun hnil => hp (hnil ▸ List.nil_prefix)
    have hinner : ∀ a ∈ inner, ¬ a.IsUTF8FirstByte := fun a ha =>
      not_isUTF8FirstByte_of_mem_tail (c := c) (hc ▸ ha)
    rw [if_neg hp, if_neg hp, findIdx?_tails_append hne _ inner hinner, Option.map_map]
    rfl

/-- **The bytes before the first place of a pattern are those of the characters before it.** -/
theorem findByte?_eq (p s : List Char) :
    findByte? p s = (findIndex? p s).map fun i => (bytes (s.take i)).length := by
  induction s with
  | nil =>
    rw [findIndex?_nil]
    cases p with
    | nil => rfl
    | cons c p => simp [findByte?, bytes, List.isPrefixOf, String.utf8EncodeChar_ne_nil]
  | cons c s ih =>
    rw [findByte?_cons, findIndex?_cons, ih]
    split
    · rfl
    · rw [Option.map_map, Option.map_map]
      congr 1
      funext i
      simp [bytes_cons, Nat.add_comm]

end QueryClause.Text
