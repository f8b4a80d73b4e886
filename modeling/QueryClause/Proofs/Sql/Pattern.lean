import QueryClause.Proofs.Sql.Like
import QueryClause.Proofs.Text.LetterCase

/-!
# Patterns for a text

The pattern that is written for a text has an escape before each special character
(`LikePattern.written`).  Without the escapes it spells the text, character by character, so that it
matches what starts with the text, ends with it, or contains it (`LikePattern.holds_written_iff`).

The opening bracket is not special.  Where it opens a class, the pattern spells something shorter
than the text, and it matches as the text stands only if the text has no bracket
(`LikePattern.forall_holds_written_iff`).

Escaping goes with upper case (`Text.toUpper_escapeWildcards`), so what is written behind `like` is
the pattern for the text that is compared (`Dialect.like_eq`).
-/

namespace QueryClause

/-! ### Escaped texts -/

namespace Pattern

variable {a : List Char} {c : Char}

theorem escapeWildcards_cons (c : Char) (a : List Char) :
    escapeWildcards (c :: a) = (if isSpecial c then ['^', c] else [c]) ++ escapeWildcards a :=
  List.flatMap_cons ..

/-- What is not special is not one of the four characters. -/
theorem ne_of_not_special (h : isSpecial c = false) :
    c ≠ '^' ∧ c ≠ '\\' ∧ c ≠ '_' ∧ c ≠ '%' := by
  simpa [isSpecial, and_assoc] using h

theorem caret_mem_escapeWildcards_iff :
    '^' ∈ escapeWildcards a ↔ ∃ c ∈ a, isSpecial c = true := by
  rw [escapeWildcards, List.mem_flatMap]
  refine exists_congr fun c => and_congr_right fun _ => ?_
  by_cases hc : isSpecial c = true
  · simp [hc]
  · rw [Bool.not_eq_true] at hc
    simp [hc, (ne_of_not_special hc).1.symm]

theorem escapeWildcards_of_plain (h : ∀ c ∈ a, isSpecial c = false) : escapeWildcards a = a := by
  induction a with
  | nil => rfl
  | cons c a ih =>
    rw [escapeWildcards_cons, h c List.mem_cons_self,
      ih fun x hx => h x (List.mem_cons_of_mem _ hx)]
    rfl

end Pattern

namespace LikePattern

/-- The pattern that is written for a text at a place: the text is escaped, and there is an escape
clause if that changed it. -/
def written (place : LikePlace) (a : List Char) : LikePattern where
  chars := Pattern.placed place (Pattern.escapeWildcards a)
  escape := if (Pattern.escapeWildcards a).contains '^' then some '^' else none

/-- An escape character serves a text if it is the caret or none is needed. -/
structure Serves (escape : Option Char) (a : List Char) : Prop where
  caret : escape = none ∨ escape = some '^'
  special : ∀ c ∈ a, Pattern.isSpecial c = true → escape = some '^'

variable {escape : Option Char} {a rest : List Char} {c : Char}

theorem serves_written (place : LikePlace) (a : List Char) :
    Serves (written place a).escape a := by
  have hiff := Pattern.caret_mem_escapeWildcards_iff (a := a)
  -- either there is a clause, or nothing had to be escaped
  by_cases h : '^' ∈ Pattern.escapeWildcards a
  · have hescape : (written place a).escape = some '^' := by simp [written, h]
    exact ⟨.inr hescape, fun c hc hs => hescape⟩
  · have hescape : (written place a).escape = none := by simp [written, h]
    exact ⟨.inl hescape, fun c hc hs => absurd (hiff.2 ⟨c, hc, hs⟩) h⟩

theorem Serves.tail (h : Serves escape (c :: a)) : Serves escape a :=
  ⟨h.caret, fun x hx => h.special x (List.mem_cons_of_mem _ hx)⟩

/-- What is not special is not the escape character. -/
theorem Serves.ne_some (h : Serves escape a) (hc : Pattern.isSpecial c = false) :
    escape ≠ some c := by
  have hne := (Pattern.ne_of_not_special hc).1
  rcases h.caret with h | h
  · simp [h]
  · simp [h, hne.symm]

theorem unescape?_of_plain (h : Serves escape a) (hc : Pattern.isSpecial c = false) :
    unescape? escape false (c :: rest) = (unescape? escape false rest).map (⟨c, false⟩ :: ·) := by
  simp [unescape?, h.ne_some hc]

/-- A character of a text that was escaped. -/
def kept (c : Char) : LikeChar := ⟨c, Pattern.isSpecial c⟩

/-- Escaping is undone, and what was escaped is known. -/
theorem unescape?_escapeWildcards (rest : List Char) (h : Serves escape a) :
    unescape? escape false (Pattern.escapeWildcards a ++ rest) =
      (unescape? escape false rest).map (a.map kept ++ ·) := by
  induction a with
  | nil => simp [Pattern.escapeWildcards]
  | cons c a ih =>
    rw [Pattern.escapeWildcards_cons, List.append_assoc]
    by_cases hc : Pattern.isSpecial c = true
    · -- behind the escape character, the character stands for itself
      have hescape := h.special c List.mem_cons_self hc
      subst hescape
      simp [unescape?, kept, hc, ih h.tail, Function.comp_def]
    · rw [Bool.not_eq_true] at hc
      simp [kept, hc, unescape?_of_plain h hc, ih h.tail, Function.comp_def]

/-- The sign for any run is not escaped. -/
theorem unescape?_percent (h : Serves escape a) :
    unescape? escape false ('%' :: rest) =
      (unescape? escape false rest).map (⟨'%', false⟩ :: ·) := by
  rcases h.caret with rfl | rfl <;> rfl

theorem unescape?_written (place : LikePlace) (a : List Char) :
    unescape? (written place a).escape false (written place a).chars =
      some (place.wrap ⟨'%', false⟩ (a.map kept)) := by
  have hserves := serves_written place a
  have hbody := unescape?_escapeWildcards [] hserves
  have hopen := unescape?_escapeWildcards ['%'] hserves
  rw [List.append_nil] at hbody
  rw [unescape?_percent hserves] at hopen
  rw [show (written place a).chars = _ from LikePlace.placed_eq place _]
  cases place with
  | start => exact hopen
  | «end» =>
    rw [LikePlace.wrap, unescape?_percent hserves, hbody]
    simp [unescape?, LikePlace.wrap]
  | anywhere =>
    rw [LikePlace.wrap, unescape?_percent hserves, hopen]
    rfl

end LikePattern

namespace LikeChar

open LikePattern (kept)

variable {brackets : Bool} {chars rest : List LikeChar} {c : Char} {a : List Char}

theorem items?_kept : items? brackets none (kept c :: rest) =
    if brackets = true ∧ c = '[' then items? brackets (some []) rest
    else (items? brackets none rest).map (.char c :: ·) := by
  -- a character that was escaped is no wildcard, but a bracket is never escaped
  have hrun : kept c ≠ ⟨'%', false⟩ := by
    rintro h
    injection h with hc hs
    subst hc
    exact absurd hs (by decide)
  have hone : kept c ≠ ⟨'_', false⟩ := by
    rintro h
    injection h with hc hs
    subst hc
    exact absurd hs (by decide)
  have hclass : kept c = ⟨'[', false⟩ ↔ c = '[' := by
    constructor
    · exact fun h => (LikeChar.mk.inj h).1
    · rintro rfl
      rfl
  rw [items?, if_neg hrun, if_neg hone]
  simp only [hclass]
  rfl

theorem items?_kept_some : items? brackets (some chars) (kept c :: rest) =
    if c = ']' then (items? brackets none rest).map (classItem chars :: ·)
    else items? brackets (some (chars ++ [kept c])) rest := by
  have hclose : kept c = ⟨']', false⟩ ↔ c = ']' := by
    constructor
    · exact fun h => (LikeChar.mk.inj h).1
    · rintro rfl
      rfl
  rw [items?]
  simp only [hclose]

/-- What opens no class stands for itself. -/
theorem items?_map_kept (rest : List LikeChar) (h : brackets = true → '[' ∉ a) :
    items? brackets none (a.map kept ++ rest) =
      (items? brackets none rest).map (a.map .char ++ ·) := by
  induction a with
  | nil => simp
  | cons c a ih =>
    have htail := ih fun hb hmem => h hb (List.mem_cons_of_mem c hmem)
    have hplain : ¬ (brackets = true ∧ c = '[') := fun hc => h hc.1 (hc.2 ▸ List.mem_cons_self)
    rw [List.map_cons, List.cons_append, items?_kept, if_neg hplain, htail]
    simp [Function.comp_def]

theorem classItem_ne_run : classItem chars ≠ .run := by
  unfold classItem
  split <;> nofun

/-- A class takes more characters than it stands for. -/
theorem length_lt_of_items? {inClass : Option (List LikeChar)} {items tail : List LikeItem}
    (hclosed : items? true none rest = some tail)
    (hunclosed : ∀ chars, items? true (some chars) rest = none)
    (h : items? true inClass (a.map kept ++ rest) = some items) :
    ∃ xs, items = xs ++ tail ∧ LikeItem.run ∉ xs ∧ xs.length ≤ a.length ∧
      (inClass = none → '[' ∈ a → xs.length < a.length) := by
  induction a generalizing inClass items with
  | nil =>
    cases inClass with
    | some chars => exact absurd (h.symm.trans (hunclosed chars)) nofun
    | none =>
      refine ⟨[], Option.some.inj (h.symm.trans hclosed), List.not_mem_nil, le_rfl, ?_⟩
      exact fun _ hmem => absurd hmem List.not_mem_nil
  | cons c a ih =>
    rw [List.map_cons, List.cons_append] at h
    cases inClass with
    | some chars =>
      -- inside of a class: it ends here, or takes one more character
      rw [items?_kept_some] at h
      by_cases hc : c = ']'
      · rw [if_pos hc] at h
        obtain ⟨ys, hys, rfl⟩ := Option.map_eq_some_iff.1 h
        obtain ⟨xs, rfl, hrun, hlen, -⟩ := ih hys
        refine ⟨classItem chars :: xs, rfl, ?_, by simpa using hlen, nofun⟩
        exact fun hmem => (List.mem_cons.1 hmem).elim (classItem_ne_run ·.symm) hrun
      · rw [if_neg hc] at h
        obtain ⟨xs, rfl, hrun, hlen, -⟩ := ih h
        exact ⟨xs, rfl, hrun, hlen.trans (Nat.le_succ _), nofun⟩
    | none =>
      rw [items?_kept] at h
      -- outside: a class begins here, or the character is an item
      by_cases hc : c = '['
      · rw [if_pos ⟨rfl, hc⟩] at h
        obtain ⟨xs, rfl, hrun, hlen, -⟩ := ih h
        exact ⟨xs, rfl, hrun, hlen.trans (Nat.le_succ _), fun _ _ => Nat.lt_succ_of_le hlen⟩
      · rw [if_neg fun hand => hc hand.2] at h
        obtain ⟨ys, hys, rfl⟩ := Option.map_eq_some_iff.1 h
        obtain ⟨xs, rfl, hrun, hlen, hlt⟩ := ih hys
        refine ⟨.char c :: xs, rfl, ?_, by simpa using hlen, fun _ hmem => ?_⟩
        · exact fun hmem => (List.mem_cons.1 hmem).elim nofun hrun
        · have hmem : '[' ∈ a := (List.mem_cons.1 hmem).resolve_left (Ne.symm hc)
          exact Nat.succ_lt_succ (hlt rfl hmem)

theorem items?_percent :
    items? brackets none (⟨'%', false⟩ :: rest) = (items? brackets none rest).map (.run :: ·) :=
  rfl

end LikeChar

namespace LikePattern

open LikeChar

variable {place : LikePlace} {brackets : Bool} {a s : List Char} {d : Dialect}

/-- What opens no class spells itself. -/
theorem items?_written (place : LikePlace) (h : brackets = true → '[' ∉ a) :
    (written place a).items? brackets = some (place.wrap .run (a.map .char)) := by
  have hbody := items?_map_kept [] h
  have hopen := items?_map_kept [⟨'%', false⟩] h
  rw [List.append_nil] at hbody
  rw [items?, unescape?_written, Option.bind_some]
  cases place with
  | start => exact hopen
  | «end» =>
    rw [LikePlace.wrap, items?_percent, hbody]
    simp [LikeChar.items?, LikePlace.wrap]
  | anywhere =>
    rw [LikePlace.wrap, items?_percent, hopen]
    rfl

/-- What opens a class spells something shorter, if it spells a pattern at all. -/
theorem length_lt_of_items?_written {items : List LikeItem} (hmem : '[' ∈ a)
    (h : (written place a).items? true = some items) :
    ∃ xs, items = place.wrap .run xs ∧ LikeItem.run ∉ xs ∧ xs.length < a.length := by
  rw [items?, unescape?_written, Option.bind_some] at h
  cases place with
  | start =>
    obtain ⟨xs, rfl, hrun, -, hlt⟩ := length_lt_of_items? rfl (fun _ => rfl) h
    exact ⟨xs, rfl, hrun, hlt rfl hmem⟩
  | «end» =>
    rw [LikePlace.wrap, items?_percent] at h
    obtain ⟨ys, hys, rfl⟩ := Option.map_eq_some_iff.1 h
    rw [← List.append_nil (a.map kept)] at hys
    obtain ⟨xs, rfl, hrun, -, hlt⟩ := length_lt_of_items? rfl (fun _ => rfl) hys
    exact ⟨xs, by rw [List.append_nil]; rfl, hrun, hlt rfl hmem⟩
  | anywhere =>
    rw [LikePlace.wrap, items?_percent] at h
    obtain ⟨ys, hys, rfl⟩ := Option.map_eq_some_iff.1 h
    obtain ⟨xs, rfl, hrun, -, hlt⟩ := length_lt_of_items? rfl (fun _ => rfl) hys
    exact ⟨xs, rfl, hrun, hlt rfl hmem⟩

/-- **An escaped text matches as it stands**, where it opens no class. -/
theorem holds_written_iff (h : d = .sqlServer → '[' ∉ a) :
    (written place a).holds d s = true ↔ place.Finds a s := by
  have hplain : (d == .sqlServer) = true → '[' ∉ a := fun hb => h (beq_iff_eq.1 hb)
  have hitems := items?_written place hplain
  rw [holds, hitems, Option.any_some]
  exact LikePlace.covers_chars_iff

/-- **A bracket opens a class** on SQL Server: the escaped text matches as it stands if and only if
it has none. -/
theorem forall_holds_written_iff (place : LikePlace) :
    (∀ s, (written place a).holds .sqlServer s = true ↔ place.Finds a s) ↔ '[' ∉ a := by
  constructor
  · intro h hmem
    -- the text itself would have to match
    have hself := (h a).2 (place.finds_self a)
    rw [holds, Option.any_eq_true] at hself
    obtain ⟨items, hitems, hcovers⟩ := hself
    obtain ⟨xs, rfl, hrun, hlt⟩ := length_lt_of_items?_written hmem hitems
    obtain ⟨u, -, hu⟩ := LikePlace.covers_wrap_iff.1 hcovers
    -- what the shorter items cover is matched, and it is too short to contain the text
    have hshort : (written place a).holds .sqlServer u = true := by
      have hfinds : LikeItem.covers (place.wrap .run xs) u = true :=
        LikePlace.covers_wrap_iff.2 ⟨u, place.finds_self u, hu⟩
      rwa [holds, hitems]
    have hle := LikePlace.length_le_of_finds ((h u).1 hshort)
    have hlen := LikeItem.length_of_covers hrun hu
    omega
  · exact fun hmem s => holds_written_iff fun _ => hmem

end LikePattern

/-! ### Letter case -/

namespace Text

/-- The text that is compared: as it is, or in upper case. -/
def folded (exactCase : Bool) (s : List Char) : List Char := if exactCase then s else toUpper s

theorem upperChar_of_special {c : Char} (h : Pattern.isSpecial c = true) : upperChar c = [c] := by
  simp only [Pattern.isSpecial, Bool.or_eq_true, beq_iff_eq] at h
  rcases h with ((rfl | rfl) | rfl) | rfl <;> decide

/-- Upper case makes no character special. -/
theorem not_special_of_mem_upperChar {c d : Char} (hc : Pattern.isSpecial c = false)
    (hd : d ∈ upperChar c) : Pattern.isSpecial d = false := by
  by_contra hspecial
  rw [Bool.not_eq_false] at hspecial
  -- the special characters are no upper case of anything else
  have hfree : d.toNat ≠ 0 ∧ isUpperFree d.toNat = true := by
    simp only [Pattern.isSpecial, Bool.or_eq_true, beq_iff_eq] at hspecial
    rcases hspecial with ((rfl | rfl) | rfl) | rfl <;> decide
  rw [eq_of_mem_upperChar hfree.1 hfree.2 hd, hc] at hspecial
  exact absurd hspecial Bool.false_ne_true

theorem toUpper_escapeWildcards (a : List Char) :
    toUpper (Pattern.escapeWildcards a) = Pattern.escapeWildcards (toUpper a) := by
  induction a with
  | nil => rfl
  | cons c a ih =>
    have hcons : toUpper (c :: a) = upperChar c ++ toUpper a := List.flatMap_cons ..
    have happend : Pattern.escapeWildcards (upperChar c ++ toUpper a) =
        Pattern.escapeWildcards (upperChar c) ++ Pattern.escapeWildcards (toUpper a) :=
      List.flatMap_append
    rw [hcons, happend, ← ih, Pattern.escapeWildcards_cons]
    by_cases hc : Pattern.isSpecial c = true
    · have hcaret : upperChar '^' = ['^'] := upperChar_of_special rfl
      rw [upperChar_of_special hc]
      simp [toUpper, Pattern.escapeWildcards, hc, hcaret, upperChar_of_special hc]
    · rw [Bool.not_eq_true] at hc
      rw [Pattern.escapeWildcards_of_plain fun d hd => not_special_of_mem_upperChar hc hd]
      simp [toUpper, hc]

theorem folded_escapeWildcards (exactCase : Bool) (a : List Char) :
    folded exactCase (Pattern.escapeWildcards a) =
      Pattern.escapeWildcards (folded exactCase a) := by
  cases exactCase with
  | true => rfl
  | false => exact toUpper_escapeWildcards a

end Text

/-! ### Conditions -/

namespace LikePattern

variable {place : LikePlace} {a : List Char}

/-- Without an escape clause there is nothing that it would be for. -/
theorem plain_of_escape_eq_none (h : (written place a).escape = none) :
    (written place a).chars = place.wrap '%' a ∧ ∀ c ∈ a, Pattern.isSpecial c = false := by
  have hplain : ∀ c ∈ a, Pattern.isSpecial c = false := fun c hc => by
    by_contra hs
    have hcaret := (serves_written place a).special c hc (Bool.not_eq_false _ ▸ hs)
    exact absurd (h.symm.trans hcaret) nofun
  refine ⟨?_, hplain⟩
  rw [show (written place a).chars = _ from LikePlace.placed_eq place _,
    Pattern.escapeWildcards_of_plain hplain]

end LikePattern

namespace Dialect

theorem readLike?_of_readString? {d : Dialect} {s chars : List Char}
    (h : d.readString? s = some (chars, [])) : d.readLike? s = some ⟨chars, none⟩ := by
  rw [readLike?, h]
  rfl

theorem readLike?_of_clause {d : Dialect} {s chars rest : List Char} {e : Char}
    (h : d.readString? s = some (chars, escapeClause ++ rest))
    (hrest : d.readString? rest = some ([e], [])) : d.readLike? s = some ⟨chars, some e⟩ := by
  have hne : escapeClause ++ rest ≠ [] :=
    List.append_ne_nil_of_left_ne_nil (by decide) rest
  have hclause : escapeClause.isPrefixOf? (escapeClause ++ rest) = some rest :=
    List.isPrefixOf?_eq_some_iff_append_eq.2 rfl
  rw [readLike?, h, Option.bind_eq_bind, Option.bind_some]
  generalize escapeClause ++ rest = tail at hne hclause
  cases tail with
  | nil => exact absurd rfl hne
  | cons c tail =>
    dsimp only
    rw [hclause, Option.bind_eq_bind, Option.bind_some, hrest]
    rfl

/-- What is written behind `like` is read back. -/
theorem readLike?_written (d : Dialect) (place : LikePlace) (a : List Char) :
    d.readLike? ((d.quoteString (String.ofList
        (Pattern.placed place (Pattern.escapeWildcards a)))).toList ++
      (if (Pattern.escapeWildcards a).contains '^' then " escape '^'" else "").toList) =
      some (.written place a) := by
  rw [LikePattern.written]
  by_cases h : (Pattern.escapeWildcards a).contains '^' = true
  · have hclause : " escape '^'".toList = escapeClause ++ "'^'".toList := by decide
    have hcaret : d.readString? "'^'".toList = some (['^'], []) := by
      cases d <;> decide
    rw [if_pos h, if_pos h, hclause]
    refine readLike?_of_clause ?_ hcaret
    rw [readString?_quoteString _ (by decide), String.toList_ofList]
  · rw [if_neg h, if_neg h]
    refine readLike?_of_readString? ?_
    rw [readString?_quoteString _ (by decide), String.toList_ofList]
    rfl

/-- The condition that a column contains a text: the pattern is written for the text, and both are
brought to the same letter case. -/
theorem like_eq (d : Dialect) (exactCase : Bool) (column : String) (place : LikePlace)
    (s : String) :
    ∃ r, d.readLike? r.toList = some (.written place (Text.folded exactCase s.toList)) ∧
      d.like exactCase column place s =
        (if exactCase then column else "upper(" ++ column ++ ")") ++ " like " ++ r := by
  have hfolded := Text.folded_escapeWildcards exactCase s.toList
  rw [Text.folded] at hfolded
  rw [like, hfolded]
  refine ⟨_, ?_, String.append_assoc⟩
  rw [String.toList_append]
  exact d.readLike?_written place _

end Dialect

end QueryClause
