import QueryClause.Sql.Pattern
import Mathlib.Data.List.Infix

/-!
# The meaning of LIKE

What stands behind `like` is a string literal and possibly an escape clause; `Dialect.readLike?`
reads both as the lexer of the dialect does.  The pattern that the literal spells is a list of items
(`LikeItem`), and `LikeItem.covers` says which texts it matches.  SQL Server alone has items for
classes of characters, between brackets.

With the sign for any run at one end or at both, items match what starts with a text that they
cover, ends with one, or contains one (`LikePlace.covers_wrap_iff`).
-/

namespace QueryClause

/-! ### Reading -/

/-- A pattern and the character that takes the next one as it is, if there is an escape clause. -/
structure LikePattern where
  chars : List Char
  escape : Option Char
  deriving DecidableEq, Repr

namespace Dialect

/-- What a backslash and a character stand for in a string literal of MySQL. -/
def unescaped : Char → List Char
  | '0' => ['\x00']
  | 'b' => ['\x08']
  | 'n' => ['\n']
  | 'r' => ['\r']
  | 't' => ['\t']
  | 'Z' => ['\x1a']
  | '%' => ['\\', '%']
  | '_' => ['\\', '_']
  | c => [c]

/-- Read a string literal whose quote has been read, and give its text and what follows it. -/
def readInside? (d : Dialect) : List Char → Option (List Char × List Char)
  | [] => none
  | c :: rest =>
    if c = '\'' then
      match rest with
      | '\'' :: rest => (d.readInside? rest).map fun r => ('\'' :: r.1, r.2)
      | rest => some ([], rest)
    else if d = mysql && c = '\\' then
      match rest with
      | [] => none
      | e :: rest => (d.readInside? rest).map fun r => (unescaped e ++ r.1, r.2)
    else (d.readInside? rest).map fun r => (c :: r.1, r.2)

/-- Read a string literal, and give its text and what follows it. -/
def readString? (d : Dialect) : List Char → Option (List Char × List Char)
  | '\'' :: rest => d.readInside? rest
  | _ => none

/-- What stands between a pattern and its escape character. -/
def escapeClause : List Char := " escape ".toList

/-- Read a pattern and an escape clause, up to the end of a text. -/
def readLike? (d : Dialect) (s : List Char) : Option LikePattern := do
  match ← d.readString? s with
  | (chars, []) => return ⟨chars, none⟩
  | (chars, rest) =>
    match ← d.readString? (← escapeClause.isPrefixOf? rest) with
    | ([e], []) => return ⟨chars, some e⟩
    | _ => none

end Dialect

/-! ### Matching -/

/-- An item of a pattern. -/
inductive LikeItem where
  /-- Any run of characters. -/
  | run
  /-- Any one character. -/
  | one
  | char (c : Char)
  /-- One character from some ranges, or from outside of them all. -/
  | among (negated : Bool) (ranges : List (Char × Char))
  deriving DecidableEq, Repr

namespace LikeItem

/-- Whether an item that stands for one character stands for this one. -/
def fits : LikeItem → Char → Bool
  | run, _ => false
  | one, _ => true
  | char c, d => c == d
  | among negated ranges, d => ranges.any (fun r => r.1 ≤ d && d ≤ r.2) != negated

/-- Whether some items cover a text. -/
def covers : List LikeItem → List Char → Bool
  | [], s => s.isEmpty
  | run :: items, s => s.tails.any (covers items)
  | x :: items, s =>
    match s with
    | [] => false
    | c :: s => x.fits c && covers items s

end LikeItem

/-- A character of a pattern, and whether it was escaped. -/
structure LikeChar where
  char : Char
  escaped : Bool
  deriving DecidableEq, Repr

namespace LikeChar

/-- The ranges that some characters between brackets spell: a hyphen between two of them means all
from the one to the other. -/
def ranges : List LikeChar → List (Char × Char)
  | first :: ⟨'-', false⟩ :: last :: rest => (first.char, last.char) :: ranges rest
  | x :: rest => (x.char, x.char) :: ranges rest
  | [] => []

/-- The class that some characters between brackets spell: a caret in front negates it. -/
def classItem : List LikeChar → LikeItem
  | ⟨'^', false⟩ :: rest => .among true (ranges rest)
  | chars => .among false (ranges chars)

/-- The items that some characters spell; `inClass` holds what has been read of a class that is
open, and `brackets` says whether there are classes. -/
def items? (brackets : Bool) (inClass : Option (List LikeChar)) :
    List LikeChar → Option (List LikeItem)
  | [] => if inClass.isNone then some [] else none
  | x :: rest =>
    match inClass with
    | some chars =>
      if x = ⟨']', false⟩ then (items? brackets none rest).map (classItem chars :: ·)
      else items? brackets (some (chars ++ [x])) rest
    | none =>
      if x = ⟨'%', false⟩ then (items? brackets none rest).map (.run :: ·)
      else if x = ⟨'_', false⟩ then (items? brackets none rest).map (.one :: ·)
      else if brackets ∧ x = ⟨'[', false⟩ then items? brackets (some []) rest
      else (items? brackets none rest).map (.char x.char :: ·)

end LikeChar

namespace LikePattern

/-- The characters of a pattern without the escapes; `pending` says whether an escape is open. -/
def unescape? (escape : Option Char) (pending : Bool) : List Char → Option (List LikeChar)
  | [] => if pending then none else some []
  | c :: rest =>
    if pending then (unescape? escape false rest).map (⟨c, true⟩ :: ·)
    else if escape = some c then unescape? escape true rest
    else (unescape? escape false rest).map (⟨c, false⟩ :: ·)

/-- The items of a pattern. -/
def items? (brackets : Bool) (p : LikePattern) : Option (List LikeItem) :=
  (unescape? p.escape false p.chars).bind (LikeChar.items? brackets none)

/-- Whether a pattern of a dialect matches a text; what is no pattern matches nothing. -/
def holds (d : Dialect) (p : LikePattern) (s : List Char) : Bool :=
  (p.items? (d == .sqlServer)).any fun items => LikeItem.covers items s

end LikePattern

/-- The text is found in another one at this place. -/
def LikePlace.Finds (place : LikePlace) (a s : List Char) : Prop :=
  match place with
  | .start => a <+: s
  | .end => a <:+ s
  | .anywhere => a <:+: s

/-! ### Literals -/

namespace Dialect

variable {d : Dialect}

theorem readInside?_stringChars {s rest : List Char} (h : rest.head? ≠ some '\'') :
    d.readInside? (s.flatMap d.stringChar ++ '\'' :: rest) = some (s, rest) := by
  induction s with
  | nil =>
    rw [List.flatMap_nil, List.nil_append, readInside?.eq_def]
    dsimp only
    rw [if_pos rfl]
    split
    · exact absurd rfl h
    · rfl
  | cons c s ih =>
    rw [List.flatMap_cons, List.append_assoc, stringChar]
    by_cases hquote : c = '\''
    · subst hquote
      simp [readInside?, ih]
    · rw [if_neg hquote]
      by_cases hslash : (d = mysql && c = '\\') = true
      · -- a backslash is doubled, and the second one is what the pair stands for
        rw [if_pos hslash]
        simp only [Bool.and_eq_true, decide_eq_true_eq] at hslash
        obtain ⟨rfl, rfl⟩ := hslash
        simp [readInside?, ih, unescaped]
      · rw [if_neg hslash, List.singleton_append, readInside?.eq_def]
        dsimp only
        rw [if_neg hquote, if_neg hslash, ih]
        rfl

theorem readString?_quoteString (s : String) {rest : List Char} (h : rest.head? ≠ some '\'') :
    d.readString? ((d.quoteString s).toList ++ rest) = some (s.toList, rest) := by
  have hread := readInside?_stringChars (d := d) (s := s.toList) h
  rw [quoteString, String.toList_ofList, List.cons_append, List.cons_append, List.append_assoc]
  exact hread

end Dialect

/-! ### Covering -/

namespace LikeItem

variable {xs ys : List LikeItem} {s u : List Char}

theorem covers_run_iff : covers (run :: xs) s = true ↔ ∃ t, t <:+ s ∧ covers xs t = true := by
  rw [covers, List.any_eq_true]
  exact exists_congr fun t => and_congr_left fun _ => List.mem_tails t s

theorem covers_cons_iff {x : LikeItem} (hx : x ≠ run) :
    covers (x :: xs) s = true ↔ ∃ c t, s = c :: t ∧ x.fits c = true ∧ covers xs t = true := by
  cases x with
  | run => exact absurd rfl hx
  | _ => cases s <;> simp [covers]

theorem covers_append_iff :
    covers (xs ++ ys) s = true ↔ ∃ u v, s = u ++ v ∧ covers xs u = true ∧ covers ys v = true := by
  induction xs generalizing s with
  | nil => simp [covers]
  | cons x xs ih =>
    rw [List.cons_append]
    by_cases hx : x = run
    · rw [hx, covers_run_iff]
      constructor
      · rintro ⟨t, ⟨w, rfl⟩, ht⟩
        obtain ⟨u, v, rfl, hu, hv⟩ := ih.1 ht
        exact ⟨w ++ u, v, (List.append_assoc ..).symm,
          covers_run_iff.2 ⟨u, List.suffix_append w u, hu⟩, hv⟩
      · rintro ⟨u, v, rfl, hu, hv⟩
        obtain ⟨t, ⟨w, rfl⟩, ht⟩ := covers_run_iff.1 hu
        exact ⟨t ++ v, ⟨w, (List.append_assoc ..).symm⟩, ih.2 ⟨t, v, rfl, ht, hv⟩⟩
    · rw [covers_cons_iff hx]
      constructor
      · rintro ⟨c, t, rfl, hc, ht⟩
        obtain ⟨u, v, rfl, hu, hv⟩ := ih.1 ht
        exact ⟨c :: u, v, rfl, (covers_cons_iff hx).2 ⟨c, u, rfl, hc, hu⟩, hv⟩
      · rintro ⟨u, v, rfl, hu, hv⟩
        obtain ⟨c, t, rfl, hc, ht⟩ := (covers_cons_iff hx).1 hu
        exact ⟨c, t ++ v, rfl, hc, ih.2 ⟨t, v, rfl, ht, hv⟩⟩

theorem covers_chars_iff {a : List Char} : covers (a.map char) s = true ↔ s = a := by
  induction a generalizing s with
  | nil => simp [covers]
  | cons c a ih =>
    rw [List.map_cons, covers_cons_iff (x := char c) nofun]
    constructor
    · rintro ⟨d, t, rfl, hd, ht⟩
      rw [ih.1 ht, beq_iff_eq.1 hd]
    · rintro rfl
      exact ⟨c, a, rfl, beq_self_eq_true c, ih.2 rfl⟩

/-- Items without a run have one character each. -/
theorem length_of_covers (hxs : run ∉ xs) (h : covers xs s = true) : s.length = xs.length := by
  induction xs generalizing s with
  | nil => simpa [covers] using h
  | cons x xs ih =>
    have hx : x ≠ run := fun h => hxs (h ▸ List.mem_cons_self)
    obtain ⟨c, t, rfl, -, ht⟩ := (covers_cons_iff hx).1 h
    rw [List.length_cons, List.length_cons, ih (fun hmem => hxs (List.mem_cons_of_mem _ hmem)) ht]

end LikeItem

namespace LikePlace

/-- A list with another element at the ends that a place leaves open. -/
def wrap {α : Type} (place : LikePlace) (x : α) (xs : List α) : List α :=
  match place with
  | start => xs ++ [x]
  | .end => x :: xs
  | anywhere => x :: (xs ++ [x])

variable {place : LikePlace} {xs : List LikeItem} {a s : List Char}

theorem placed_eq (place : LikePlace) (s : List Char) :
    Pattern.placed place s = place.wrap '%' s := by
  cases place <;> rfl

theorem covers_wrap_iff :
    LikeItem.covers (place.wrap .run xs) s = true ↔
      ∃ u, place.Finds u s ∧ LikeItem.covers xs u = true := by
  have hopen : ∀ s, LikeItem.covers (xs ++ [.run]) s = true ↔
      ∃ u, u <+: s ∧ LikeItem.covers xs u = true := by
    intro s
    have hrun : ∀ v, LikeItem.covers [.run] v = true := fun v =>
      LikeItem.covers_run_iff.2 ⟨[], List.nil_suffix, rfl⟩
    rw [LikeItem.covers_append_iff]
    constructor
    · rintro ⟨u, v, rfl, hu, -⟩
      exact ⟨u, List.prefix_append u v, hu⟩
    · rintro ⟨u, ⟨v, rfl⟩, hu⟩
      exact ⟨u, v, rfl, hu, hrun v⟩
  cases place with
  | start => exact hopen s
  | «end» => exact LikeItem.covers_run_iff
  | anywhere =>
    rw [wrap, LikeItem.covers_run_iff]
    constructor
    · rintro ⟨t, hts, ht⟩
      obtain ⟨u, hut, hu⟩ := (hopen t).1 ht
      exact ⟨u, List.infix_iff_prefix_suffix.2 ⟨t, hut, hts⟩, hu⟩
    · rintro ⟨u, hus, hu⟩
      obtain ⟨t, hut, hts⟩ := List.infix_iff_prefix_suffix.1 hus
      exact ⟨t, hts, (hopen t).2 ⟨u, hut, hu⟩⟩

theorem covers_chars_iff :
    LikeItem.covers (place.wrap .run (a.map .char)) s = true ↔ place.Finds a s := by
  rw [covers_wrap_iff]
  constructor
  · rintro ⟨u, hfinds, hu⟩
    rwa [← LikeItem.covers_chars_iff.1 hu]
  · intro hfinds
    exact ⟨a, hfinds, LikeItem.covers_chars_iff.2 rfl⟩

theorem finds_self (place : LikePlace) (a : List Char) : place.Finds a a := by
  cases place with
  | start => exact List.prefix_refl a
  | «end» => exact List.suffix_refl a
  | anywhere => exact List.infix_refl a

theorem length_le_of_finds (h : place.Finds a s) : a.length ≤ s.length := by
  cases place with
  | start => exact List.IsPrefix.length_le h
  | «end» => exact List.IsSuffix.length_le h
  | anywhere => exact List.IsInfix.length_le h

end LikePlace

end QueryClause
