import QueryClause.Proofs.Sql.Identifier

/-!
# Parts of texts in SQL

`SqlText` is the syntax of a column and of the parts that `substring` takes out of a text, one
inside the other.  A part is given by its first position, counted from one, and by the number of its
positions, if it does not go up to the end; it has the characters that the text has at these
positions (`Text.window`).

In every dialect a text is written by one syntax at most (`SqlText.written_inj`): what is taken for
the name of a function is followed by a parenthesis, and a column is not.
-/

namespace QueryClause

/-! ### Positions -/

namespace Text

/-- The characters of a text at the positions from `first` on, which are counted from one, as many
positions as `count` says. -/
def window (first : Int) (count : Option Int) (s : List Char) : List Char :=
  ((s.zipIdx 1).filter fun p => first ≤ p.2 && count.all fun n => p.2 < first + n).map Prod.fst

theorem map_filter_zipIdx_from (s : List Char) (lo i : Nat) :
    ((s.zipIdx i).filter fun p => lo ≤ p.2).map Prod.fst = s.drop (lo - i) := by
  induction s generalizing i with
  | nil => simp
  | cons c rest ih =>
    rw [List.zipIdx_cons, List.filter_cons]
    by_cases h : lo ≤ i
    · have hstart : lo - i = 0 := Nat.sub_eq_zero_of_le h
      have hnext : lo - (i + 1) = 0 := by omega
      rw [if_pos (decide_eq_true h), List.map_cons, ih, hstart, hnext]
      rfl
    · have hstep : lo - i = lo - (i + 1) + 1 := by omega
      rw [if_neg (by simpa using h), ih, hstep, List.drop_succ_cons]

theorem map_filter_zipIdx_between (s : List Char) (lo hi i : Nat) :
    ((s.zipIdx i).filter fun p => lo ≤ p.2 && p.2 < hi).map Prod.fst =
      (s.drop (lo - i)).take (hi - max lo i) := by
  induction s generalizing i with
  | nil => simp
  | cons c rest ih =>
    rw [List.zipIdx_cons, List.filter_cons]
    by_cases hlo : lo ≤ i
    · have hstart : lo - i = 0 := Nat.sub_eq_zero_of_le hlo
      have hnext : lo - (i + 1) = 0 := by omega
      have hmax : max lo i = i := Nat.max_eq_right hlo
      have hmax' : max lo (i + 1) = i + 1 := Nat.max_eq_right (by omega)
      by_cases hhi : i < hi
      · have hstep : hi - i = hi - (i + 1) + 1 := by omega
        rw [if_pos (by simp [hlo, hhi]), List.map_cons, ih, hstart, hnext, hmax, hmax', hstep]
        rfl
      · have hnone : hi - i = 0 := by omega
        have hnone' : hi - (i + 1) = 0 := by omega
        rw [if_neg (by simp [hhi]), ih, hmax, hmax', hnone, hnone', List.take_zero, List.take_zero]
    · have hstep : lo - i = lo - (i + 1) + 1 := by omega
      have hmax : max lo (i + 1) = max lo i := by omega
      rw [if_neg (by simp [hlo]), ih, hstep, List.drop_succ_cons, hmax]

/-- The positions from one on are those behind some characters. -/
theorem window_none (k : Nat) (s : List Char) : window (k + 1) none s = s.drop k := by
  have hpositions : window (k + 1) none s =
      ((s.zipIdx 1).filter fun p => k + 1 ≤ p.2).map Prod.fst := by
    rw [window]
    refine congrArg (List.map Prod.fst) (List.filter_congr fun p _ => ?_)
    simp only [Option.all_none, Bool.and_true, decide_eq_decide]
    omega
  rw [hpositions, map_filter_zipIdx_from, Nat.add_sub_cancel]

theorem window_some (k n : Nat) (s : List Char) :
    window (k + 1) (some n) s = (s.drop k).take n := by
  have hpositions : window (k + 1) (some n) s =
      ((s.zipIdx 1).filter fun p => k + 1 ≤ p.2 && p.2 < k + 1 + n).map Prod.fst := by
    rw [window]
    refine congrArg (List.map Prod.fst) (List.filter_congr fun p _ => ?_)
    have hlo : ((k : Int) + 1 ≤ p.2) ↔ k + 1 ≤ p.2 := by omega
    have hhi : ((p.2 : Int) < k + 1 + n) ↔ p.2 < k + 1 + n := by omega
    simp only [Option.all_some, hlo, hhi]
  have hcount : k + 1 + n - max (k + 1) 1 = n := by omega
  rw [hpositions, map_filter_zipIdx_between, hcount, Nat.add_sub_cancel]

end Text

/-! ### Columns -/

/-- A column as a dialect writes it. -/
def ColumnPath.written (p : ColumnPath) (d : Dialect) : String :=
  match p.table? with
  | none => d.quoteIdentifier p.name
  | some table => d.qualifiedColumn table p.name

namespace Dialect

variable {d : Dialect} {rest : List Char}

/-- Read a column, and give it and what follows it. -/
def readPath? (d : Dialect) (s : List Char) : Option (ColumnPath × List Char) :=
  match d.readIdentifier? s with
  | some (table, '.' :: rest) => (d.readIdentifier? rest).map fun r => (⟨some table, r.1⟩, r.2)
  | some (name, rest) => some (⟨none, name⟩, rest)
  | none => none

/-- A blank and a closing parenthesis end an identifier. -/
theorem ne_closing_of_ends (h : Layout.Ends rest) {ch : Char} (hch : rest.head? = some ch) :
    ch ≠ '.' ∧ ch ≠ d.closing .name ∧ Identifier.isBareChar ch = false := by
  rcases h ch hch with rfl | rfl <;>
    exact ⟨by decide, by cases d <;> decide, by decide⟩

theorem readPath?_written (p : ColumnPath) (h : Layout.Ends rest) :
    d.readPath? ((p.written d).toList ++ rest) = some (p, rest) := by
  have hname : ∀ name, d.readIdentifier? ((d.quoteIdentifier name).toList ++ rest) =
      some (name, rest) := fun name =>
    readIdentifier?_append name rest fun ch hch => (ne_closing_of_ends h hch).2
  obtain ⟨table, name⟩ := p
  cases table with
  | none =>
    simp only [readPath?, ColumnPath.written, hname]
    split
    · rename_i heq
      obtain ⟨-, rfl⟩ := Prod.mk.inj (Option.some.inj heq)
      exact absurd rfl (ne_closing_of_ends (d := d) h rfl).1
    · rename_i heq
      cases heq
      rfl
    · rename_i heq
      cases heq
  | some table =>
    have hdot : ∀ ch, ('.' :: ((d.quoteIdentifier name).toList ++ rest)).head? = some ch →
        ch ≠ d.closing .name ∧ Identifier.isBareChar ch = false := by
      rintro ch ⟨⟩
      exact ⟨dot_ne_closing d, by decide⟩
    have htable := readIdentifier?_append table _ hdot
    have htext : (ColumnPath.written ⟨some table, name⟩ d).toList ++ rest =
        (d.quoteIdentifier table).toList ++ '.' :: ((d.quoteIdentifier name).toList ++ rest) := by
      simp [ColumnPath.written, qualifiedColumn]
    simp only [readPath?, htext, htable, hname, Option.map_some]

/-- The name of a function is followed by a parenthesis. -/
theorem readPath?_substring (d : Dialect) (s : List Char) :
    d.readPath? ("substring".toList ++ '(' :: s) = some (⟨none, "substring"⟩, '(' :: s) := by
  have hbare : IsBareName "substring" := isBareName_of_not_needsQuoting (by decide)
  have hopen : ∀ ch, ('(' :: s).head? = some ch → Identifier.isBareChar ch = false := by
    rintro ch ⟨⟩
    rfl
  rw [readPath?, readIdentifier?_of_isBareName hbare hopen]
  rfl

end Dialect

/-! ### Parts -/

/-- A column, or a part of a text. -/
inductive SqlText where
  | column (path : ColumnPath)
  /-- The positions of a text from the first on, as many as there is a number. -/
  | part (whole : SqlText) (first : Int) (count : Option Int)
  deriving DecidableEq, Repr

namespace SqlText

/-- How the number of positions is written. -/
def countText : Option Int → String
  | none => ""
  | some n => " for " ++ Text.ofInt n

/-- The SQL of a text. -/
def written (d : Dialect) : SqlText → String
  | column path => path.written d
  | part whole first count =>
    "substring(" ++ whole.written d ++ " from " ++ Text.ofInt first ++ countText count ++ ")"

/-- The characters of a text on a row, if the column is a text and no number of positions is
negative. -/
def chars? (row : ColumnPath → Value) : SqlText → Option (List Char)
  | column path => (row path).asString?.map String.toList
  | part whole first count =>
    if count.any (· < 0) then none else (whole.chars? row).map (Text.window first count)

variable {d : Dialect} {r s : List Char} {whole : SqlText} {first : Int} {count : Option Int}

theorem written_column {path : ColumnPath} : (column path).written d = path.written d := rfl

theorem written_part : (part whole first count).written d =
    "substring(" ++ whole.written d ++ " from " ++ Text.ofInt first ++ countText count ++ ")" :=
  rfl

theorem written_part_none : (part whole first none).written d =
    "substring(" ++ whole.written d ++ " from " ++ Text.ofInt first ++ ")" := by
  rw [written_part, countText, String.append_empty]

theorem written_part_some (n : Int) : (part whole first (some n)).written d =
    "substring(" ++ whole.written d ++ " from " ++ Text.ofInt first ++ " for " ++ Text.ofInt n ++
      ")" := by
  simp only [written_part, countText, String.append_assoc]

theorem toList_written_part (r : List Char) :
    ((part whole first count).written d).toList ++ r =
      "substring".toList ++ '(' :: ((whole.written d).toList ++ ' ' :: ("from ".toList ++
        ((Text.ofInt first).toList ++ ((countText count).toList ++ ')' :: r)))) := by
  simp [written_part]

theorem endsWord_countText (count : Option Int) (r : List Char) :
    EndsWord ((countText count).toList ++ ')' :: r) := by
  cases count with
  | none => exact Layout.endsWord_cons rfl
  | some n =>
    rw [countText, String.toList_append]
    exact Layout.endsWord_cons rfl

/-- A text determines the number of positions in front of a parenthesis. -/
theorem countText_inj {m n : Option Int}
    (h : (countText m).toList ++ ')' :: r = (countText n).toList ++ ')' :: s) :
    m = n ∧ r = s := by
  have hblank : ∀ (k : Int) (u v : List Char),
      ')' :: u ≠ (countText (some k)).toList ++ v := by
    intro k u v h
    rw [countText, String.toList_append] at h
    exact absurd (List.cons.inj h).1 (by decide)
  cases m with
  | none =>
    cases n with
    | none => exact ⟨rfl, (List.cons.inj h).2⟩
    | some n => exact absurd h (hblank n _ _)
  | some m =>
    cases n with
    | none => exact absurd h.symm (hblank m _ _)
    | some n =>
      rw [countText, countText, String.toList_append, String.toList_append, List.append_assoc,
        List.append_assoc] at h
      obtain ⟨hnumber, hrest⟩ := (isWord_ofInt m).append_inj (isWord_ofInt n)
        (Layout.endsWord_cons rfl) (Layout.endsWord_cons rfl) (List.append_cancel_left h)
      rw [Text.ofInt_inj (String.toList_inj.1 hnumber)]
      exact ⟨rfl, (List.cons.inj hrest).2⟩

/-- A column is not written as a part. -/
theorem written_column_ne_part {path : ColumnPath} (hr : Layout.Ends r) :
    (path.written d).toList ++ r ≠ ((part whole first count).written d).toList ++ s := by
  intro h
  have hread := Dialect.readPath?_written (d := d) path hr
  rw [h, toList_written_part, Dialect.readPath?_substring] at hread
  obtain ⟨-, rfl⟩ := Prod.mk.inj (Option.some.inj hread)
  rcases hr _ rfl with h | h <;> cases h

/-- A text determines its first syntax. -/
theorem written_append_inj {x y : SqlText} (hr : Layout.Ends r) (hs : Layout.Ends s)
    (h : (x.written d).toList ++ r = (y.written d).toList ++ s) : x = y ∧ r = s := by
  induction x generalizing y r s with
  | column path =>
    cases y with
    | column path' =>
      have hread := Dialect.readPath?_written (d := d) path hr
      have hread' := Dialect.readPath?_written (d := d) path' hs
      rw [written_column, written_column] at h
      rw [h, hread'] at hread
      obtain ⟨rfl, rfl⟩ := Prod.mk.inj (Option.some.inj hread)
      exact ⟨rfl, rfl⟩
    | part => exact absurd h (written_column_ne_part hr)
  | part whole first count ih =>
    cases y with
    | column path => exact absurd h.symm (written_column_ne_part hs)
    | part whole' first' count' =>
      rw [toList_written_part, toList_written_part] at h
      have hinner := (List.cons.inj (List.append_cancel_left h)).2
      -- the inner text ends at the blank, the first position before the number of positions
      obtain ⟨rfl, hfrom⟩ := ih (Layout.ends_cons (.inl rfl)) (Layout.ends_cons (.inl rfl)) hinner
      have hnumbers := List.append_cancel_left (List.cons.inj hfrom).2
      obtain ⟨hfirst, hcount⟩ := (isWord_ofInt first).append_inj (isWord_ofInt first')
        (endsWord_countText _ _) (endsWord_countText _ _) hnumbers
      obtain ⟨rfl, rfl⟩ := countText_inj hcount
      rw [Text.ofInt_inj (String.toList_inj.1 hfirst)]
      exact ⟨rfl, rfl⟩

/-- A text is written by one syntax at most. -/
theorem written_inj {x y : SqlText} (h : x.written d = y.written d) : x = y :=
  (written_append_inj (r := []) (s := []) nofun nofun (by rw [h])).1

end SqlText

end QueryClause
