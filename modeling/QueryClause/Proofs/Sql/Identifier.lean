import QueryClause.Proofs.Sql.Token

/-!
# Names that are read back

`Dialect.readColumn?` reads a column as a dialect does: an identifier, or two with a dot between
them, where an identifier is a run of bare characters or stands in the quotes of the dialect, with
the closing one doubled inside.

Whatever characters a name has, its identifier is read back up to what follows it
(`Dialect.readIdentifier?_append`), so a qualified column tells its table and its name apart, and is
no other column (`Dialect.readColumn?_qualifiedColumn`).
-/

namespace QueryClause

namespace Dialect

/-! ### Reading -/

/-- Read an identifier whose opening quote has been read, and give its name and what follows it. -/
def readQuoted? (close : Char) : List Char → Option (List Char × List Char)
  | [] => none
  | c :: rest =>
    if c = close then
      match rest with
      | [] => some ([], [])
      | e :: rest =>
        if e = close then (readQuoted? close rest).map fun r => (close :: r.1, r.2)
        else some ([], e :: rest)
    else (readQuoted? close rest).map fun r => (c :: r.1, r.2)

/-- Read an identifier, and give its name and what follows it. -/
def readIdentifier? (d : Dialect) : List Char → Option (String × List Char)
  | [] => none
  | c :: rest =>
    if c = d.nameOpening then
      (readQuoted? (d.closing .name) rest).map fun r => (String.ofList r.1, r.2)
    else if Identifier.isBareChar c then
      some (String.ofList ((c :: rest).takeWhile Identifier.isBareChar),
        (c :: rest).dropWhile Identifier.isBareChar)
    else none

/-- Read a column, up to the end of a text. -/
def readColumn? (d : Dialect) (s : List Char) : Option ColumnPath :=
  match d.readIdentifier? s with
  | some (name, []) => some ⟨none, name⟩
  | some (table, '.' :: rest) =>
    match d.readIdentifier? rest with
    | some (name, []) => some ⟨some table, name⟩
    | _ => none
  | _ => none

/-! ### Identifiers -/

variable {d : Dialect} {name : String} {rest : List Char}

theorem readQuoted?_doubled {close : Char} (cs : List Char) (h : rest.head? ≠ some close) :
    readQuoted? close (Identifier.doubled close cs ++ close :: rest) = some (cs, rest) := by
  induction cs with
  | nil =>
    rw [Identifier.doubled, List.flatMap_nil, List.nil_append, readQuoted?.eq_def]
    cases rest with
    | nil => simp
    | cons e rest =>
      have he : e ≠ close := fun heq => h (congrArg some heq)
      simp [he]
  | cons c cs ih =>
    have hcons : Identifier.doubled close (c :: cs) =
        (if c = close then [close, close] else [c]) ++ Identifier.doubled close cs :=
      List.flatMap_cons ..
    rw [hcons, List.append_assoc]
    by_cases hc : c = close
    · -- of two closing quotes, one belongs to the name
      simp [hc, readQuoted?, ih]
    · rw [if_neg hc, List.singleton_append, readQuoted?.eq_def]
      simp [hc, ih]

theorem readIdentifier?_quoteWith (name : String) (h : rest.head? ≠ some (d.closing .name)) :
    d.readIdentifier? ((Identifier.quoteWith d.nameOpening (d.closing .name) name).toList ++ rest) =
      some (name, rest) := by
  rw [Identifier.quoteWith, String.toList_ofList, List.cons_append, List.cons_append,
    List.append_assoc, List.singleton_append, readIdentifier?, if_pos rfl,
    readQuoted?_doubled _ h]
  simp

theorem readIdentifier?_of_isBareName (hbare : IsBareName name)
    (h : ∀ c, rest.head? = some c → Identifier.isBareChar c = false) :
    d.readIdentifier? (name.toList ++ rest) = some (name, rest) := by
  have htake := Text.takeWhile_run hbare.bare h
  have hdrop := Text.dropWhile_run hbare.bare h
  obtain ⟨c, cs, hchars⟩ := List.exists_cons_of_ne_nil hbare.nonempty
  have hfirst : Identifier.isBareChar c = true :=
    hbare.bare c (by rw [hchars]; exact List.mem_cons_self)
  have hopening : c ≠ d.nameOpening := by
    rintro rfl
    cases d <;> exact absurd hfirst (by decide)
  rw [hchars, List.cons_append] at htake hdrop ⊢
  rw [readIdentifier?, if_neg hopening, if_pos hfirst, htake, hdrop, ← hchars,
    String.ofList_toList]

/-- An identifier is read back, up to what cannot belong to it. -/
theorem readIdentifier?_append (name : String) (rest : List Char)
    (h : ∀ c, rest.head? = some c → c ≠ d.closing .name ∧ Identifier.isBareChar c = false) :
    d.readIdentifier? ((d.quoteIdentifier name).toList ++ rest) = some (name, rest) := by
  have hquoted : rest.head? ≠ some (d.closing .name) := fun hc => (h _ hc).1 rfl
  have hifneeded : d.quoteIdentifier name = Identifier.quoteIfNeeded name →
      d.nameOpening = '"' → d.closing .name = '"' →
      d.readIdentifier? ((d.quoteIdentifier name).toList ++ rest) = some (name, rest) := by
    intro hd hopening hclosing
    rw [hd]
    rcases isBareName_or_quoted name with ⟨heq, hbare⟩ | heq <;> rw [heq]
    · exact readIdentifier?_of_isBareName hbare fun c hc => (h c hc).2
    · have hread := readIdentifier?_quoteWith name hquoted
      rwa [hopening, hclosing] at hread
  cases d with
  | generic | oracle => exact hifneeded rfl rfl rfl
  | _ => exact readIdentifier?_quoteWith name hquoted

/-! ### Columns -/

/-- Whether a dialect leaves identifiers bare that need no quotes. -/
def leavesBare : Dialect → Bool
  | generic | oracle => true
  | _ => false

theorem dot_ne_closing (d : Dialect) : '.' ≠ d.closing .name := by
  cases d <;> decide

theorem readIdentifier?_quoteIdentifier (name : String) :
    d.readIdentifier? (d.quoteIdentifier name).toList = some (name, []) := by
  have hread := readIdentifier?_append (d := d) name [] nofun
  rwa [List.append_nil] at hread

/-- A name alone is read as a column without a table. -/
theorem readColumn?_quoteIdentifier (name : String) :
    d.readColumn? (d.quoteIdentifier name).toList = some ⟨none, name⟩ := by
  rw [readColumn?, readIdentifier?_quoteIdentifier]

/-- A qualified column is read as its table and its name. -/
theorem readColumn?_qualified (table column : String) :
    d.readColumn? (d.qualifiedColumn table column).toList = some ⟨some table, column⟩ := by
  have hdot : ∀ c, ('.' :: (d.quoteIdentifier column).toList).head? = some c →
      c ≠ d.closing .name ∧ Identifier.isBareChar c = false := by
    rintro c ⟨⟩
    exact ⟨dot_ne_closing d, by decide⟩
  have hchars : (d.qualifiedColumn table column).toList =
      (d.quoteIdentifier table).toList ++ '.' :: (d.quoteIdentifier column).toList := by
    simp [qualifiedColumn]
  have htable := readIdentifier?_append table _ hdot
  rw [← hchars] at htable
  simp only [readColumn?, htable, readIdentifier?_quoteIdentifier]

theorem length_le_doubled (c : Char) (s : List Char) :
    s.length ≤ (Identifier.doubled c s).length := by
  induction s with
  | nil => exact Nat.le_refl 0
  | cons a s ih =>
    have hcons : Identifier.doubled c (a :: s) =
        (if a = c then [c, c] else [a]) ++ Identifier.doubled c s := List.flatMap_cons ..
    rw [hcons, List.length_append, List.length_cons]
    split <;> simp only [List.length_cons, List.length_nil] <;> omega

/-- What is left bare needs no quotes. -/
theorem isBareName_of_bare (hd : d.leavesBare = true) (h : d.quoteIdentifier name = name) :
    IsBareName name := by
  have hquote : d.quoteIdentifier name = Identifier.quoteIfNeeded name := by
    cases d with
    | generic | oracle => rfl
    | _ => cases hd
  rcases isBareName_or_quoted name with ⟨-, hbare⟩ | hquoted
  · exact hbare
  · -- quotes would have made the name longer
    have hwith : (Identifier.quoteWith '"' '"' name).toList.length = name.toList.length := by
      rw [← hquoted, ← hquote, h]
    have hdoubled := length_le_doubled '"' name.toList
    rw [Identifier.quoteWith, String.toList_ofList] at hwith
    simp only [List.cons_append, List.length_cons, List.length_append, List.length_nil] at hwith
    omega

/-- **Qualified columns are unambiguous**: read as two identifiers with a dot between them, one is
its table and its name again, whatever characters these have.  So no two of them are equal, and none
is a name alone.  A name that is left bare is not empty, starts with no numeric character, and is no
reserved word in any letter case. -/
theorem readColumn?_qualifiedColumn (d : Dialect) (table column : String) :
    d.readColumn? (d.qualifiedColumn table column).toList = some ⟨some table, column⟩ ∧
      Function.Injective2 d.qualifiedColumn ∧
      (∀ name, d.qualifiedColumn table column ≠ d.quoteIdentifier name) ∧
      ∀ name, d.leavesBare = true → d.quoteIdentifier name = name →
        name ≠ "" ∧ (∀ c, name.toList.head? = some c → Text.isNumeric c = false) ∧
          ∀ word ∈ Identifier.reservedWords,
            lowered name ≠ word ∧ String.ofList (name.toList.map Char.toLower) ≠ word := by
  refine ⟨readColumn?_qualified table column, ?_, fun name h => ?_, fun name hd h => ?_⟩
  · intro t t' c c' h
    have hread := readColumn?_qualified (d := d) t c
    rw [h, readColumn?_qualified] at hread
    simpa [eq_comm] using hread
  · have hread := readColumn?_qualified (d := d) table column
    rw [h, readColumn?_quoteIdentifier] at hread
    simp at hread
  · have hbare := isBareName_of_bare hd h
    have hlatin : ∀ word ∈ Identifier.reservedWords, word.toList.all Char.isLower = true := by
      decide
    refine ⟨?_, hbare.notNumeric, fun word hword => ⟨?_, ?_⟩⟩
    · rintro rfl
      exact hbare.nonempty rfl
    · rintro rfl
      exact hbare.notReserved hword
    · exact hbare.map_toLower_ne (hlatin word hword) hword

/-- A name with a dot and a quote, beside one that needs no quotes. -/
theorem readColumn?_qualifiedColumn_dotted :
    let table := "a.\"b"
    let column := "Größe_2"
    oracle.leavesBare = true ∧ oracle.quoteIdentifier column = column ∧
      oracle.readColumn? (oracle.qualifiedColumn table column).toList = some ⟨some table, column⟩ ∧
      lowered column ∉ Identifier.reservedWords := by
  intro table column
  have hbare : oracle.quoteIdentifier column = column := by decide
  obtain ⟨hread, -, -, hname⟩ := readColumn?_qualifiedColumn oracle table column
  exact ⟨rfl, hbare, hread, fun hmem => ((hname column rfl hbare).2.2 _ hmem).1 rfl⟩

end Dialect

end QueryClause
