import QueryClause.Compile.Fragment
import QueryClause.Proofs.Sql.Like
import QueryClause.Proofs.Sql.Literal
import Mathlib.Data.List.TakeWhile

/-!
# Literals that are read back

`Dialect.readLiteral?` reads a literal as a dialect does and gives what it says (`SqlLiteral`): a
keyword, a numeral, a text, or a text that Oracle turns into an identifier or an instant.
`Target.meaning` is what the literal of a value should say.

The SQL of a value is one literal that says so, up to what follows it
(`Fragment.readLiteral?_render`), except that Oracle gets at most `Target.maxNumberLength`
characters of a number with a fraction (`Target.written`).
-/

namespace QueryClause

/-- What a literal says. -/
inductive SqlLiteral where
  | null
  | truth (b : Bool)
  | numeral (s : String)
  | text (s : String)
  /-- A text that Oracle takes as a column of identifiers. -/
  | cast (s : String)
  /-- A text that Oracle reads as an instant by a format. -/
  | timestamp (s format : String)
  deriving DecidableEq, Repr

namespace SqlLiteral

/-! ### Reading -/

/-- Whether a character goes on with a keyword or a numeral. -/
def isWordChar (c : Char) : Bool := Identifier.isBareChar c || c == '.'

/-- A keyword or a numeral in front of a text, and what follows it. -/
def splitWord (s : List Char) : List Char × List Char :=
  match s with
  | '-' :: s => ('-' :: s.takeWhile isWordChar, s.dropWhile isWordChar)
  | s => (s.takeWhile isWordChar, s.dropWhile isWordChar)

/-- Whether a text is made of digits, possibly with a point between them. -/
def isUnsigned (s : List Char) : Bool :=
  !(s.takeWhile Char.isDigit).isEmpty &&
    match s.dropWhile Char.isDigit with
    | [] => true
    | c :: places => c == '.' && !places.isEmpty && places.all Char.isDigit

/-- Whether a text is a numeral. -/
def isNumeral (s : List Char) : Bool :=
  match s with
  | '-' :: s => isUnsigned s
  | s => isUnsigned s

/-- The literal ends where `rest` begins: a text ends before any character but a quote, and what
ends with a parenthesis before any at all. -/
def EndsBefore (l : SqlLiteral) (rest : List Char) : Prop :=
  match l with
  | text _ => rest.head? ≠ some '\''
  | cast _ | timestamp .. => True
  | null | truth _ | numeral _ => ∀ c, rest.head? = some c → isWordChar c = false

end SqlLiteral

namespace Dialect

/-- What stands in front of the text of an identifier in Oracle, and behind it. -/
def castOpening : List Char := "CAST(".toList

@[inherit_doc castOpening]
def castClosing : List Char := " AS VARCHAR2(37))".toList

/-- What stands in front of the text of an instant in Oracle. -/
def timestampOpening : List Char := "TO_TIMESTAMP(".toList

/-- Read the text of an identifier and the rest of its cast. -/
def readCast? (d : Dialect) (s : List Char) : Option (SqlLiteral × List Char) := do
  let (chars, rest) ← d.readString? s
  return (.cast (String.ofList chars), ← castClosing.isPrefixOf? rest)

/-- Read the text of an instant and its format. -/
def readTimestamp? (d : Dialect) (s : List Char) : Option (SqlLiteral × List Char) := do
  let (chars, rest) ← d.readString? s
  let (format, rest) ← d.readString? (← ", ".toList.isPrefixOf? rest)
  return (.timestamp (String.ofList chars) (String.ofList format), ← ")".toList.isPrefixOf? rest)

/-- Read a keyword or a numeral. -/
def readWord? (s : List Char) : Option (SqlLiteral × List Char) :=
  let (word, rest) := SqlLiteral.splitWord s
  if SqlLiteral.isNumeral word then some (.numeral (String.ofList word), rest)
  else if word = "NULL".toList then some (.null, rest)
  else if word = "true".toList then some (.truth true, rest)
  else if word = "false".toList then some (.truth false, rest)
  else none

/-- Read a literal, and give what it says and what follows it. -/
def readLiteral? (d : Dialect) (s : List Char) : Option (SqlLiteral × List Char) :=
  if s.head? = some '\'' then (d.readString? s).map fun r => (.text (String.ofList r.1), r.2)
  else
    match castOpening.isPrefixOf? s, timestampOpening.isPrefixOf? s with
    | some s, _ => d.readCast? s
    | none, some s => d.readTimestamp? s
    | none, none => readWord? s

end Dialect

/-! ### Meaning -/

/-- An instant without hyphens and with milliseconds, as SQL Server takes it. -/
def DateTime.serverText (i : DateTime) : String :=
  Calendar.yearText i.date.civil.year ++ Text.padded 2 i.date.civil.month ++
    Text.padded 2 i.date.civil.day ++ " " ++ i.time.clockText ++ "." ++
      Text.padded 3 (i.time.nanos / 1000000 % 1000)

namespace Target

/-- What the literal of a truth value says. -/
def truth (t : Target) (b : Bool) : SqlLiteral :=
  match t.dialect with
  | .generic | .postgres => .truth b
  | .oracle => .text (if b then "1" else "0")
  | .mysql | .sqlite | .sqlServer => .numeral (if b then "1" else "0")

/-- What the literal of a number with a fraction says. -/
def number (t : Target) (s : String) : SqlLiteral :=
  match t.dialect with
  | .oracle => .text s
  | _ => .numeral s

/-- What the literal of an instant says. -/
def instant (t : Target) (i : DateTime) : SqlLiteral :=
  let millis := i.time.nanos / 1000000 != 0
  match t.dialect with
  | .oracle =>
    if i.time.seconds = 0 && !millis then .timestamp i.date.text "YYYY-MM-DD"
    else .timestamp i.text (if millis then "YYYY-MM-DD HH24:MI:SS.FF3" else "YYYY-MM-DD HH24:MI:SS")
  | .sqlServer => .text i.serverText
  | _ => .text i.text

/-- What the literal of an identifier says. -/
def identifier (t : Target) (g : Guid) : SqlLiteral :=
  match t.dialect with
  | .oracle => if t.compactGuid then .text g.compact else .cast g.text
  | _ => .text g.text

/-- What the literal of a value should say. -/
def meaning (t : Target) : Value → SqlLiteral
  | .null => .null
  | .bool b => t.truth b
  | .int n => .numeral (Text.ofInt n.toInt)
  | .timeSpan s => .numeral (Text.ofInt s.ticks.toInt)
  | .float x => t.number (FloatText.plain x)
  | .decimal d => t.number d.text
  | .dateTime i => t.instant i
  | .guid g => t.identifier g
  | .list items => .text (Value.list items).toJson.text
  | .object name fields => .text (Value.object name fields).toJson.text
  | .char c => .text (String.singleton c)
  | .string s => .text s
  | .enum e n => .text ((e.nameOf? n).getD (Text.ofInt n.toInt))

/-- Whether a target cuts the numbers that it gets. -/
def cuts (t : Target) (v : Value) : Bool :=
  match t.dialect, v with
  | .oracle, .float _ | .oracle, .decimal _ => true
  | _, _ => false

end Target

/-- What a literal says after the longest numbers have been cut. -/
def SqlLiteral.cut : SqlLiteral → SqlLiteral
  | text s => text (String.ofList (s.toList.take Target.maxNumberLength))
  | l => l

/-- What the literal of a value says. -/
def Target.written (t : Target) (v : Value) : SqlLiteral :=
  if t.cuts v then (t.meaning v).cut else t.meaning v

/-! ### Numerals -/

theorem Text.ofInt_eq_signed (n : Int) :
    ofInt n = FloatText.signed (decide (n < 0)) (digits n.natAbs) := by
  rw [ofInt, FloatText.signed]
  by_cases hn : n < 0 <;> simp [hn]

theorem Decimal.scale_lt_length (d : Decimal) : d.scale < d.paddedDigits.length := by
  rw [paddedDigits, List.length_append, List.length_replicate]
  omega

namespace SqlLiteral

variable {cs ds s rest : List Char}

theorem isUnsigned_whole (hne : ds ≠ []) (hds : ∀ c ∈ ds, c.isDigit = true) :
    isUnsigned ds = true := by
  simp [isUnsigned, List.takeWhile_eq_self_iff.2 hds, List.dropWhile_eq_nil_iff.2 hds, hne]

theorem isUnsigned_point (hne : ds ≠ []) (hds : ∀ c ∈ ds, c.isDigit = true) (hcs : cs ≠ [])
    (hplaces : ∀ c ∈ cs, c.isDigit = true) : isUnsigned (ds ++ '.' :: cs) = true := by
  have hpoint : ∀ c, ('.' :: cs).head? = some c → c.isDigit = false := by
    rintro _ ⟨⟩
    rfl
  simp [isUnsigned, Text.takeWhile_run hds hpoint, Text.dropWhile_run hds hpoint, hne, hcs,
    List.all_eq_true.2 hplaces]

theorem digit_or_point_of_isUnsigned (h : isUnsigned s = true) {c : Char} (hc : c ∈ s) :
    c.isDigit = true ∨ c = '.' := by
  rw [← List.takeWhile_append_dropWhile (p := Char.isDigit) (l := s), List.mem_append] at hc
  rcases hc with hc | hc
  · exact .inl (List.mem_takeWhile_imp hc)
  · rw [isUnsigned, Bool.and_eq_true] at h
    cases hplaces : s.dropWhile Char.isDigit with
    | nil => rw [hplaces] at hc; cases hc
    | cons x places =>
      rw [hplaces] at h hc
      simp only [Bool.and_eq_true, beq_iff_eq, List.all_eq_true] at h
      rcases List.mem_cons.1 hc with rfl | hc
      · exact .inr h.2.1.1
      · exact .inl (h.2.2 c hc)

theorem isUnsigned_positional (hne : ds ≠ []) (hds : ∀ c ∈ ds, c.isDigit = true) (e : Int) :
    isUnsigned (FloatText.positional ds e []) = true := by
  have hzeros : ∀ n, ∀ c ∈ FloatText.zeros n, c.isDigit = true := fun n c hc => by
    obtain rfl := List.eq_of_mem_replicate hc
    rfl
  have happend : ∀ {as bs : List Char}, (∀ c ∈ as, c.isDigit = true) →
      (∀ c ∈ bs, c.isDigit = true) → ∀ c ∈ as ++ bs, c.isDigit = true :=
    fun ha hb c hc => (List.mem_append.1 hc).elim (ha c) (hb c)
  have hlength : 0 < ds.length := List.length_pos_iff.2 hne
  unfold FloatText.positional
  -- the point stands behind all digits, among them, or in front of them
  split
  · rw [List.append_nil]
    exact isUnsigned_whole (by simp [hne]) (happend hds (hzeros _))
  · dsimp only
    split
    · refine isUnsigned_point ?_ (fun c hc => hds c (List.mem_of_mem_take hc)) ?_
        (fun c hc => hds c (List.mem_of_mem_drop hc))
      · exact List.ne_nil_of_length_pos (by rw [List.length_take]; omega)
      · exact List.ne_nil_of_length_pos (by rw [List.length_drop]; omega)
    · have hzero : ∀ c ∈ ['0'], c.isDigit = true := List.all_eq_true.1 rfl
      exact isUnsigned_point (by decide) hzero (by simp [hne]) (happend (hzeros _) hds)

theorem isNumeral_signed (negative : Bool) (h : isUnsigned s = true) :
    isNumeral (FloatText.signed negative s).toList = true := by
  rw [FloatText.signed, String.toList_ofList]
  cases negative with
  | true => exact h
  | false =>
    -- an unsigned numeral starts with a digit, so nothing is taken for a sign
    rw [if_neg Bool.false_ne_true]
    unfold isNumeral
    split
    · cases h
    · exact h

theorem isNumeral_ofInt (n : Int) : isNumeral (Text.ofInt n).toList = true := by
  have hdigits : isUnsigned (Text.digits n.natAbs) = true :=
    isUnsigned_whole (Text.digits_ne_nil _) fun c hc => Text.isDigit_of_mem_digits hc
  rw [Text.ofInt_eq_signed]
  exact isNumeral_signed _ hdigits

theorem isNumeral_decimal (d : Decimal) : isNumeral d.text.toList = true := by
  have hdigits : ∀ c ∈ d.paddedDigits, c.isDigit = true :=
    fun c hc => Decimal.isDigit_of_mem_paddedDigits hc
  have hlength := d.scale_lt_length
  refine isNumeral_signed d.negative ?_
  -- without digits behind the point, or with some
  split
  · exact isUnsigned_whole (List.ne_nil_of_length_pos (by omega)) hdigits
  · refine isUnsigned_point ?_ (fun c hc => hdigits c (List.mem_of_mem_take hc)) ?_
      (fun c hc => hdigits c (List.mem_of_mem_drop hc))
    · exact List.ne_nil_of_length_pos (by rw [List.length_take]; omega)
    · exact List.ne_nil_of_length_pos (by rw [List.length_drop]; omega)

theorem isNumeral_float {x : Float} (hx : Binary64.isFinite x = true) :
    isNumeral (FloatText.plain x).toList = true := by
  unfold Binary64.isFinite at hx
  unfold FloatText.plain
  split
  · rename_i heq
    rw [heq] at hx
    cases hx
  · rename_i heq
    rw [heq] at hx
    cases hx
  · split
    · exact isNumeral_signed _ rfl
    · exact isNumeral_signed _ (isUnsigned_positional (Text.digits_ne_nil _)
        (fun c hc => Text.isDigit_of_mem_digits hc) _)

/-! ### Words -/

theorem isWordChar_of_isDigit {c : Char} (h : c.isDigit = true) : isWordChar c = true := by
  obtain ⟨rest, hbounds⟩ : ∃ rest, Text.lettersAndNumbers.bounds = 48 :: 58 :: rest := ⟨_, rfl⟩
  have hcode : 48 ≤ c.toNat ∧ c.toNat ≤ 57 := by
    simpa [Char.isDigit, UInt32.le_iff_toNat_le] using h
  have hlast : c.toNat < 58 := by omega
  simp [isWordChar, Identifier.isBareChar, Text.isAlphanumeric, CharSet.contains, hbounds,
    CharSet.hasCode, hcode.1, hlast]

theorem isWordChar_of_isUnsigned (h : isUnsigned s = true) : ∀ c ∈ s, isWordChar c = true := by
  intro c hc
  rcases digit_or_point_of_isUnsigned h hc with hdigit | rfl
  · exact isWordChar_of_isDigit hdigit
  · simp [isWordChar]

theorem splitWord_append (hne : s ≠ []) (hs : ∀ c ∈ s, isWordChar c = true)
    (hrest : ∀ c, rest.head? = some c → isWordChar c = false) :
    splitWord (s ++ rest) = (s, rest) := by
  unfold splitWord
  split
  · -- a word does not begin with a sign
    rename_i u hu
    obtain ⟨c, s, rfl⟩ := List.exists_cons_of_ne_nil hne
    obtain rfl : c = '-' := (List.cons.inj hu).1
    exact absurd (hs _ List.mem_cons_self) (by decide)
  · rw [Text.takeWhile_run hs hrest, Text.dropWhile_run hs hrest]

theorem splitWord_numeral (h : isNumeral s = true)
    (hrest : ∀ c, rest.head? = some c → isWordChar c = false) :
    splitWord (s ++ rest) = (s, rest) := by
  unfold isNumeral at h
  split at h
  · rename_i s
    have hs := isWordChar_of_isUnsigned h
    simp only [splitWord, List.cons_append, Text.takeWhile_run hs hrest,
      Text.dropWhile_run hs hrest]
  · refine splitWord_append ?_ (isWordChar_of_isUnsigned h) hrest
    rintro rfl
    cases h

/-- A numeral starts neither as a text nor as a cast or an instant. -/
theorem head_of_isNumeral (h : isNumeral s = true) :
    ∃ c, s.head? = some c ∧ c ∉ ['\'', 'C', 'T'] := by
  unfold isNumeral at h
  split at h
  · exact ⟨_, rfl, by decide⟩
  · cases s with
    | nil => cases h
    | cons c u =>
      refine ⟨c, rfl, fun hmem => ?_⟩
      have hdigit : c.isDigit = false := by
        simp only [List.mem_cons, List.not_mem_nil, or_false] at hmem
        rcases hmem with rfl | rfl | rfl <;> rfl
      simp [isUnsigned, hdigit] at h

end SqlLiteral

namespace Dialect

variable {d : Dialect} {s w : String} {rest : List Char}

theorem readLiteral?_quoteString (s : String) (h : (SqlLiteral.text s).EndsBefore rest) :
    d.readLiteral? ((d.quoteString s).toList ++ rest) = some (.text s, rest) := by
  have hquote : ((d.quoteString s).toList ++ rest).head? = some '\'' := by simp [quoteString]
  rw [readLiteral?, if_pos hquote, readString?_quoteString s h]
  simp

/-- What does not start as a text, a cast or an instant is read as a word. -/
theorem readLiteral?_word {cs : List Char} {c : Char} (hcs : cs.head? = some c)
    (hc : c ∉ ['\'', 'C', 'T']) : d.readLiteral? cs = readWord? cs := by
  obtain ⟨u, rfl⟩ := List.head?_eq_some_iff.1 hcs
  simp only [List.mem_cons, List.not_mem_nil, or_false, not_or] at hc
  have hother : ∀ {a : Char} {as : List Char}, c ≠ a → (a :: as).isPrefixOf? (c :: u) = none := by
    intro a as ha
    rw [List.isPrefixOf?, if_neg fun h => ha (beq_iff_eq.1 h).symm]
  have hcast : castOpening.isPrefixOf? (c :: u) = none := hother hc.2.1
  have htimestamp : timestampOpening.isPrefixOf? (c :: u) = none := hother hc.2.2
  rw [readLiteral?, hcs, if_neg fun h => hc.1 (Option.some.inj h), hcast, htimestamp]

theorem readLiteral?_numeral (hw : SqlLiteral.isNumeral w.toList = true)
    (h : (SqlLiteral.numeral w).EndsBefore rest) :
    d.readLiteral? (w.toList ++ rest) = some (.numeral w, rest) := by
  obtain ⟨c, hhead, hc⟩ := SqlLiteral.head_of_isNumeral hw
  have hcs : (w.toList ++ rest).head? = some c := by rw [List.head?_append, hhead]; rfl
  rw [readLiteral?_word hcs hc, readWord?, SqlLiteral.splitWord_numeral hw h]
  dsimp only
  rw [if_pos hw, String.ofList_toList]

theorem readLiteral?_null (h : SqlLiteral.null.EndsBefore rest) :
    d.readLiteral? ("NULL".toList ++ rest) = some (.null, rest) := by
  have hword : ∀ c ∈ "NULL".toList, SqlLiteral.isWordChar c = true :=
    List.all_eq_true.1 (by decide)
  rw [readLiteral?_word (c := 'N') rfl (by decide), readWord?,
    SqlLiteral.splitWord_append (by decide) hword h]
  rfl

theorem readLiteral?_truth (b : Bool) (h : (SqlLiteral.truth b).EndsBefore rest) :
    d.readLiteral? ((if b then "true" else "false").toList ++ rest) = some (.truth b, rest) := by
  have hword : ∀ c ∈ (if b then "true" else "false").toList, SqlLiteral.isWordChar c = true := by
    cases b <;> exact List.all_eq_true.1 (by decide)
  have hhead : ((if b then "true" else "false").toList ++ rest).head? =
      some (if b then 't' else 'f') := by
    cases b <;> rfl
  rw [readLiteral?_word hhead (by cases b <;> decide), readWord?,
    SqlLiteral.splitWord_append (by cases b <;> decide) hword h]
  cases b <;> rfl

theorem isPrefixOf?_append (u v : List Char) : u.isPrefixOf? (u ++ v) = some v :=
  List.isPrefixOf?_eq_some_iff_append_eq.2 rfl

theorem readLiteral?_cast (s : String) (rest : List Char) :
    d.readLiteral? (("CAST(" ++ d.quoteString s ++ " AS VARCHAR2(37))").toList ++ rest) =
      some (.cast s, rest) := by
  have hopening : (castOpening ++ ((d.quoteString s).toList ++ (castClosing ++ rest))).head? ≠
      some '\'' := fun h => by cases h
  have hclosing : (castClosing ++ rest).head? ≠ some '\'' := fun h => by cases h
  rw [String.toList_append, String.toList_append, List.append_assoc, List.append_assoc]
  change d.readLiteral? (castOpening ++ ((d.quoteString s).toList ++ (castClosing ++ rest))) = _
  rw [readLiteral?, if_neg hopening, isPrefixOf?_append]
  dsimp only
  rw [readCast?, readString?_quoteString s hclosing]
  simp [isPrefixOf?_append]

theorem readLiteral?_timestamp (s format : String) :
    d.readLiteral?
        (("TO_TIMESTAMP(" ++ d.quoteString s ++ ", " ++ d.quoteString format ++ ")").toList ++
          rest) =
      some (.timestamp s format, rest) := by
  have hopening : ∀ cs, (timestampOpening ++ cs).head? ≠ some '\'' := fun cs h => by cases h
  have hcast : ∀ cs, castOpening.isPrefixOf? (timestampOpening ++ cs) = none := fun cs => rfl
  have hcomma : ∀ cs, (", ".toList ++ cs).head? ≠ some '\'' := fun cs h => by cases h
  have hclosing : ∀ cs, (")".toList ++ cs).head? ≠ some '\'' := fun cs h => by cases h
  -- the opening, a text, a comma, another text, and the closing parenthesis
  have hchars :
      ("TO_TIMESTAMP(" ++ d.quoteString s ++ ", " ++ d.quoteString format ++ ")").toList ++ rest =
        timestampOpening ++ ((d.quoteString s).toList ++
          (", ".toList ++ ((d.quoteString format).toList ++ (")".toList ++ rest)))) := by
    rw [String.toList_append, String.toList_append, String.toList_append, String.toList_append,
      List.append_assoc, List.append_assoc, List.append_assoc, List.append_assoc]
    rfl
  rw [hchars, readLiteral?, if_neg (hopening _), hcast, isPrefixOf?_append]
  dsimp only
  rw [readTimestamp?, readString?_quoteString s (hcomma _)]
  dsimp only [bind, Option.bind, pure]
  rw [isPrefixOf?_append]
  dsimp only
  rw [readString?_quoteString format (hclosing _)]
  dsimp only
  rw [isPrefixOf?_append, String.ofList_toList, String.ofList_toList]

end Dialect

/-! ### Values -/

namespace Target

variable {t : Target} {v : Value} {rest : List Char}

/-- The common literal of a value by its own type. -/
theorem commonLiteral_hostType (t : Target) (v : Value) :
    t.commonLiteral v v.hostType =
      match v with
      | .null => "NULL"
      | .bool b => if b then "true" else "false"
      | .int n => Text.ofInt n.toInt
      | .timeSpan s => Text.ofInt s.ticks.toInt
      | .float x => FloatText.plain x
      | .decimal d => d.text
      | .list items => t.dialect.quoteString (Value.list items).toJson.text
      | .object name fields => t.dialect.quoteString (Value.object name fields).toJson.text
      | v => t.dialect.quoteString v.text := by
  cases v <;> rfl

/-- A dialect that has no rule of its own for a value writes what the generic one does. -/
theorem readLiteral?_of_common (hfinite : ∀ x, v = .float x → Binary64.isFinite x = true)
    (hends : (t.written v).EndsBefore rest)
    (hliteral : t.ownLiteral v = t.commonLiteral v v.hostType)
    (hmeaning : t.written v = meaning ⟨.generic, t.compactGuid⟩ v) :
    t.dialect.readLiteral? ((t.ownLiteral v).toList ++ rest) = some (t.written v, rest) := by
  -- one reader for each kind of literal
  rw [hmeaning] at hends ⊢
  rw [hliteral, commonLiteral_hostType]
  cases v with
  | null => exact Dialect.readLiteral?_null hends
  | bool b => exact Dialect.readLiteral?_truth b hends
  | int n => exact Dialect.readLiteral?_numeral (SqlLiteral.isNumeral_ofInt _) hends
  | timeSpan s => exact Dialect.readLiteral?_numeral (SqlLiteral.isNumeral_ofInt _) hends
  | float x => exact Dialect.readLiteral?_numeral (SqlLiteral.isNumeral_float (hfinite x rfl)) hends
  | decimal d => exact Dialect.readLiteral?_numeral (SqlLiteral.isNumeral_decimal d) hends
  | char | string | dateTime | guid | enum | list | object =>
    exact Dialect.readLiteral?_quoteString _ hends

theorem readLiteral?_flag {b : Bool}
    (h : (SqlLiteral.numeral (if b then "1" else "0")).EndsBefore rest) :
    t.dialect.readLiteral? ((if b then "1" else "0" : String).toList ++ rest) =
      some (.numeral (if b then "1" else "0"), rest) :=
  Dialect.readLiteral?_numeral (by cases b <;> rfl) h

theorem readLiteral?_oracleTimestamp (t : Target) (i : DateTime) (rest : List Char) :
    t.dialect.readLiteral? ((t.oracleTimestamp i).toList ++ rest) =
      some (instant ⟨.oracle, t.compactGuid⟩ i, rest) := by
  delta instant oracleTimestamp
  dsimp only
  split <;> exact Dialect.readLiteral?_timestamp _ _

/-- The SQL of a value is read back as what it should say, up to what follows it. -/
theorem readLiteral?_ownLiteral (hfinite : ∀ x, v = .float x → Binary64.isFinite x = true)
    (hends : (t.written v).EndsBefore rest) :
    t.dialect.readLiteral? ((t.ownLiteral v).toList ++ rest) = some (t.written v, rest) := by
  obtain ⟨d, compact⟩ := t
  -- what a dialect has no rule for is written as the generic one writes it
  cases d with
  | generic => exact readLiteral?_of_common hfinite hends rfl rfl
  | postgres => exact readLiteral?_of_common hfinite hends rfl (by cases v <;> rfl)
  | mysql | sqlite =>
    cases v with
    | bool b => exact readLiteral?_flag hends
    | _ => exact readLiteral?_of_common hfinite hends rfl rfl
  | sqlServer =>
    cases v with
    | bool b => exact readLiteral?_flag hends
    | dateTime i => exact Dialect.readLiteral?_quoteString _ hends
    | _ => exact readLiteral?_of_common hfinite hends rfl rfl
  | oracle =>
    cases v with
    | null => exact Dialect.readLiteral?_null hends
    | bool b => exact Dialect.readLiteral?_quoteString _ hends
    | float x => exact Dialect.readLiteral?_quoteString _ hends
    | decimal d => exact Dialect.readLiteral?_quoteString _ hends
    | dateTime i => exact readLiteral?_oracleTimestamp ⟨.oracle, compact⟩ i rest
    | guid g =>
      cases compact with
      | true => exact Dialect.readLiteral?_quoteString _ hends
      | false =>
        have hcast := Dialect.readLiteral?_cast (d := .oracle) g.text rest
        rwa [← castGuid_eq] at hcast
    | _ => exact readLiteral?_of_common hfinite hends rfl rfl

end Target

namespace Fragment

/-- **The SQL of a value is one literal that carries it.**  Read by the dialect, the literal says
what it should (`Target.meaning`), and whatever stands behind it cannot change that: a text ends
before any character but a quote.  Oracle alone loses the characters of a number with a fraction
behind the first `Target.maxNumberLength`. -/
theorem readLiteral?_render (t : Target) (v : Value) (rest : List Char)
    (hfinite : ∀ x, v = .float x → Binary64.isFinite x = true)
    (hends : (t.written v).EndsBefore rest) :
    t.dialect.readLiteral? (((native v).render t).toList ++ rest) = some (t.written v, rest) :=
  Target.readLiteral?_ownLiteral hfinite hends

/-- A number that is finite, in front of a parenthesis. -/
theorem readLiteral?_render_tenth :
    (∀ x, Value.float 0.1 = .float x → Binary64.isFinite x = true) ∧
      (Target.written ⟨.postgres, false⟩ (.float 0.1)).EndsBefore [')'] ∧
      Dialect.postgres.readLiteral?
        (((native (.float 0.1)).render ⟨.postgres, false⟩).toList ++ [')']) =
          some (.numeral "0.1", [')']) := by
  have hfinite : ∀ x, Value.float 0.1 = .float x → Binary64.isFinite x = true := by
    rintro _ ⟨⟩
    decide
  have hends : (Target.written ⟨.postgres, false⟩ (.float 0.1)).EndsBefore [')'] := by
    rintro _ ⟨⟩
    decide
  refine ⟨hfinite, hends, ?_⟩
  rw [readLiteral?_render ⟨.postgres, false⟩ (.float 0.1) [')'] hfinite hends]
  decide

/-- Oracle does not get the last digits of a long number. -/
theorem not_readLiteral?_render :
    ¬ ∀ (t : Target) (v : Value), (∀ x, v = .float x → Binary64.isFinite x = true) →
      t.dialect.readLiteral? ((native v).render t).toList = some (t.meaning v, []) := by
  intro h
  -- a number of 24 digits, 15 of them behind the point
  have hread := h ⟨.oracle, false⟩
    (.decimal ⟨false, 123456789123456789012345, 15, by decide, by decide⟩) nofun
  revert hread
  decide +kernel

end Fragment

end QueryClause
