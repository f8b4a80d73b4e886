import QueryClause.Proofs.Sql.Reference

/-!
# Tokens of SQL

`SqlToken.read?` cuts a text into tokens: parentheses, operators, truth values, and columns, which
are paths of identifiers.  Nothing else is a token, so it reads a part of SQL without numbers, texts
and calls.

The reader looks at one character at a time and keeps what it has read of the token that is open
(`Lexer`).  A token that ends can be taken off the front of a text (`Lexer.read?_of_ends`), and the
identifiers of the generic dialect are read back (`Lexer.read?_identifier`).
-/

namespace QueryClause

/-! ### Tokens -/

/-- An operator between two operands that a host expression can have too. -/
inductive TreeOp where
  | multiply
  | divide
  | add
  | subtract
  | compare (o : Comparison)
  | and
  | or
  deriving DecidableEq, Repr

/-- An operator of SQL between two operands. -/
inductive SqlOperator where
  | tree (o : TreeOp)
  | is
  | isNot
  deriving DecidableEq, Repr

/-- An operand without parts. -/
inductive SqlLeaf where
  /-- A column: the identifiers between its dots. -/
  | column (path : List String)
  /-- A truth value or null. -/
  | literal (word : String)
  deriving DecidableEq, Repr

inductive SqlToken where
  | open
  | close
  | not
  | operator (o : SqlOperator)
  | leaf (x : SqlLeaf)
  deriving DecidableEq, Repr

namespace SqlToken

/-- The words that are no identifiers, in lower case. -/
def keywords : List (String × SqlToken) :=
  [("and", operator (.tree .and)), ("or", operator (.tree .or)), ("not", not),
   ("is", operator .is), ("true", leaf (.literal "true")), ("false", leaf (.literal "false")),
   ("null", leaf (.literal "null"))]

/-- The token that a word is; a number is none. -/
def ofWord? (w : List Char) : Option SqlToken :=
  (keywords.lookup (String.ofList (w.map Char.toLower))).or <|
    if w.head?.any Text.isNumeric then none else some (leaf (.column [String.ofList w]))

/-- The token with one more character, if there is such an operator. -/
def extend? : SqlToken → Char → Option SqlToken
  | operator (.tree (.compare .lessThan)), '=' =>
    some (operator (.tree (.compare .lessThanOrEqual)))
  | operator (.tree (.compare .lessThan)), '>' => some (operator (.tree (.compare .notEqual)))
  | operator (.tree (.compare .greaterThan)), '=' =>
    some (operator (.tree (.compare .greaterThanOrEqual)))
  | _, _ => none

end SqlToken

/-! ### The reader -/

/-- What has been read of the token that is open.  The identifiers of a path are kept until it
ends. -/
inductive Lexer where
  | between
  /-- A token that is complete but for a character that may still belong to it. -/
  | symbol (t : SqlToken)
  | word (path : List String) (w : List Char)
  | quoted (path : List String) (w : List Char)
  /-- Behind a quote that closes an identifier or is the first of two. -/
  | closing (path : List String) (w : List Char)
  | dot (path : List String)
  deriving DecidableEq, Repr

namespace Lexer

/-- Whether an identifier without quotes can start with a character. -/
def isFirst (c : Char) : Bool := Identifier.isBareChar c && !Text.isNumeric c

/-- The token that is open after its first character. -/
def start? : Char → Option Lexer
  | ' ' => some between
  | '(' => some (symbol .open)
  | ')' => some (symbol .close)
  | '*' => some (symbol (.operator (.tree .multiply)))
  | '/' => some (symbol (.operator (.tree .divide)))
  | '+' => some (symbol (.operator (.tree .add)))
  | '-' => some (symbol (.operator (.tree .subtract)))
  | '=' => some (symbol (.operator (.tree (.compare .equal))))
  | '<' => some (symbol (.operator (.tree (.compare .lessThan))))
  | '>' => some (symbol (.operator (.tree (.compare .greaterThan))))
  | '"' => some (quoted [] [])
  | c => if isFirst c then some (word [] [c]) else none

/-- The open token, if it can end. -/
def tokens? : Lexer → Option (List SqlToken)
  | between => some []
  | symbol t => some [t]
  | word path w =>
    if path.isEmpty then (SqlToken.ofWord? w).map ([·])
    else some [.leaf (.column (path ++ [String.ofList w]))]
  | closing path w => some [.leaf (.column (path ++ [String.ofList w]))]
  | quoted .. | dot _ => none

/-- The path that a dot goes on with behind some tokens. -/
def dotted? : Option (List SqlToken) → Option Lexer
  | some [.leaf (.column path)] => some (dot path)
  | _ => none

/-- The open token with one more character, if it can have it. -/
def extend? (st : Lexer) (c : Char) : Option Lexer :=
  match st with
  | between => none
  | symbol t => (t.extend? c).map symbol
  | word path w =>
    if Identifier.isBareChar c then some (word path (w ++ [c]))
    else if c = '.' then dotted? st.tokens? else none
  | quoted path w => some (if c = '"' then closing path w else quoted path (w ++ [c]))
  | closing path w =>
    if c = '"' then some (quoted path (w ++ [c]))
    else if c = '.' then dotted? st.tokens? else none
  | dot path =>
    if c = '"' then some (quoted path []) else if isFirst c then some (word path [c]) else none

/-- The tokens of a text, after what has been read. -/
def read? (st : Lexer) : List Char → Option (List SqlToken)
  | [] => st.tokens?
  | c :: rest =>
    match st.extend? c with
    | some st => st.read? rest
    | none => do
      let out ← st.tokens?
      return out ++ (← (← start? c).read? rest)

end Lexer

/-- The tokens of a text. -/
def SqlToken.read? (s : String) : Option (List SqlToken) := Lexer.between.read? s.toList

namespace Lexer

variable {st : Lexer} {out : List SqlToken} {rest w : List Char} {path : List String} {c : Char}

/-! ### Tokens that end -/

/-- No character behind the open token belongs to it. -/
def Ends (st : Lexer) (rest : List Char) : Prop := ∀ c, rest.head? = some c → st.extend? c = none

/-- A token that ends is the first one. -/
theorem read?_of_ends (h : st.Ends rest) (hout : st.tokens? = some out) :
    st.read? rest = (between.read? rest).map (out ++ ·) := by
  cases rest with
  | nil =>
    rw [read?, hout, read?, tokens?, Option.map_some, List.append_nil]
  | cons c rest =>
    rw [read?, h c rfl, hout, read?, extend?, tokens?]
    cases hstart : start? c with
    | none => rfl
    | some st' => cases hrest : st'.read? rest <;> simp [hrest]

theorem read?_cons_of_extend {st' : Lexer} (h : st.extend? c = some st') :
    st.read? (c :: rest) = st'.read? rest := by
  rw [read?, h]

theorem read?_cons_of_start {st' : Lexer} (h : start? c = some st') :
    between.read? (c :: rest) = st'.read? rest := by
  rw [read?, extend?, h]
  cases hrest : st'.read? rest <;> simp [hrest, tokens?]

/-- The reader behind the characters of one token. -/
def token? : List Char → Option Lexer
  | [] => none
  | c :: w => (start? c).bind fun st => w.foldlM extend? st

theorem read?_of_foldlM {st' : Lexer} (h : w.foldlM extend? st = some st') :
    st.read? (w ++ rest) = st'.read? rest := by
  induction w generalizing st with
  | nil =>
    cases h
    rfl
  | cons c w ih =>
    rw [List.foldlM_cons] at h
    obtain ⟨next, hnext, htail⟩ := Option.bind_eq_some_iff.1 h
    rw [List.cons_append, read?_cons_of_extend hnext, ih htail]

/-- The characters of a token that ends are the first token. -/
theorem read?_token {t : SqlToken} (h : token? w = some st) (ht : st.tokens? = some [t])
    (hends : st.Ends rest) :
    between.read? (w ++ rest) = (between.read? rest).map (t :: ·) := by
  have hread : between.read? (w ++ rest) = st.read? rest := by
    cases w with
    | nil => cases h
    | cons c w =>
      obtain ⟨first, hfirst, hrest⟩ := Option.bind_eq_some_iff.1 h
      rw [List.cons_append, read?_cons_of_start hfirst, read?_of_foldlM hrest]
  rw [hread]
  exact read?_of_ends hends ht

/-! ### Identifiers -/

/-- The reader in front of an identifier of a path. -/
def before (path : List String) : Lexer := if path.isEmpty then between else dot path

/-- The reader behind an identifier of a path. -/
structure Behind (path : List String) (name : String) (st : Lexer) : Prop where
  ends : st.tokens? = some [.leaf (.column (path ++ [name]))]
  dot : st.extend? '.' = some (dot (path ++ [name]))
  delimiter : ∀ c, isDelimiter c = true → st.extend? c = none

theorem extend?_word (h : isDelimiter c = true) : (word path w).extend? c = none := by
  have hbare : Identifier.isBareChar c = false := by
    by_contra hbare
    rw [(isUnquoted_of_isBareChar (Bool.not_eq_false _ ▸ hbare)).1] at h
    cases h
  have hdot : c ≠ '.' := by
    rintro rfl
    cases h
  simp [extend?, hbare, hdot]

theorem read?_word {v : List Char} (hv : ∀ c ∈ v, Identifier.isBareChar c = true) :
    (word path w).read? (v ++ rest) = (word path (w ++ v)).read? rest := by
  induction v generalizing w with
  | nil => rw [List.nil_append, List.append_nil]
  | cons c v ih =>
    have hc := hv c List.mem_cons_self
    have hext : (word path w).extend? c = some (word path (w ++ [c])) := by simp [extend?, hc]
    rw [List.cons_append, read?_cons_of_extend hext,
      ih fun d hd => hv d (List.mem_cons_of_mem c hd)]
    simp

theorem read?_quoted (name : List Char) :
    (quoted path w).read? (Identifier.doubled '"' name ++ rest) =
      (quoted path (w ++ name)).read? rest := by
  induction name generalizing w with
  | nil => simp [Identifier.doubled]
  | cons c name ih =>
    have hcons : Identifier.doubled '"' (c :: name) =
        (if c = '"' then ['"', '"'] else [c]) ++ Identifier.doubled '"' name := List.flatMap_cons ..
    rw [hcons, List.append_assoc]
    by_cases hc : c = '"'
    · subst hc
      -- of two quotes, the second one belongs to the name
      have hfirst : (quoted path w).extend? '"' = some (closing path w) := by simp [extend?]
      have hsecond : (closing path w).extend? '"' = some (quoted path (w ++ ['"'])) := by
        simp [extend?]
      rw [if_pos rfl]
      change (quoted path w).read? ('"' :: '"' :: (Identifier.doubled '"' name ++ rest)) = _
      rw [read?_cons_of_extend hfirst, read?_cons_of_extend hsecond, ih]
      simp
    · have hext : (quoted path w).extend? c = some (quoted path (w ++ [c])) := by
        simp [extend?, hc]
      rw [if_neg hc, List.singleton_append, read?_cons_of_extend hext, ih]
      simp

/-- The words that are no identifiers are reserved. -/
theorem ofWord?_of_isBareName {name : String} (h : IsBareName name) :
    SqlToken.ofWord? name.toList = some (.leaf (.column [name])) := by
  have hkeys : ∀ p ∈ SqlToken.keywords, p.1.toList.all Char.isLower = true ∧
      p.1 ∈ Identifier.reservedWords := by decide
  have hlookup :
      SqlToken.keywords.lookup (String.ofList (name.toList.map Char.toLower)) = none := by
    rw [List.lookup_eq_none_iff]
    intro p hp
    obtain ⟨hlower, hreserved⟩ := hkeys p hp
    rw [bne_iff_ne]
    exact h.map_toLower_ne hlower hreserved
  have hnumeric : name.toList.head?.any Text.isNumeric = false := by
    cases hhead : name.toList.head? with
    | none => rfl
    | some c => exact h.notNumeric c hhead
  rw [SqlToken.ofWord?, hlookup, hnumeric, String.ofList_toList]
  rfl

theorem start?_of_isFirst (h : isFirst c = true) : start? c = some (word [] [c]) := by
  unfold start?
  split
  all_goals first | rw [if_pos h] | exact absurd h (by decide)

theorem read?_before_first (h : isFirst c = true) :
    (before path).read? (c :: rest) = (word path [c]).read? rest := by
  have hquote : c ≠ '"' := by
    rintro rfl
    exact absurd h (by decide)
  cases path with
  | nil => exact read?_cons_of_start (start?_of_isFirst h)
  | cons name path =>
    change (dot (name :: path)).read? (c :: rest) = _
    exact read?_cons_of_extend (by simp [extend?, hquote, h])

theorem read?_before_quote : (before path).read? ('"' :: rest) = (quoted path []).read? rest := by
  cases path with
  | nil => exact read?_cons_of_start rfl
  | cons name path => exact read?_cons_of_extend rfl

theorem tokens?_word (path : List String) {name : String} (h : IsBareName name) :
    (word path name.toList).tokens? = some [.leaf (.column (path ++ [name]))] := by
  rw [tokens?]
  cases path with
  | nil => rw [ofWord?_of_isBareName h]; rfl
  | cons first path => rw [String.ofList_toList]; rfl

/-- An identifier is read up to its end. -/
theorem read?_identifier (path : List String) (name : String) :
    ∃ st, Behind path name st ∧ ∀ rest,
      (before path).read? ((Identifier.quoteIfNeeded name).toList ++ rest) = st.read? rest := by
  rcases isBareName_or_quoted name with ⟨heq, hbare⟩ | heq <;> rw [heq]
  · -- without quotes, the word goes on to the first character that is none of its own
    have htokens := tokens?_word path hbare
    refine ⟨word path name.toList, ⟨htokens, ?_, ?_⟩, fun rest => ?_⟩
    · have hdot : Identifier.isBareChar '.' = false := by decide
      simp [extend?, hdot, htokens, dotted?]
    · exact fun c hc => extend?_word hc
    · cases hchars : name.toList with
      | nil => exact absurd hchars hbare.nonempty
      | cons c v =>
        have hc : isFirst c = true := by
          have hnumeric := hbare.notNumeric c (by rw [hchars]; rfl)
          have hchar := hbare.bare c (by rw [hchars]; exact List.mem_cons_self)
          rw [isFirst, hchar, hnumeric]
          rfl
        have hv : ∀ d ∈ v, Identifier.isBareChar d = true := fun d hd =>
          hbare.bare d (by rw [hchars]; exact List.mem_cons_of_mem c hd)
        rw [List.cons_append, read?_before_first hc, read?_word hv]
        rfl
  · refine ⟨closing path name.toList, ⟨?_, ?_, ?_⟩, fun rest => ?_⟩
    · simp [tokens?]
    · simp [extend?, dotted?, tokens?]
    · intro c hc
      have hquote : c ≠ '"' ∧ c ≠ '.' := by
        constructor <;> rintro rfl <;> cases hc
      simp [extend?, hquote.1, hquote.2]
    · rw [Identifier.quoteWith, String.toList_ofList, List.cons_append, List.cons_append,
        List.append_assoc, read?_before_quote, read?_quoted, List.nil_append]
      exact read?_cons_of_extend rfl

/-- A path of identifiers is one token. -/
theorem read?_of_behind {name : String} (h : Behind path name st) (hrest : EndsWord rest) :
    st.read? rest = (between.read? rest).map (.leaf (.column (path ++ [name])) :: ·) :=
  read?_of_ends (fun c hc => h.delimiter c (hrest c hc)) h.ends

end Lexer

/-! ### Columns -/

/-- A column: its name, and the table or alias that qualifies it, if any. -/
structure ColumnPath where
  table? : Option String
  name : String
  deriving DecidableEq, Repr

namespace ColumnPath

/-- The identifiers of a column. -/
def identifiers (p : ColumnPath) : List String := p.table?.toList ++ [p.name]

/-- A column as the generic dialect writes it. -/
def text (p : ColumnPath) : String :=
  match p.table? with
  | none => Identifier.quoteIfNeeded p.name
  | some table => Identifier.quoteIfNeeded table ++ "." ++ Identifier.quoteIfNeeded p.name

variable {p q : ColumnPath} {rest : List Char}

theorem identifiers_inj (h : p.identifiers = q.identifiers) : p = q := by
  obtain ⟨table, name⟩ := p
  obtain ⟨table', name'⟩ := q
  cases table <;> cases table' <;> simp_all [identifiers]

theorem not_null_text (p : ColumnPath) : ¬ ReadsAsNull p.text := by
  obtain ⟨table, name⟩ := p
  cases table with
  | none => exact not_null_quoteIfNeeded name
  | some table => exact not_null_qualified table name

/-- A column is read back. -/
theorem read?_text (p : ColumnPath) (h : EndsWord rest) :
    Lexer.between.read? (p.text.toList ++ rest) =
      (Lexer.between.read? rest).map (.leaf (.column p.identifiers) :: ·) := by
  obtain ⟨table, name⟩ := p
  cases table with
  | none =>
    obtain ⟨st, hst, hread⟩ := Lexer.read?_identifier [] name
    exact (hread rest).trans (Lexer.read?_of_behind hst h)
  | some table =>
    obtain ⟨st, hst, hread⟩ := Lexer.read?_identifier [] table
    obtain ⟨st', hst', hread'⟩ := Lexer.read?_identifier [table] name
    have htable := hread ('.' :: ((Identifier.quoteIfNeeded name).toList ++ rest))
    rw [Lexer.read?_cons_of_extend hst.dot] at htable
    have hname := (hread' rest).trans (Lexer.read?_of_behind hst' h)
    have htext : (text ⟨some table, name⟩).toList ++ rest =
        (Identifier.quoteIfNeeded table).toList ++
          '.' :: ((Identifier.quoteIfNeeded name).toList ++ rest) := by simp [text]
    rw [htext]
    exact htable.trans hname

end ColumnPath

end QueryClause
