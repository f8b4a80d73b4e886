import QueryClause.Sql.Dialect
import Mathlib.Data.List.Basic

/-!
# The lexical structure of SQL

`Dialect.scan` runs over SQL as a lexer of the dialect does: it knows string literals, in MySQL with
backslash escapes, and quoted identifiers, both with the closing character doubled inside, and it
counts the parentheses that are open outside of them.

A text is sealed (`Dialect.Sealed`) if the scan ends where it began: outside of every quotation and
with as many open parentheses, none of which it closed.  Sealed texts can be put together with plain
ones, between parentheses (`Sealed.enclose`) and with separators (`Sealed.between`).
-/

namespace QueryClause

/-- The two kinds of quotation. -/
inductive Quotation where
  /-- A string literal. -/
  | text
  /-- A quoted identifier. -/
  | name
  deriving DecidableEq, Repr

/-- Where in the text a lexer stands. -/
inductive LexMode where
  | outside
  | inside (q : Quotation)
  /-- After a backslash in a string literal. -/
  | escaped
  /-- After a closing character, which the next character may turn out to have doubled. -/
  | ending (q : Quotation)
  deriving DecidableEq, Repr

namespace LexMode

/-- Whether a text may end here. -/
def isResting : LexMode → Bool
  | outside | ending _ => true
  | _ => false

end LexMode

/-- A lexer with the number of parentheses that are open. -/
structure LexState where
  mode : LexMode
  opened : Nat
  deriving DecidableEq, Repr

namespace Dialect

/-- The character that opens a quoted identifier. -/
def nameOpening : Dialect → Char
  | mysql => '\x60'
  | sqlServer => '['
  | _ => '"'

/-- The character that closes a quotation. -/
def closing : Dialect → Quotation → Char
  | _, .text => '\''
  | mysql, .name => '\x60'
  | sqlServer, .name => ']'
  | _, .name => '"'

/-- Read a character outside of quotations; a parenthesis that was never opened cannot close. -/
def readOutside (d : Dialect) (opened : Nat) (c : Char) : Option LexState :=
  if c = '\'' then some ⟨.inside .text, opened⟩
  else if c = d.nameOpening then some ⟨.inside .name, opened⟩
  else if c = '(' then some ⟨.outside, opened + 1⟩
  else if c = ')' then
    match opened with
    | 0 => none
    | n + 1 => some ⟨.outside, n⟩
  else some ⟨.outside, opened⟩

/-- Read a character. -/
def readChar (d : Dialect) (s : LexState) (c : Char) : Option LexState :=
  match s.mode with
  | .outside => d.readOutside s.opened c
  | .inside q =>
    if c = d.closing q then some ⟨.ending q, s.opened⟩
    else if d = mysql && q = .text && c = '\\' then some ⟨.escaped, s.opened⟩
    else some s
  | .escaped => some ⟨.inside .text, s.opened⟩
  | .ending q =>
    if c = d.closing q then some ⟨.inside q, s.opened⟩ else d.readOutside s.opened c

/-- Read some characters. -/
def scan (d : Dialect) (s : LexState) (cs : List Char) : Option LexState := cs.foldlM d.readChar s

/-- After `n` open parentheses, the text leaves the lexer outside of quotations and with the same
`n` still open. -/
def Sealed (d : Dialect) (n : Nat) (s : String) : Prop :=
  ∃ mode, mode.isResting = true ∧ d.scan ⟨.outside, n⟩ s.toList = some ⟨mode, n⟩

end Dialect

/-! ### Characters -/

/-- Whether a character opens or closes a quotation in some dialect. -/
def isQuotationMark (c : Char) : Bool := ['\'', '"', '\x60', '[', ']'].contains c

/-- Whether a character means nothing to a lexer that stands outside of quotations. -/
def isPlainChar (c : Char) : Bool := !isQuotationMark c && c != '(' && c != ')'

/-- A text of plain characters. -/
def Plain (s : String) : Prop := ∀ c ∈ s.toList, isPlainChar c = true

instance (s : String) : Decidable (Plain s) := List.decidableBAll _ _

theorem isPlainChar_of_not_mem {c : Char} (h : c ∉ ['\'', '"', '\x60', '[', ']', '(', ')']) :
    isPlainChar c = true := by
  simp only [List.mem_cons, List.not_mem_nil, or_false, not_or] at h
  simp [isPlainChar, isQuotationMark, h]

theorem plain_append {s t : String} : Plain (s ++ t) ↔ Plain s ∧ Plain t := by
  simp [Plain, or_imp, forall_and]

theorem plain_ofList {cs : List Char} :
    Plain (String.ofList cs) ↔ ∀ c ∈ cs, isPlainChar c = true := by
  rw [Plain, String.toList_ofList]

namespace Dialect

variable {d : Dialect} {n k : Nat} {mode : LexMode} {c : Char} {s t w : String}

theorem isQuotationMark_closing (q : Quotation) : isQuotationMark (d.closing q) = true := by
  cases d <;> cases q <;> rfl

theorem isQuotationMark_nameOpening : isQuotationMark d.nameOpening = true := by
  cases d <;> rfl

/-- After a quotation, a character that marks none is read as if there had been none. -/
theorem readChar_of_resting (hm : mode.isResting = true) (hc : isQuotationMark c = false) :
    d.readChar ⟨mode, n⟩ c = d.readOutside n c := by
  cases mode with
  | outside => rfl
  | ending q =>
    -- only the closing mark itself would take the quotation up again
    have hne : c ≠ d.closing q := by
      rintro rfl
      rw [isQuotationMark_closing] at hc
      cases hc
    exact if_neg hne
  | _ => cases hm

theorem readOutside_plain (hc : isPlainChar c = true) : d.readOutside n c = some ⟨.outside, n⟩ := by
  have hq : isQuotationMark c = false := by simp_all [isPlainChar]
  have hname : c ≠ d.nameOpening := by
    rintro rfl
    rw [isQuotationMark_nameOpening] at hq
    cases hq
  have htext : c ≠ '\'' := by rintro rfl; cases hq
  have hopen : c ≠ '(' := by rintro rfl; cases hc
  have hclose : c ≠ ')' := by rintro rfl; cases hc
  unfold readOutside
  rw [if_neg htext, if_neg hname, if_neg hopen, if_neg hclose]

/-! ### Texts -/

theorem scan_append {st : LexState} {as bs : List Char} :
    d.scan st (as ++ bs) = (d.scan st as).bind fun st' => d.scan st' bs := by
  rw [scan, List.foldlM_append]
  rfl

theorem scan_cons {st : LexState} {cs : List Char} :
    d.scan st (c :: cs) = (d.readChar st c).bind fun st' => d.scan st' cs := by
  rw [scan, List.foldlM_cons]
  rfl

theorem scan_plain {cs : List Char} (h : ∀ c ∈ cs, isPlainChar c = true) :
    d.scan ⟨.outside, n⟩ cs = some ⟨.outside, n⟩ := by
  induction cs with
  | nil => rfl
  | cons c rest ih =>
    rw [scan_cons, readChar, readOutside_plain (h c List.mem_cons_self)]
    exact ih fun x hx => h x (List.mem_cons_of_mem _ hx)

/-- What is read after `n` open parentheses is read the same after more of them. -/
theorem readChar_add {st st' : LexState} (h : d.readChar st c = some st') :
    d.readChar ⟨st.mode, st.opened + k⟩ c = some ⟨st'.mode, st'.opened + k⟩ := by
  have houtside : ∀ {n : Nat} {st' : LexState}, d.readOutside n c = some st' →
      d.readOutside (n + k) c = some ⟨st'.mode, st'.opened + k⟩ := by
    intro n st' h
    unfold readOutside at h ⊢
    split_ifs at h ⊢ with h1 h2 h3 h4
    · cases h; rfl
    · cases h; rfl
    · cases h; simp only [Nat.add_right_comm]
    · -- a parenthesis that closes nothing fails, so there is one to close
      cases n with
      | zero => cases h
      | succ n => cases h; simp only [Nat.add_right_comm]
    · cases h; rfl
  obtain ⟨mode, n⟩ := st
  cases mode with
  | outside => exact houtside h
  | escaped => cases h; rfl
  | inside q =>
    simp only [readChar] at h ⊢
    split_ifs at h ⊢ <;> cases h <;> rfl
  | ending q =>
    simp only [readChar] at h ⊢
    split_ifs at h ⊢
    · cases h; rfl
    · exact houtside h

theorem scan_add {st st' : LexState} {cs : List Char} (h : d.scan st cs = some st') :
    d.scan ⟨st.mode, st.opened + k⟩ cs = some ⟨st'.mode, st'.opened + k⟩ := by
  induction cs generalizing st with
  | nil => cases h; rfl
  | cons c rest ih =>
    rw [scan_cons, Option.bind_eq_some_iff] at h
    obtain ⟨next, hnext, h⟩ := h
    rw [scan_cons, readChar_add hnext]
    exact ih h

/-! ### Punctuation -/

/-- A text without quotations that begins at rest, closes `i` of the open parentheses and leaves `j`
open instead. -/
def Moves (d : Dialect) (i j : Nat) (w : String) : Prop :=
  ∀ mode : LexMode, mode.isResting = true → ∀ n,
    d.scan ⟨mode, n + i⟩ w.toList = some ⟨.outside, n + j⟩

theorem moves_of_plain (hne : w.toList ≠ []) (hw : Plain w) : Moves d 0 0 w := by
  intro mode hm n
  cases hcs : w.toList with
  | nil => exact absurd hcs hne
  | cons c rest =>
    rw [Plain, hcs] at hw
    have hc := hw c List.mem_cons_self
    have hq : isQuotationMark c = false := by simp_all [isPlainChar]
    rw [scan_cons, readChar_of_resting hm hq, readOutside_plain hc]
    exact scan_plain fun x hx => hw x (List.mem_cons_of_mem _ hx)

theorem scan_moves {i j : Nat} (hw : Moves d i j w) (hm : mode.isResting = true) :
    d.scan ⟨mode, n + i⟩ (w ++ t).toList = d.scan ⟨.outside, n + j⟩ t.toList := by
  rw [String.toList_append, scan_append, hw mode hm n]
  rfl

/-! ### Sealed texts -/

theorem Sealed.add (h : d.Sealed n s) : d.Sealed (n + k) s := by
  obtain ⟨mode, hm, h⟩ := h
  exact ⟨mode, hm, scan_add h⟩

theorem Sealed.of_plain (h : Plain s) : d.Sealed n s := ⟨.outside, rfl, scan_plain h⟩

theorem Sealed.scan_moves {i j : Nat} (hs : d.Sealed (n + i) s) (hw : Moves d i j w) :
    d.scan ⟨.outside, n + i⟩ (s ++ (w ++ t)).toList = d.scan ⟨.outside, n + j⟩ t.toList := by
  obtain ⟨mode, hm, hs⟩ := hs
  rw [String.toList_append, scan_append, hs]
  exact Dialect.scan_moves hw hm

theorem Sealed.between (hs : d.Sealed n s) (hw : Moves d 0 0 w) (ht : d.Sealed n t) :
    d.Sealed n (s ++ w ++ t) := by
  obtain ⟨mode, hm, ht⟩ := ht
  refine ⟨mode, hm, ?_⟩
  rw [String.append_assoc]
  exact (hs.scan_moves hw).trans ht

theorem Sealed.append (hs : d.Sealed n s) (hw : Plain w) : d.Sealed n (s ++ w) := by
  cases hcs : w.toList with
  | nil =>
    obtain rfl : w = "" := by simpa using hcs
    simpa using hs
  | cons c rest =>
    have hmoves : Moves d 0 0 w := moves_of_plain (by simp [hcs]) hw
    simpa using hs.between hmoves (Sealed.of_plain (s := "") (by decide))

theorem Sealed.enclose {o : String} {j : Nat} (ho : Moves d 0 j o) (hs : d.Sealed (n + j) s)
    (hw : Moves d j 0 w) : d.Sealed n (o ++ s ++ w) := by
  refine ⟨.outside, rfl, ?_⟩
  have hend := hs.scan_moves (t := "") hw
  rw [String.append_empty] at hend
  rw [String.append_assoc]
  exact (Dialect.scan_moves (n := n) ho rfl).trans hend

end Dialect

end QueryClause
