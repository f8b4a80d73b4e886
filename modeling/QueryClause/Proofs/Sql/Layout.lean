import Mathlib.Data.List.Basic

/-!
# The layout of conditions

A condition is written with words, parentheses and blanks.  `Layout` is the tree of these marks,
with nothing said about their meaning, and `Layout.chars` writes it.  The words are cut out of the
text where a blank, a parenthesis or an equality sign stands outside of quotes, so that a text
determines the layout that it was written from (`Layout.chars_append_inj`).
-/

namespace QueryClause

/-! ### Words -/

/-- Whether a character ends a word. -/
def isDelimiter (c : Char) : Bool := [' ', '(', ')', '='].contains c

/-- Whether a quote is open after some characters, or `none` if a delimiter stands outside of
quotes; `quoted` says whether one is open before. -/
def quoteAfter (quoted : Bool) : List Char → Option Bool
  | [] => some quoted
  | c :: rest =>
    if !quoted && isDelimiter c then none
    else quoteAfter (if c = '"' then !quoted else quoted) rest

/-- The characters up to the first delimiter outside of quotes, and the rest. -/
def cutWord (quoted : Bool) : List Char → List Char × List Char
  | [] => ([], [])
  | c :: rest =>
    if !quoted && isDelimiter c then ([], c :: rest)
    else
      let cut := cutWord (if c = '"' then !quoted else quoted) rest
      (c :: cut.1, cut.2)

/-- A word: some characters with closed quotes and no delimiter outside of them. -/
structure IsWord (w : List Char) : Prop where
  nonempty : w ≠ []
  closed : quoteAfter false w = some false

/-- A text before which a word ends. -/
def EndsWord (r : List Char) : Prop := ∀ c, r.head? = some c → isDelimiter c = true

variable {v w r s : List Char}

theorem quoteAfter_append (quoted : Bool) :
    quoteAfter quoted (v ++ w) = (quoteAfter quoted v).bind fun q => quoteAfter q w := by
  induction v generalizing quoted with
  | nil => rfl
  | cons c rest ih =>
    rw [List.cons_append, quoteAfter, quoteAfter]
    split
    · rfl
    · exact ih _

theorem cutWord_append {quoted : Bool} (hw : quoteAfter quoted w = some false) (hr : EndsWord r) :
    cutWord quoted (w ++ r) = (w, r) := by
  induction w generalizing quoted with
  | nil =>
    cases hw
    cases r with
    | nil => rfl
    | cons c rest => simp [cutWord, hr c rfl]
  | cons c rest ih =>
    rw [quoteAfter] at hw
    rw [List.cons_append, cutWord]
    split at hw
    · cases hw
    · rw [if_neg ‹_›, ih hw]

/-- A text determines its first word. -/
theorem IsWord.append_inj (hv : IsWord v) (hw : IsWord w) (hr : EndsWord r) (hs : EndsWord s)
    (h : v ++ r = w ++ s) : v = w ∧ r = s := by
  have hcut : (v, r) = (w, s) := by
    rw [← cutWord_append hv.closed hr, h, cutWord_append hw.closed hs]
  exact ⟨congrArg Prod.fst hcut, congrArg Prod.snd hcut⟩

theorem IsWord.head (hw : IsWord w) : ∃ c rest, w = c :: rest ∧ isDelimiter c = false := by
  cases w with
  | nil => exact absurd rfl hw.nonempty
  | cons c rest =>
    refine ⟨c, rest, rfl, ?_⟩
    have hclosed := hw.closed
    rw [quoteAfter] at hclosed
    split at hclosed
    · cases hclosed
    · simp_all

/-! ### Layouts -/

/-- The marks of a condition. -/
inductive Layout where
  | word (w : List Char)
  /-- Two words with an equality sign between them. -/
  | assign (v w : List Char)
  /-- A negation. -/
  | not (x : Layout)
  | paren (x : Layout)
  /-- Two layouts in parentheses with an operator between them. -/
  | group (x : Layout) (operator : List Char) (y : Layout)
  deriving Repr

namespace Layout

/-- The word of a negation. -/
def notWord : List Char := ['N', 'O', 'T']

/-- The text of a layout. -/
def chars : Layout → List Char
  | word w => w
  | assign v w => v ++ '=' :: w
  | not x => notWord ++ ' ' :: '(' :: (chars x ++ [')'])
  | paren x => '(' :: (chars x ++ [')'])
  | group x operator y => '(' :: (chars x ++ ' ' :: (operator ++ ' ' :: (chars y ++ [')'])))

/-- The words are words, none alone is the word of a negation, and no operator has a blank. -/
def Proper : Layout → Prop
  | word w => IsWord w ∧ w ≠ notWord
  | assign v w => IsWord v ∧ IsWord w
  | not x => Proper x
  | paren x => Proper x
  | group x operator y => Proper x ∧ ' ' ∉ operator ∧ Proper y

/-- A text before which a layout ends. -/
def Ends (r : List Char) : Prop := ∀ c, r.head? = some c → c = ' ' ∨ c = ')'

theorem Ends.endsWord (h : Ends r) : EndsWord r := by
  intro c hc
  rcases h c hc with rfl | rfl <;> rfl

theorem isWord_notWord : IsWord notWord := ⟨by decide, rfl⟩

/-- A text determines what stands before its first separator. -/
theorem separator_append_inj {d : Char} (hv : d ∉ v) (hw : d ∉ w) (h : v ++ d :: r = w ++ d :: s) :
    v = w ∧ r = s := by
  induction v generalizing w with
  | nil =>
    cases w with
    | nil => exact ⟨rfl, (List.cons.inj h).2⟩
    | cons c rest =>
      obtain ⟨rfl, -⟩ := List.cons.inj h
      exact absurd List.mem_cons_self hw
  | cons c rest ih =>
    cases w with
    | nil =>
      obtain ⟨rfl, -⟩ := List.cons.inj h
      exact absurd List.mem_cons_self hv
    | cons c' rest' =>
      obtain ⟨rfl, hrest⟩ := List.cons.inj h
      obtain ⟨rfl, rfl⟩ := ih (fun hm => hv (List.mem_cons_of_mem _ hm))
        (fun hm => hw (List.mem_cons_of_mem _ hm)) hrest
      exact ⟨rfl, rfl⟩

theorem endsWord_cons {c : Char} (h : isDelimiter c = true) : EndsWord (c :: r) := by
  intro c' hc
  cases hc
  exact h

theorem ends_cons {c : Char} (h : c = ' ' ∨ c = ')') : Ends (c :: r) := by
  intro c' hc
  cases hc
  exact h

/-- A layout ends before no equality sign. -/
theorem Ends.ne_equals (h : Ends r) : r ≠ '=' :: s := by
  rintro rfl
  rcases h '=' rfl with h | h <;> cases h

/-- A text that begins with a word does not begin with a parenthesis. -/
theorem word_append_ne_open (hw : IsWord w) : w ++ r ≠ '(' :: s := by
  obtain ⟨c, rest, rfl, hc⟩ := hw.head
  intro h
  obtain ⟨rfl, -⟩ := List.cons.inj h
  cases hc

/-- Whether a layout begins with a parenthesis. -/
def isOpen : Layout → Bool
  | paren _ | group .. => true
  | _ => false

theorem exists_open {x : Layout} (h : x.isOpen = true) : ∃ t, x.chars ++ r = '(' :: t := by
  cases x with
  | paren | group => exact ⟨_, rfl⟩
  | _ => cases h

theorem exists_word {x : Layout} (hx : x.Proper) (h : x.isOpen = false) :
    ∃ w t, IsWord w ∧ x.chars ++ r = w ++ t := by
  cases x with
  | word w => exact ⟨w, r, hx.1, rfl⟩
  | assign v w => exact ⟨v, '=' :: w ++ r, hx.1, List.append_assoc ..⟩
  | not x => exact ⟨notWord, _, isWord_notWord, List.append_assoc ..⟩
  | _ => cases h

/-- A text tells whether its first layout begins with a parenthesis. -/
theorem isOpen_eq {x y : Layout} (hx : x.Proper) (hy : y.Proper)
    (h : x.chars ++ r = y.chars ++ s) : x.isOpen = y.isOpen := by
  -- a layout begins with a parenthesis or with a word, and no text with both
  cases hxo : x.isOpen with
  | true =>
    cases hyo : y.isOpen with
    | true => rfl
    | false =>
      obtain ⟨t, ht⟩ := exists_open (r := r) hxo
      obtain ⟨w, t', hw, ht'⟩ := exists_word (r := s) hy hyo
      rw [ht, ht'] at h
      exact absurd h.symm (word_append_ne_open hw)
  | false =>
    cases hyo : y.isOpen with
    | false => rfl
    | true =>
      obtain ⟨w, t, hw, ht⟩ := exists_word (r := r) hx hxo
      obtain ⟨t', ht'⟩ := exists_open (r := s) hyo
      rw [ht, ht'] at h
      exact absurd h (word_append_ne_open hw)

/-- A text determines its first layout. -/
theorem chars_append_inj {x y : Layout} (hx : x.Proper) (hy : y.Proper) (hr : Ends r) (hs : Ends s)
    (h : x.chars ++ r = y.chars ++ s) : x = y ∧ r = s := by
  have hequals : isDelimiter '=' = true := rfl
  have hblank : isDelimiter ' ' = true := rfl
  -- what comes after the first word or the first part tells the layouts apart
  induction x generalizing y r s with
  | word v =>
    -- a word ends the layout, or an equality sign follows it, or it is the word `NOT`
    have hopen := isOpen_eq hx hy h
    cases y with
    | word w =>
      obtain ⟨rfl, rfl⟩ := hx.1.append_inj hy.1 hr.endsWord hs.endsWord h
      exact ⟨rfl, rfl⟩
    | assign v' w' =>
      obtain ⟨-, hrest⟩ := hx.1.append_inj hy.1 hr.endsWord (endsWord_cons hequals)
        (s := '=' :: (w' ++ s)) (by simpa [chars] using h)
      exact absurd hrest hr.ne_equals
    | not y =>
      obtain ⟨hv, -⟩ := hx.1.append_inj isWord_notWord hr.endsWord (endsWord_cons hblank)
        (s := ' ' :: '(' :: (y.chars ++ ')' :: s)) (by simpa [chars] using h)
      exact absurd hv hx.2
    | _ => cases hopen
  | assign v w =>
    have hopen := isOpen_eq hx hy h
    cases y with
    | word v' =>
      obtain ⟨-, hrest⟩ := hx.1.append_inj hy.1 (endsWord_cons hequals) hs.endsWord
        (r := '=' :: (w ++ r)) (by simpa [chars] using h)
      exact absurd hrest.symm hs.ne_equals
    | assign v' w' =>
      obtain ⟨rfl, hrest⟩ := hx.1.append_inj hy.1 (endsWord_cons hequals) (endsWord_cons hequals)
        (r := '=' :: (w ++ r)) (s := '=' :: (w' ++ s)) (by simpa [chars] using h)
      obtain ⟨rfl, rfl⟩ := hx.2.append_inj hy.2 hr.endsWord hs.endsWord (List.cons.inj hrest).2
      exact ⟨rfl, rfl⟩
    | not y =>
      obtain ⟨-, hrest⟩ := hx.1.append_inj isWord_notWord (endsWord_cons hequals)
        (endsWord_cons hblank) (r := '=' :: (w ++ r)) (s := ' ' :: '(' :: (y.chars ++ ')' :: s))
        (by simpa [chars] using h)
      cases (List.cons.inj hrest).1
    | _ => cases hopen
  | not x ih =>
    have hopen := isOpen_eq hx hy h
    cases y with
    | word w =>
      obtain ⟨hw, -⟩ := isWord_notWord.append_inj hy.1 (endsWord_cons hblank) hs.endsWord
        (r := ' ' :: '(' :: (x.chars ++ ')' :: r)) (by simpa [chars] using h)
      exact absurd hw.symm hy.2
    | assign v' w' =>
      obtain ⟨-, hrest⟩ := isWord_notWord.append_inj hy.1 (endsWord_cons hblank)
        (endsWord_cons hequals) (r := ' ' :: '(' :: (x.chars ++ ')' :: r)) (s := '=' :: (w' ++ s))
        (by simpa [chars] using h)
      cases (List.cons.inj hrest).1
    | not y =>
      have hparts : x.chars ++ ')' :: r = y.chars ++ ')' :: s := by simpa [chars] using h
      obtain ⟨rfl, hrest⟩ := ih (y := y) hx hy (ends_cons (.inr rfl)) (ends_cons (.inr rfl)) hparts
      exact ⟨rfl, (List.cons.inj hrest).2⟩
    | _ => cases hopen
  | paren x ih =>
    -- in parentheses, the first part ends before `)` or before the blank of an operator
    have hopen := isOpen_eq hx hy h
    cases y with
    | paren y =>
      have hparts : x.chars ++ ')' :: r = y.chars ++ ')' :: s := by simpa [chars] using h
      obtain ⟨rfl, hrest⟩ := ih (y := y) hx hy (ends_cons (.inr rfl)) (ends_cons (.inr rfl)) hparts
      exact ⟨rfl, (List.cons.inj hrest).2⟩
    | group y operator z =>
      have hparts : x.chars ++ ')' :: r =
          y.chars ++ ' ' :: (operator ++ ' ' :: (z.chars ++ ')' :: s)) := by simpa [chars] using h
      obtain ⟨-, hrest⟩ := ih hx hy.1 (ends_cons (.inr rfl)) (ends_cons (.inl rfl)) hparts
      cases (List.cons.inj hrest).1
    | _ => cases hopen
  | group x operator x' ih ih' =>
    have hopen := isOpen_eq hx hy h
    cases y with
    | paren y =>
      have hparts : x.chars ++ ' ' :: (operator ++ ' ' :: (x'.chars ++ ')' :: r)) =
          y.chars ++ ')' :: s := by simpa [chars] using h
      obtain ⟨-, hrest⟩ := ih (y := y) hx.1 hy (ends_cons (.inl rfl)) (ends_cons (.inr rfl)) hparts
      cases (List.cons.inj hrest).1
    | group y operator' y' =>
      have hparts : x.chars ++ ' ' :: (operator ++ ' ' :: (x'.chars ++ ')' :: r)) =
          y.chars ++ ' ' :: (operator' ++ ' ' :: (y'.chars ++ ')' :: s)) := by
        simpa [chars] using h
      obtain ⟨rfl, hrest⟩ := ih hx.1 hy.1 (ends_cons (.inl rfl)) (ends_cons (.inl rfl)) hparts
      obtain ⟨rfl, hright⟩ := separator_append_inj hx.2.1 hy.2.1 (List.cons.inj hrest).2
      obtain ⟨rfl, hend⟩ := ih' hx.2.2 hy.2.2 (ends_cons (.inr rfl)) (ends_cons (.inr rfl)) hright
      exact ⟨rfl, (List.cons.inj hend).2⟩
    | _ => cases hopen

/-- A text is written by one layout at most. -/
theorem chars_inj {x y : Layout} (hx : x.Proper) (hy : y.Proper) (h : x.chars = y.chars) :
    x = y :=
  (chars_append_inj hx hy (r := []) (s := []) nofun nofun (by rw [h])).1

end Layout

end QueryClause
