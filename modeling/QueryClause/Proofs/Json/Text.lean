import QueryClause.Json.Reader
import QueryClause.Proofs.Text.Integer

/-!
# JSON texts are read back

What `Json.text` writes for a value is read back as that value (`Json.ofText?_text`), if the value
is exact, which is to say free of floats and of whole numbers beyond 64 bits, and nests no deeper
than the reader goes.  A deeper one is refused.

The scanner and the machine are treated one after the other.  `Json.tokens` lists the tokens of a
value; its text is scanned into them whatever follows (`JsonReader.Scans`), and the machine takes
them from a state that waits for a value to the one in which the value has been delivered
(`JsonReader.run_tokens`).
-/

namespace QueryClause

namespace Json

/-! ### Depth and exactness -/

/-- How deep a reader goes. -/
def maxDepth : Nat := 127

mutual

/-- How deep arrays and objects are nested in a value. -/
def depth : Json → Nat
  | array items => itemsDepth items + 1
  | object members => membersDepth members + 1
  | _ => 0

/-- How deep arrays and objects are nested in some items. -/
def itemsDepth : List Json → Nat
  | [] => 0
  | v :: rest => max (depth v) (itemsDepth rest)

/-- How deep arrays and objects are nested in some members. -/
def membersDepth : List (String × Json) → Nat
  | [] => 0
  | (_, v) :: rest => max (depth v) (membersDepth rest)

end

mutual

/-- Whether a value has no floats, and no whole numbers that 64 bits do not hold. -/
def isExact : Json → Bool
  | int n => -twoTo 63 ≤ n && n < twoTo 64
  | float _ => false
  | array items => areExact items
  | object members => membersExact members
  | _ => true

/-- Whether some items are exact. -/
def areExact : List Json → Bool
  | [] => true
  | v :: rest => isExact v && areExact rest

/-- Whether some members are exact. -/
def membersExact : List (String × Json) → Bool
  | [] => true
  | (_, v) :: rest => isExact v && membersExact rest

end

end Json

namespace JsonReader

/-! ### Strings -/

theorem digitChar_plain {n : Nat} (h : n < 16) :
    Nat.digitChar n ≠ '"' ∧ Nat.digitChar n ≠ '\\' := by
  have hall : ∀ n < 16, Nat.digitChar n ≠ '"' ∧ Nat.digitChar n ≠ '\\' := by decide
  exact hall n h

theorem hexDigit?_digitChar {n : Nat} (h : n < 16) : Text.hexDigit? (Nat.digitChar n) = some n := by
  have hall : ∀ n < 16, Text.hexDigit? (Nat.digitChar n) = some n := by decide
  exact hall n h

/-- How a character is written in a literal: by a letter, by its number, or as it is. -/
theorem escaped_cases (c : Char) :
    (∃ e, Json.escaped c = ['\\', e] ∧ e ≠ 'u' ∧ shortEscape? e = some c) ∨
      (c.toNat < 32 ∧ Json.escaped c = ['\\', 'u', '0', '0', Nat.digitChar (c.toNat / 16),
        Nat.digitChar (c.toNat % 16)]) ∨
      (c ≠ '"' ∧ c ≠ '\\' ∧ 32 ≤ c.toNat ∧ Json.escaped c = [c]) := by
  unfold Json.escaped
  by_cases hquote : c = '"'
  · subst hquote; exact .inl ⟨'"', rfl, by decide, rfl⟩
  by_cases hslash : c = '\\'
  · subst hslash; exact .inl ⟨'\\', rfl, by decide, rfl⟩
  rw [if_neg hquote, if_neg hslash]
  iterate 5
    split
    · subst_vars; exact .inl ⟨_, rfl, by decide, rfl⟩
  split
  · exact .inr (.inl ⟨‹_›, rfl⟩)
  · exact .inr (.inr ⟨hquote, hslash, Nat.le_of_not_lt ‹_›, rfl⟩)

theorem scan_plain_char {c : Char} (hquote : c ≠ '"') (hslash : c ≠ '\\') (raw rest : List Char) :
    scan (.string raw) (c :: rest) = scan (.string (c :: raw)) rest := by
  rw [scan, if_neg hquote, if_neg hslash]

theorem scan_escape (e : Char) (raw rest : List Char) :
    scan (.string raw) ('\\' :: e :: rest) = scan (.string (e :: '\\' :: raw)) rest := by
  rw [scan, if_neg (by decide), if_pos rfl, scan]

/-- The characters of a text stay within its literal. -/
theorem scan_escaped (cs raw rest : List Char) :
    scan (.string raw) (cs.flatMap Json.escaped ++ rest) =
      scan (.string ((cs.flatMap Json.escaped).reverse ++ raw)) rest := by
  induction cs generalizing raw with
  | nil => rfl
  | cons c cs ih =>
    rw [List.flatMap_cons, List.append_assoc, List.reverse_append, List.append_assoc]
    rcases escaped_cases c with ⟨e, he, -⟩ | ⟨hc, he⟩ | ⟨hquote, hslash, -, he⟩
    · rw [he, List.cons_append, List.cons_append, List.nil_append, scan_escape, ih]
      rfl
    · -- a control character is written by its code
      have hhigh := digitChar_plain (n := c.toNat / 16) (by omega)
      have hlow := digitChar_plain (n := c.toNat % 16) (by omega)
      simp only [he, List.cons_append, List.nil_append]
      rw [scan_escape, scan_plain_char (by decide) (by decide),
        scan_plain_char (by decide) (by decide), scan_plain_char hhigh.1 hhigh.2,
        scan_plain_char hlow.1 hlow.2, ih]
      rfl
    · rw [he, List.singleton_append, scan_plain_char hquote hslash, ih]
      rfl

/-- The unit that stands for a character in a literal. -/
theorem exists_unit (c : Char) :
    ∃ u, (∀ rest, unitsOf (Json.escaped c ++ rest) = (unitsOf rest).map (u :: ·)) ∧
      ∀ units, charsOf (u :: units) = (charsOf units).map (c :: ·) := by
  rcases escaped_cases c with ⟨e, he, hu, hshort⟩ | ⟨hc, he⟩ | ⟨-, hslash, hle, he⟩
  · -- an escape of two characters
    refine ⟨.char c, fun rest => ?_, fun units => rfl⟩
    rw [he, List.cons_append, List.cons_append, List.nil_append, unitsOf, hshort]
    · cases unitsOf rest <;> rfl
    · exact fun _ _ _ _ _ hletter _ => hu hletter
  · refine ⟨.code c.toNat, fun rest => ?_, fun units => ?_⟩
    · have hhigh := hexDigit?_digitChar (n := c.toNat / 16) (by omega)
      have hlow := hexDigit?_digitChar (n := c.toNat % 16) (by omega)
      have hzero : Text.hexDigit? '0' = some 0 := rfl
      have hnumber : 16 * (c.toNat / 16) + c.toNat % 16 = c.toNat := Nat.div_add_mod ..
      rw [he]
      simp only [List.cons_append, List.nil_append, unitsOf, List.mapM_cons, List.mapM_nil, hzero,
        hhigh, hlow]
      cases unitsOf rest <;> simp [hnumber]
    · -- a control character is no half of a surrogate pair
      rw [charsOf.eq_def]
      dsimp only
      rw [if_pos (by simp; omega), Char.ofNat_toNat]
  · refine ⟨.char c, fun rest => ?_, fun units => rfl⟩
    rw [he, List.singleton_append, unitsOf, if_neg (by simp [hslash]; omega)]
    · exact fun _ _ _ _ _ hslash' _ => hslash hslash'
    · exact fun _ _ hslash' _ => hslash hslash'

theorem string?_escaped (cs : List Char) :
    string? (cs.flatMap Json.escaped) = some (String.ofList cs) := by
  have hchars : (unitsOf (cs.flatMap Json.escaped)).bind charsOf = some cs := by
    induction cs with
    | nil => rfl
    | cons c cs ih =>
      obtain ⟨u, hunit, hchar⟩ := exists_unit c
      rw [List.flatMap_cons, hunit]
      cases hunits : unitsOf (cs.flatMap Json.escaped) with
      | none => rw [hunits] at ih; cases ih
      | some units =>
        rw [hunits] at ih
        rw [Option.map_some, Option.bind_some, hchar]
        rw [Option.bind_some] at ih
        rw [ih]
        rfl
  rw [string?, hchars]
  rfl

/-! ### Scanning -/

/-- Some characters do not go on with a number or a word. -/
def Ends (s : List Char) : Prop := ∀ c, s.head? = some c → endsBare c = true

/-- The scanner cuts some characters into these tokens, whatever follows that does not go on with a
number or a word. -/
def Scans (s : List Char) (ts : List Token) : Prop :=
  ∀ rest, Ends rest → scan .between (s ++ rest) = (scan .between rest).map (ts ++ ·)

variable {s u : List Char} {ts us : List Token}

theorem Ends.append (hs : Ends s) (hu : Ends u) : Ends (s ++ u) := by
  cases s with
  | nil => exact hu
  | cons c s => exact hs

theorem Ends.cons {c : Char} (hc : endsBare c = true) : Ends (c :: s) := by
  rintro _ ⟨⟩
  exact hc

theorem Scans.nil : Scans [] [] := fun rest _ => by
  rw [List.nil_append]
  cases scan .between rest <;> rfl

theorem Scans.append (hs : Scans s ts) (hu : Scans u us) (hends : Ends u) :
    Scans (s ++ u) (ts ++ us) := by
  intro rest hrest
  rw [List.append_assoc, hs _ (hends.append hrest), hu _ hrest, Option.map_map]
  exact congrArg (Option.map · _) (funext fun l => (List.append_assoc ..).symm)

/-- A mark in front. -/
theorem Scans.mark {c : Char} {t : Token} (hc : between c = ([t], .between)) (hs : Scans s ts) :
    Scans (c :: s) (t :: ts) := by
  intro rest hrest
  rw [List.cons_append, scan, hc, hs rest hrest, Option.map_map]
  rfl

/-- Two marks around. -/
theorem Scans.enclose {c d : Char} {t e : Token} (hs : Scans s ts)
    (hc : between c = ([t], .between)) (hd : between d = ([e], .between)) :
    Scans (c :: s ++ [d]) (t :: ts ++ [e]) := by
  have hends : Ends [d] := .cons (by rw [endsBare, hd])
  exact (hs.append (Scans.nil.mark hd) hends).mark hc

theorem Scans.quoted (s : String) : Scans (Json.quoted s).toList [.atom (.string s)] := by
  intro rest _
  rw [Json.quoted, String.toList_ofList, List.cons_append, List.cons_append, List.append_assoc,
    scan]
  change (scan (.string []) _).map _ = _
  rw [scan_escaped, List.singleton_append, scan, if_pos rfl, List.append_nil, List.reverse_reverse,
    string?_escaped, String.ofList_toList]
  cases scan .between rest <;> rfl

theorem between_of_bare {c : Char} (hc : endsBare c = false) : between c = ([], .bare [c]) := by
  unfold between
  split
  all_goals first | rfl | cases hc

theorem scan_bare (raw : List Char) {rest : List Char} {v : Json} (hs : ∀ c ∈ s, endsBare c = false)
    (hrest : Ends rest) (hv : bareValue? (raw.reverse ++ s) = some v) :
    scan (.bare raw) (s ++ rest) = (scan .between rest).map ([.atom v] ++ ·) := by
  induction s generalizing raw with
  | nil =>
    -- the word ends with the text, or at a character that is scanned again on its own
    rw [List.append_nil] at hv
    cases rest with
    | nil => simp [scan, hv]
    | cons c rest =>
      simp only [List.nil_append, scan, if_pos (hrest c rfl), hv]
      cases scan (between c).2 rest <;> rfl
  | cons c s ih =>
    rw [List.cons_append, scan, if_neg (by simp [hs c List.mem_cons_self])]
    refine ih (c :: raw) (fun d hd => hs d (List.mem_cons_of_mem _ hd)) ?_
    rw [List.reverse_cons, List.append_assoc]
    exact hv

/-- A number or a word. -/
theorem Scans.bare {v : Json} (hne : s ≠ []) (hs : ∀ c ∈ s, endsBare c = false)
    (hv : bareValue? s = some v) : Scans s [.atom v] := by
  intro rest hrest
  obtain ⟨c, s, rfl⟩ := List.exists_cons_of_ne_nil hne
  have hbare := scan_bare [c] (fun d hd => hs d (List.mem_cons_of_mem _ hd)) hrest hv
  rw [List.cons_append, scan, between_of_bare (hs c List.mem_cons_self)]
  dsimp only
  rw [hbare, Option.map_map]
  rfl

/-- A word none of whose characters ends one. -/
theorem Scans.word {v : Json} (hne : s ≠ []) (hs : s.any endsBare = false)
    (hv : bareValue? s = some v) : Scans s [.atom v] :=
  .bare hne (fun c hc => Bool.eq_false_iff.mpr (List.any_eq_false.mp hs c hc)) hv

/-! ### Numbers -/

theorem literal_digits (n : Nat) :
    JsonNumber.Literal.ofText? (Text.digits n) = some ⟨Text.digits n, none, none⟩ := by
  have hdigits : ∀ c ∈ Text.digits n, c.isDigit = true := fun c hc => Text.isDigit_of_mem_digits hc
  have hsplit : FloatReading.splitDigits (Text.digits n) = (Text.digits n, []) := by
    have hend : ∀ c, ([] : List Char).head? = some c → c.isDigit = false := nofun
    rw [FloatReading.splitDigits, ← List.append_nil (Text.digits n),
      Text.takeWhile_run hdigits hend, Text.dropWhile_run hdigits hend, List.append_nil]
  -- a numeral does not begin with a zero, but for the number zero
  have hzero : ((Text.digits n).head? == some '0' && decide (1 < (Text.digits n).length)) =
      false := by
    rcases Nat.eq_zero_or_pos n with rfl | hn
    · rfl
    · simp [Text.head_digits hn]
  rw [JsonNumber.Literal.ofText?, hsplit]
  simp [hzero, Text.digits_ne_nil]

theorem natOf_digits (n : Nat) : FloatReading.natOf (Text.digits n) = n :=
  Nat.ofDigitChars_ten_toDigits

theorem number_digits {n : Nat} (h : n < twoTo 64) :
    JsonNumber.ofText? (Text.digits n) = some (.int n) := by
  have hsign : ∀ u, Text.digits n ≠ '-' :: u := fun u hu =>
    Text.hyphen_not_mem_digits (hu ▸ List.mem_cons_self)
  rw [JsonNumber.ofText?]
  · simp [literal_digits, natOf_digits, h]
  · exact hsign

theorem number_hyphen_digits {n : Nat} (hpos : 0 < n) (h : n ≤ twoTo 63) :
    JsonNumber.ofText? ('-' :: Text.digits n) = some (.int (-n)) := by
  rw [JsonNumber.ofText?]
  simp [literal_digits, natOf_digits, hpos, h]

theorem number_ofInt {n : Int} (hlow : -twoTo 63 ≤ n) (hhigh : n < twoTo 64) :
    JsonNumber.ofText? (Text.ofInt n).toList = some (.int n) := by
  rw [Text.toList_ofInt]
  by_cases hn : n < 0
  · have hneg : n = -(n.natAbs : Int) := by omega
    rw [if_pos hn, List.singleton_append, number_hyphen_digits (by omega) (by omega), ← hneg]
  · have hpos : (n.natAbs : Int) = n := by omega
    rw [if_neg hn, List.nil_append, number_digits (by omega), hpos]

theorem endsBare_of_isDigit {c : Char} (h : c.isDigit = true) : endsBare c = false := by
  have hbare : between c = ([], .bare [c]) := by
    unfold between
    split
    all_goals first | rfl | exact absurd h (by decide)
  rw [endsBare, hbare]

theorem Scans.int {n : Int} (hlow : -twoTo 63 ≤ n) (hhigh : n < twoTo 64) :
    Scans (Text.ofInt n).toList [.atom (.int n)] := by
  have hword : ∀ w : List Char, (w.all fun c => c.isDigit || c == '-') = false →
      (Text.ofInt n).toList ≠ w := by
    rintro w hw rfl
    obtain ⟨c, hc, hclass⟩ := List.all_eq_false.mp hw
    exact hclass (by simpa using Text.isDigit_or_of_mem_ofInt hc)
  refine .bare (Text.ofInt_ne_nil n) (fun c hc => ?_) ?_
  · rcases Text.isDigit_or_of_mem_ofInt hc with h | rfl
    · exact endsBare_of_isDigit h
    · rfl
  · rw [bareValue?, if_neg (hword _ rfl), if_neg (hword _ rfl), if_neg (hword _ rfl),
      number_ofInt hlow hhigh]

end JsonReader

/-! ### Tokens -/

namespace Json

open JsonReader

mutual

/-- The tokens of a value. -/
def tokens : Json → List Token
  | array items => .openArray :: (itemTokens items).tail ++ [.closeArray]
  | object members => .openObject :: (memberTokens members).tail ++ [.closeObject]
  | v => [.atom v]

/-- The tokens of some items, with a comma in front of each. -/
def itemTokens : List Json → List Token
  | [] => []
  | v :: rest => .comma :: tokens v ++ itemTokens rest

/-- The tokens of some members, with a comma in front of each. -/
def memberTokens : List (String × Json) → List Token
  | [] => []
  | (name, v) :: rest => .comma :: .atom (.string name) :: .colon :: tokens v ++ memberTokens rest

end

/-! ### Texts are scanned -/

/-- The characters of some texts, with a comma in front of each. -/
def commaed (l : List String) : List Char := l.flatMap fun s => ',' :: s.toList

theorem toList_join (l : List String) : (Text.join "," l).toList = (commaed l).tail := by
  induction l with
  | nil => rfl
  | cons s l ih =>
    cases l with
    | nil => simp [Text.join, commaed]
    | cons t l =>
      rw [Text.join, String.toList_append, String.toList_append, ih]
      simp [commaed]

theorem ends_commaed (l : List String) : Ends (commaed l) := by
  cases l with
  | nil => exact nofun
  | cons s l => exact .cons rfl

theorem scans_commaed {s : String} {l : List String} {ts : List Token}
    (h : Scans (commaed (s :: l)).tail ts) : Scans (commaed (s :: l)) (.comma :: ts) :=
  h.mark rfl

theorem toList_array (items : List Json) :
    (array items).text.toList = '[' :: (commaed (texts items)).tail ++ [']'] := by
  rw [text, String.toList_append, String.toList_append, toList_join]
  rfl

theorem toList_object (members : List (String × Json)) :
    (object members).text.toList =
      '\x7b' :: (commaed (memberTexts members)).tail ++ ['\x7d'] := by
  rw [text, String.toList_append, String.toList_append, toList_join]
  rfl

theorem tail_commaed_members (name : String) (v : Json) (members : List (String × Json)) :
    (commaed (memberTexts ((name, v) :: members))).tail =
      (quoted name).toList ++ ':' :: (v.text.toList ++ commaed (memberTexts members)) := by
  rw [memberTexts, commaed, List.flatMap_cons, String.toList_append, String.toList_append]
  simp [commaed]

/-- A name in front of what its value is scanned into, and of what follows that. -/
theorem scans_member (name : String) {s : List Char} {ts : List Token} (h : Scans s ts) :
    Scans ((quoted name).toList ++ ':' :: s) (.atom (.string name) :: .colon :: ts) :=
  (Scans.quoted name).append (.mark rfl h) (.cons rfl)

mutual

theorem scans_text : ∀ v : Json, v.isExact = true → Scans v.text.toList v.tokens
  | .null, _ => .word (by decide) rfl rfl
  | .bool true, _ => .word (by decide) rfl rfl
  | .bool false, _ => .word (by decide) rfl rfl
  | .int n, h => by
    simp only [isExact, Bool.and_eq_true, decide_eq_true_eq] at h
    exact .int h.1 h.2
  | .string s, _ => .quoted s
  | .array items, h => by
    rw [toList_array]
    exact (scans_items items h).enclose rfl rfl
  | .object members, h => by
    rw [toList_object]
    exact (scans_members members h).enclose rfl rfl

theorem scans_items : ∀ items : List Json, areExact items = true →
    Scans (commaed (texts items)).tail (itemTokens items).tail
  | [], _ => .nil
  | v :: items, h => by
    -- what follows the first item begins with a comma, if there is anything
    rw [areExact, Bool.and_eq_true] at h
    exact (scans_text v h.1).append (scans_texts items h.2) (ends_commaed _)

theorem scans_members : ∀ members : List (String × Json), membersExact members = true →
    Scans (commaed (memberTexts members)).tail (memberTokens members).tail
  | [], _ => .nil
  | (name, v) :: members, h => by
    rw [membersExact, Bool.and_eq_true] at h
    rw [tail_commaed_members]
    exact scans_member name
      ((scans_text v h.1).append (scans_memberTexts members h.2) (ends_commaed _))

theorem scans_texts : ∀ items : List Json, areExact items = true →
    Scans (commaed (texts items)) (itemTokens items)
  | [], _ => .nil
  | v :: items, h => scans_commaed (scans_items (v :: items) h)

theorem scans_memberTexts : ∀ members : List (String × Json), membersExact members = true →
    Scans (commaed (memberTexts members)) (memberTokens members)
  | [], _ => .nil
  | (name, v) :: members, h => scans_commaed (scans_members ((name, v) :: members) h)

end

/-! ### The machine -/

theorem run_append (state : State) (ts us : List Token) :
    run state (ts ++ us) = (run state ts).bind fun next => run next us := by
  induction ts generalizing state with
  | nil => rfl
  | cons t ts ih =>
    rw [List.cons_append, run, run]
    cases step state t with
    | none => rfl
    | some next => exact ih next

/-- The first item of an array begins as any value does. -/
theorem run_first (outer : List Frame) (v : Json) :
    run (.arrayStart outer) v.tokens = run (.value (.array [] :: outer)) v.tokens := by
  cases v <;> rfl

/-- Of two parts, one after the other, both have to fit. -/
theorem bind_ite {α β : Type} {p q r : Prop} [Decidable p] [Decidable q] [Decidable r] {a : α}
    {f : α → Option β} {b : β} (hf : p → f a = if q then some b else none) (h : r ↔ p ∧ q) :
    (if p then some a else none).bind f = if r then some b else none := by
  by_cases hp : p
  · have hrq : r ↔ q := h.trans (and_iff_right hp)
    rw [if_pos hp, Option.bind_some, hf hp]
    simp only [hrq]
  · rw [if_neg hp, if_neg fun hr => hp (h.1 hr).1]
    rfl

mutual

/-- The tokens of a value deliver it to the container around it, if it fits. -/
theorem run_tokens : ∀ (v : Json) (outer : List Frame), outer.length ≤ maxDepth →
    run (.value outer) v.tokens =
      if outer.length + v.depth ≤ maxDepth then some (deliver v outer) else none
  | .null, _, h | .bool _, _, h | .int _, _, h | .float _, _, h | .string _, _, h =>
    (if_pos h).symm
  | .array items, outer, _ => by
    -- a container opens only below the limit, and its items are one level deeper
    change (if outer.length < maxDepth then some (.arrayStart outer) else none).bind
      (fun next => run next ((itemTokens items).tail ++ [.closeArray])) = _
    exact bind_ite (run_array items outer) (by rw [depth]; omega)
  | .object members, outer, _ => by
    change (if outer.length < maxDepth then some (.objectStart outer) else none).bind
      (fun next => run next ((memberTokens members).tail ++ [.closeObject])) = _
    exact bind_ite (run_object members outer) (by rw [depth]; omega)

theorem run_array : ∀ (items : List Json) (outer : List Frame), outer.length < maxDepth →
    run (.arrayStart outer) ((itemTokens items).tail ++ [.closeArray]) =
      if outer.length + 1 + itemsDepth items ≤ maxDepth then some (deliver (.array items) outer)
      else none
  | [], outer, h => (if_pos h).symm
  | v :: items, outer, h => by
    -- as if a comma stood in front of the first item as well
    have hfirst : run (.arrayStart outer) ((itemTokens (v :: items)).tail ++ [.closeArray]) =
        run (.arrayNext [] outer) (itemTokens (v :: items) ++ [.closeArray]) := by
      change run _ ((v.tokens ++ itemTokens items) ++ _) =
        run (.value (.array [] :: outer)) ((v.tokens ++ itemTokens items) ++ _)
      rw [List.append_assoc, run_append, run_append, run_first]
    rw [hfirst, run_append, run_itemTokens (v :: items) [] outer h]
    split
    · rw [List.append_nil, Option.bind_some, run, step, List.reverse_reverse]
      rfl
    · rfl

theorem run_itemTokens : ∀ (items done : List Json) (outer : List Frame),
    outer.length < maxDepth →
    run (.arrayNext done outer) (itemTokens items) =
      if outer.length + 1 + itemsDepth items ≤ maxDepth then
        some (.arrayNext (items.reverse ++ done) outer)
      else none
  | [], _, _, h => (if_pos h).symm
  | v :: items, done, outer, h => by
    -- the item has one frame more around it than the array
    change run (.value (.array done :: outer)) (v.tokens ++ itemTokens items) = _
    rw [run_append, run_tokens v (.array done :: outer) h]
    refine bind_ite (q := outer.length + 1 + itemsDepth items ≤ maxDepth) (fun _ => ?_)
      (by rw [itemsDepth, List.length_cons]; omega)
    change run (.arrayNext (v :: done) outer) (itemTokens items) = _
    rw [run_itemTokens items (v :: done) outer h, List.reverse_cons, List.append_assoc]
    rfl

theorem run_object : ∀ (members : List (String × Json)) (outer : List Frame),
    outer.length < maxDepth →
    run (.objectStart outer) ((memberTokens members).tail ++ [.closeObject]) =
      if outer.length + 1 + membersDepth members ≤ maxDepth then
        some (deliver (.object members) outer)
      else none
  | [], outer, h => (if_pos h).symm
  | member :: members, outer, h => by
    have hfirst : run (.objectStart outer) ((memberTokens (member :: members)).tail ++
        [.closeObject]) = run (.objectNext [] outer) (memberTokens (member :: members) ++
          [.closeObject]) := rfl
    rw [hfirst, run_append, run_memberTokens (member :: members) [] outer h]
    split
    · rw [List.append_nil, Option.bind_some, run, step, List.reverse_reverse]
      rfl
    · rfl

theorem run_memberTokens : ∀ (members done : List (String × Json)) (outer : List Frame),
    outer.length < maxDepth →
    run (.objectNext done outer) (memberTokens members) =
      if outer.length + 1 + membersDepth members ≤ maxDepth then
        some (.objectNext (members.reverse ++ done) outer)
      else none
  | [], _, _, h => (if_pos h).symm
  | (name, v) :: members, done, outer, h => by
    change run (.value (.object done name :: outer)) (v.tokens ++ memberTokens members) = _
    rw [run_append, run_tokens v (.object done name :: outer) h]
    refine bind_ite (q := outer.length + 1 + membersDepth members ≤ maxDepth) (fun _ => ?_)
      (by rw [membersDepth, List.length_cons]; omega)
    change run (.objectNext ((name, v) :: done) outer) (memberTokens members) = _
    rw [run_memberTokens members ((name, v) :: done) outer h, List.reverse_cons, List.append_assoc]
    rfl

end

/-- **A JSON text is read back as the value that it was written for**, unless it nests deeper than a
reader goes. -/
theorem ofText?_text {v : Json} (h : v.isExact = true) :
    ofText? v.text = if v.depth ≤ maxDepth then some v else none := by
  have hscan : scan .between v.text.toList = some v.tokens := by
    have hscans := scans_text v h [] nofun
    rw [List.append_nil] at hscans
    rw [hscans, scan, Option.map_some, List.append_nil]
  rw [ofText?, hscan, Option.bind_some, run_tokens v [] (Nat.zero_le _), List.length_nil,
    Nat.zero_add]
  by_cases hdepth : v.depth ≤ maxDepth
  · rw [if_pos hdepth, if_pos hdepth]
    rfl
  · rw [if_neg hdepth, if_neg hdepth]

end Json

end QueryClause
