import QueryClause.Host.Json
import QueryClause.Proofs.Calendar.Notation
import QueryClause.Proofs.Json.Text

/-!
# Host types and values survive JSON

`Json.RoundTrips write read a` says that what is written for `a` is read back as `a`.  It holds of
every type (`HostType.roundTrips`), and of a value if it holds no float and its decimals, instants
and identifiers survive their own notations (`Value.Legible`, `Value.roundTrips`).  Instants always
do (`Value.legible_iff`).
-/

namespace QueryClause

namespace Json

/-- What is written for `a` is read back as `a`, and a reader of texts can handle it. -/
structure RoundTrips {α : Type} (write : α → Json) (read : Json → Option α) (a : α) : Prop where
  back : read (write a) = some a
  exact : (write a).isExact = true

/-- A text that is not too deep is read back as well. -/
theorem RoundTrips.text {α : Type} {write : α → Json} {read : Json → Option α} {a : α}
    (h : RoundTrips write read a) :
    (ofText? (write a).text).bind read = if (write a).depth ≤ maxDepth then some a else none := by
  rw [ofText?_text h.exact]
  split
  · exact h.back
  · rfl

theorem areExact_iff {items : List Json} :
    areExact items = true ↔ ∀ v ∈ items, v.isExact = true := by
  induction items with
  | nil => simp [areExact]
  | cons v items ih => simp [areExact, ih]

theorem mapM_back {α β : Type} {write : α → β} {read : β → Option α} {l : List α}
    (h : ∀ a ∈ l, read (write a) = some a) : (l.map write).mapM read = some l := by
  induction l with
  | nil => rfl
  | cons a l ih =>
    rw [List.map_cons, List.mapM_cons, h a List.mem_cons_self,
      ih fun b hb => h b (List.mem_cons_of_mem _ hb)]
    rfl

@[simp] theorem isExact_null : null.isExact = true := rfl

@[simp] theorem isExact_bool (b : Bool) : (bool b).isExact = true := rfl

@[simp] theorem isExact_string (s : String) : (string s).isExact = true := rfl

@[simp] theorem isExact_int64 (n : Int64) : (int n.toInt).isExact = true := by
  have hlow : -twoTo 63 ≤ n.toInt := n.le_toInt
  have hhigh : n.toInt < twoTo 63 := n.toInt_lt
  have hle : twoTo 63 ≤ twoTo 64 := by decide
  rw [isExact, Bool.and_eq_true, decide_eq_true_eq, decide_eq_true_eq]
  omega

theorem isExact_object {members : List (String × Json)}
    (h : ∀ m ∈ members, m.2.isExact = true) : (object members).isExact = true := by
  rw [isExact]
  induction members with
  | nil => rfl
  | cons m members ih =>
    rw [membersExact, h m List.mem_cons_self, ih fun m hm => h m (List.mem_cons_of_mem _ hm)]
    rfl

/-- A list survives if its items do. -/
theorem RoundTrips.list {α : Type} {write : α → Json} {read : Json → Option α} {l : List α}
    (h : ∀ a ∈ l, RoundTrips write read a) :
    RoundTrips (fun l => .array (l.map write)) (list? read) l where
  back := mapM_back fun a ha => (h a ha).back
  exact := by
    rw [isExact, areExact_iff]
    intro v hv
    obtain ⟨a, ha, rfl⟩ := List.mem_map.1 hv
    exact (h a ha).exact

/-- A case survives if its content does. -/
theorem RoundTrips.tagged {α β : Type} {write : α → Json} {read : Json → Option α} {a : α}
    {writeCase : β → Json} {readCase : Json → Option β} {b : β} {tag : String}
    (h : RoundTrips write read a) (f : α → β) (hb : b = f a)
    (hwrite : writeCase b = .object [(tag, write a)])
    (hread : readCase (.object [(tag, write a)]) = (read (write a)).map f) :
    RoundTrips writeCase readCase b where
  back := by rw [hwrite, hread, h.back, hb]; rfl
  exact := by rw [hwrite]; exact isExact_object (by simp [h.exact])

end Json

open Json

namespace Word64

theorem ofInt?_toInt (n : Int64) : ofInt? n.toInt = some n := by
  have hfits : fits n.toInt = true := fits_iff.2 ⟨n.le_toInt, n.toInt_lt⟩
  rw [ofInt?, if_pos hfits, Int64.ofInt_toInt]

end Word64

/-! ### Types -/

theorem EnumMember.roundTrips (m : EnumMember) : RoundTrips toJson ofJson? m where
  back := by
    simp [ofJson?, toJson, fields?, valuesOf, required?, string?, int64?, Word64.ofInt?_toInt]
  exact := isExact_object (by simp)

theorem EnumType.roundTrips (e : EnumType) : RoundTrips toJson ofJson? e := by
  have hmembers := RoundTrips.list fun m (_ : m ∈ e.members) => m.roundTrips
  have hback := hmembers.back
  exact ⟨by simp [ofJson?, toJson, fields?, valuesOf, required?, string?, hback],
    isExact_object (by simp [hmembers.exact])⟩

namespace HostType

/-- A type that is written as a name alone. -/
theorem roundTrips_named {t : HostType} {name : String} (hwrite : t.toJson = .string name)
    (hread : named.lookup name = some t) : RoundTrips toJson ofJson? t where
  back := by
    rw [hwrite]
    exact hread
  exact := by rw [hwrite]; rfl

theorem roundTrips (t : HostType) : RoundTrips toJson ofJson? t := by
  induction t with
  | enum e => exact e.roundTrips.tagged enum rfl rfl rfl
  | entity name => exact ⟨rfl, rfl⟩
  | object name => exact ⟨rfl, rfl⟩
  | array t ih => exact ih.tagged array rfl rfl rfl
  | list t ih => exact ih.tagged list rfl rfl rfl
  | nullable t ih => exact ih.tagged nullable rfl rfl rfl
  | int t => cases t <;> exact roundTrips_named rfl rfl
  | _ => exact roundTrips_named rfl rfl

end HostType

/-! ### Values -/

namespace Value

mutual

/-- The values in a value that hold no others. -/
def leaves : Value → List Value
  | list items => itemLeaves items
  | object _ fields => fieldLeaves fields
  | v => [v]

/-- The values in some items that hold no others. -/
def itemLeaves : List Value → List Value
  | [] => []
  | v :: rest => leaves v ++ itemLeaves rest

/-- The values in some fields that hold no others. -/
def fieldLeaves : List (String × Value) → List Value
  | [] => []
  | (_, v) :: rest => leaves v ++ fieldLeaves rest

end

/-- Some values hold no float, and their decimals, instants and identifiers are read back from their
own notations. -/
structure Legible (vs : List Value) : Prop where
  noFloat : ∀ x, float x ∉ vs
  decimals : ∀ d, decimal d ∈ vs → decimalOf? (.string d.text) = some d
  instants : ∀ t, dateTime t ∈ vs → DateTime.ofIso? t.isoText = some t
  identifiers : ∀ g, guid g ∈ vs → Guid.ofText? g.text = some g

theorem Legible.subset {vs ws : List Value} (h : Legible ws) (hsubset : vs ⊆ ws) : Legible vs where
  noFloat x hx := h.noFloat x (hsubset hx)
  decimals d hd := h.decimals d (hsubset hd)
  instants t ht := h.instants t (hsubset ht)
  identifiers g hg := h.identifiers g (hsubset hg)

theorem Legible.left {vs ws : List Value} (h : Legible (vs ++ ws)) : Legible vs :=
  h.subset (List.subset_append_left vs ws)

theorem Legible.right {vs ws : List Value} (h : Legible (vs ++ ws)) : Legible ws :=
  h.subset (List.subset_append_right vs ws)

/-- An instant is always read back from its own notation. -/
theorem legible_iff {vs : List Value} :
    Legible vs ↔ (∀ x, float x ∉ vs) ∧
      (∀ d, decimal d ∈ vs → decimalOf? (.string d.text) = some d) ∧
      ∀ g, guid g ∈ vs → Guid.ofText? g.text = some g := by
  constructor
  · intro h
    exact ⟨h.noFloat, h.decimals, h.identifiers⟩
  · rintro ⟨hfloat, hdecimal, hguid⟩
    exact ⟨hfloat, hdecimal, fun t _ => t.ofIso?_isoText, hguid⟩

variable {positional : Bool}

theorem roundTrips_int64 (n : Int64) : RoundTrips (fun n : Int64 => .int n.toInt) int64? n :=
  ⟨Word64.ofInt?_toInt n, isExact_int64 n⟩

theorem roundTrips_char (c : Char) :
    RoundTrips (fun c : Char => .string (String.singleton c)) char? c :=
  ⟨by simp [char?], rfl⟩

theorem roundTrips_decimal {d : Decimal} (h : decimalOf? (.string d.text) = some d) :
    RoundTrips (fun d : Decimal => .string d.text) decimalOf? d :=
  ⟨h, rfl⟩

theorem roundTrips_instant {t : DateTime} (h : DateTime.ofIso? t.isoText = some t) :
    RoundTrips (fun t : DateTime => .string t.isoText)
      (fun j => (string? j).bind DateTime.ofIso?) t :=
  ⟨by rw [string?, Option.bind_some, h], rfl⟩

theorem roundTrips_identifier {g : Guid} (h : Guid.ofText? g.text = some g) :
    RoundTrips (fun g : Guid => .string g.text) (fun j => (string? j).bind Guid.ofText?) g :=
  ⟨by rw [string?, Option.bind_some, h], rfl⟩

theorem roundTrips_enum (e : EnumType) (n : Int64) :
    RoundTrips toJson (ofJson? positional) (enum e n) where
  back := by
    have hback := e.roundTrips.back
    change enumOf? (some e.toJson) (some (.int n.toInt)) = _
    simp [enumOf?, required?, int64?, hback, Word64.ofInt?_toInt]
  exact := isExact_object (by simp [isExact_object, e.roundTrips.exact])

mutual

theorem roundTrips : ∀ v : Value, Legible v.leaves → RoundTrips toJson (ofJson? positional) v
  | .null, _ => ⟨rfl, rfl⟩
  | .bool _, _ | .string _, _ => ⟨rfl, rfl⟩
  | .int n, _ => (roundTrips_int64 n).tagged int rfl rfl rfl
  | .float x, h => absurd List.mem_cons_self (h.noFloat x)
  | .decimal d, h =>
    (roundTrips_decimal (h.decimals d List.mem_cons_self)).tagged decimal rfl rfl rfl
  | .char c, _ => (roundTrips_char c).tagged char rfl rfl rfl
  | .dateTime t, h =>
    (roundTrips_instant (h.instants t List.mem_cons_self)).tagged dateTime rfl rfl rfl
  | .timeSpan s, _ => (roundTrips_int64 s.ticks).tagged (fun n => timeSpan ⟨n⟩) rfl rfl rfl
  | .guid g, h =>
    (roundTrips_identifier (h.identifiers g List.mem_cons_self)).tagged guid rfl rfl rfl
  | .enum e n, _ => roundTrips_enum e n
  | .list items, h => by
    obtain ⟨hback, hexact⟩ := itemsOf?_encodeItems items h
    refine ⟨?_, isExact_object fun m hm => ?_⟩
    · rw [toJson, encode, ofJson?, hback, Option.map_some]
    · rw [List.mem_singleton.1 hm]
      exact hexact
  | .object typeName fields, h => by
    obtain ⟨hback, hexact⟩ := pairsOf?_encodeFields fields h
    refine ⟨?_, isExact_object fun m hm => ?_⟩
    · -- both fields stand there once
      change (match ([.string typeName] : List Json),
        [pairsOf? positional (encodeFields .float fields)] with
        | [.string typeName], [some fields] => some (object typeName fields)
        | _, _ => none) = _
      rw [hback]
    · rw [List.mem_singleton.1 hm]
      exact isExact_object (by simpa [isExact] using hexact)

/-- The items of a list survive. -/
theorem itemsOf?_encodeItems : ∀ items : List Value, Legible (itemLeaves items) →
    itemsOf? positional (encodeItems .float items) = some items ∧
      areExact (encodeItems .float items) = true
  | [], _ => ⟨rfl, rfl⟩
  | v :: items, h => by
    have hv : RoundTrips toJson (ofJson? positional) v := roundTrips v h.left
    obtain ⟨hback, hexact⟩ := itemsOf?_encodeItems items h.right
    have hread : ofJson? positional (encode .float v) = some v := hv.back
    have hwritten : (encode .float v).isExact = true := hv.exact
    exact ⟨by rw [encodeItems, itemsOf?, hread, hback]; rfl,
      by rw [encodeItems, areExact, hwritten, hexact]; rfl⟩

/-- The fields of an object survive. -/
theorem pairsOf?_encodeFields : ∀ fields : List (String × Value), Legible (fieldLeaves fields) →
    pairsOf? positional (encodeFields .float fields) = some fields ∧
      areExact (encodeFields .float fields) = true
  | [], _ => ⟨rfl, rfl⟩
  | (name, v) :: fields, h => by
    have hv : RoundTrips toJson (ofJson? positional) v := roundTrips v h.left
    obtain ⟨hback, hexact⟩ := pairsOf?_encodeFields fields h.right
    have hread : ofJson? positional (encode .float v) = some v := hv.back
    have hwritten : (encode .float v).isExact = true := hv.exact
    exact ⟨by rw [encodeFields, pairsOf?, hread, hback]; rfl,
      by rw [encodeFields, areExact, hexact]; simp [isExact, areExact, hwritten]⟩

end

end Value

end QueryClause
