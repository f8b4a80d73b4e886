/-!
# Dictionaries

`Dict α` is a finite map from text keys to values that remembers the order in which its keys first
arrived.  A client sees it through `Dict.get?` and `Dict.keys`: `Dict.get?_alter` says what a change
at one key does to every look-up.  A new key goes to the end, and a present one stays where it is.
-/

namespace QueryClause

/-- A map from text to values; its entries are in order of first arrival. -/
structure Dict (α : Type) where
  /-- The entries, each key once. -/
  entries : List (String × α)
  keys_nodup : (entries.map Prod.fst).Nodup

namespace Dict

variable {α : Type}

/-- The value under a key. -/
def find (key : String) : List (String × α) → Option α
  | [] => none
  | (k, a) :: rest => if k = key then some a else find key rest

/-- Change the value under a key, or add the key at the end. -/
def alterEntries (key : String) (f : Option α → α) : List (String × α) → List (String × α)
  | [] => [(key, f none)]
  | (k, a) :: rest => if k = key then (k, f (some a)) :: rest else (k, a) :: alterEntries key f rest

theorem keys_alterEntries (key : String) (f : Option α → α) (l : List (String × α)) :
    (alterEntries key f l).map Prod.fst =
      if key ∈ l.map Prod.fst then l.map Prod.fst else l.map Prod.fst ++ [key] := by
  induction l with
  | nil => simp [alterEntries]
  | cons e rest ih =>
    obtain ⟨k, a⟩ := e
    by_cases h : k = key
    · simp [alterEntries, h]
    · by_cases hm : key ∈ rest.map Prod.fst
      · simp_all [alterEntries]
      · have hk : ¬key = k := fun e => h e.symm
        simp_all [alterEntries]

theorem find_alterEntries (key other : String) (f : Option α → α) (l : List (String × α)) :
    find other (alterEntries key f l) =
      if other = key then some (f (find key l)) else find other l := by
  induction l with
  | nil =>
    by_cases h : other = key
    · simp [alterEntries, find, h]
    · have hk : ¬key = other := fun e => h e.symm
      simp [alterEntries, find, h, hk]
  | cons e rest ih =>
    obtain ⟨k, a⟩ := e
    by_cases h : k = key
    · by_cases ho : other = key
      · simp [alterEntries, find, h, ho]
      · have hk : ¬key = other := fun e => ho e.symm
        simp [alterEntries, find, h, ho, hk]
    · by_cases ho : other = key
      · simp_all [alterEntries, find]
      · simp [alterEntries, find, h, ih, ho]

/-- The dictionary without entries. -/
def empty : Dict α := ⟨[], by simp⟩

instance : EmptyCollection (Dict α) := ⟨empty⟩

instance : Inhabited (Dict α) := ⟨empty⟩

/-- The value stored under `key`. -/
def get? (d : Dict α) (key : String) : Option α := find key d.entries

/-- Store what `f` makes of the present value under `key`. -/
def alter (d : Dict α) (key : String) (f : Option α → α) : Dict α where
  entries := alterEntries key f d.entries
  keys_nodup := by
    rw [keys_alterEntries]
    split
    · exact d.keys_nodup
    · rename_i h
      rw [List.nodup_append]
      refine ⟨d.keys_nodup, by simp, ?_⟩
      intro a ha b hb
      simp only [List.mem_singleton] at hb
      subst hb
      exact fun e => h (e ▸ ha)

/-- Store `a` under `key`. -/
def insert (d : Dict α) (key : String) (a : α) : Dict α := d.alter key fun _ => a

/-- The keys in order of first arrival. -/
def keys (d : Dict α) : List String := d.entries.map Prod.fst

/-- The number of entries. -/
def size (d : Dict α) : Nat := d.entries.length

/-- Whether there are no entries. -/
def isEmpty (d : Dict α) : Bool := d.entries.isEmpty

/-- Store the pairs one after the other; the last value of a key counts. -/
def ofList (l : List (String × α)) : Dict α := l.foldl (fun d e => d.insert e.1 e.2) empty

/-- The same keys with the same values, in whatever order. -/
def sameEntries [DecidableEq α] (d e : Dict α) : Bool :=
  d.size == e.size && d.entries.all fun p => e.get? p.1 == some p.2

theorem get?_alter (d : Dict α) (key other : String) (f : Option α → α) :
    (d.alter key f).get? other = if other = key then some (f (d.get? key)) else d.get? other :=
  find_alterEntries key other f d.entries

end Dict

end QueryClause
