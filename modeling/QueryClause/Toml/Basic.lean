/-!
# TOML

`Toml` is a TOML value.  Tables remember how they came about, because that decides what may still be
added to them: a table under a header can be opened once, tables that dotted keys or longer headers
imply can still be filled, and inline tables are closed.
-/

namespace QueryClause

/-- A TOML value.  The content of floats and dates is not kept. -/
inductive Toml where
  | string (s : String)
  | integer (n : Int)
  | float
  | boolean (b : Bool)
  | dateTime
  | array (items : List Toml)
  /-- A table between braces. -/
  | inline (entries : List (String × Toml))
  /-- A table; `implied` if no header has named it, and `dotted` if dotted keys made it. -/
  | table (implied dotted : Bool) (entries : List (String × Toml))
  /-- Tables under repeated headers. -/
  | tables (items : List (List (String × Toml)))
  deriving Repr, Inhabited

namespace Toml

/-- The entries of a table. -/
abbrev Entries := List (String × Toml)

/-- Replace the entry of a key, or add it at the end. -/
def setEntry (key : String) (v : Toml) : Entries → Entries
  | [] => [(key, v)]
  | (k, w) :: rest => if k = key then (k, v) :: rest else (k, w) :: setEntry key v rest

/-- Change the table that a path leads to, where missing tables are implied.  `f` is also told
whether the table is one that dotted keys made.  A path of dotted keys enters implied tables only.
-/
def under? (dotted : Bool) (f : Bool → Entries → Option Entries) :
    List String → Bool → Entries → Option Entries
  | [], made, entries => f made entries
  | key :: rest, _, entries =>
    match entries.lookup key with
    | none =>
      (under? dotted f rest dotted []).map fun sub => setEntry key (.table true dotted sub) entries
    | some (.table implied made sub) =>
      if dotted && !implied then none
      else (under? dotted f rest made sub).map fun sub =>
        setEntry key (.table implied made sub) entries
    | some (.tables items) =>
      match items.getLast? with
      | some sub => (under? dotted f rest false sub).map fun sub =>
        setEntry key (.tables (items.dropLast ++ [sub])) entries
      | none => none
    | some _ => none

/-- Add an entry by a dotted key; every key is set once, and only in tables that dotted keys made if
there are several. -/
def insert? (path : List String) (key : String) (v : Toml) (entries : Entries) : Option Entries :=
  under? true (fun made sub =>
    if made == path.isEmpty || (sub.lookup key).isSome then none else some (sub ++ [(key, v)]))
    path false entries

/-- Open the table of a header. -/
def open? (path : List String) (key : String) (entries : Entries) : Option Entries :=
  under? false (fun _ sub =>
    match sub.lookup key with
    | none => some (sub ++ [(key, .table false false [])])
    | some (.table true false inner) => some (setEntry key (.table false false inner) sub)
    | some _ => none) path false entries

/-- Add a table under a repeated header. -/
def append? (path : List String) (key : String) (entries : Entries) : Option Entries :=
  under? false (fun _ sub =>
    match sub.lookup key with
    | none => some (sub ++ [(key, .tables [[]])])
    | some (.tables items) => some (setEntry key (.tables (items ++ [[]])) sub)
    | some _ => none) path false entries

/-- Whether the value has nothing in it. -/
def isEmpty : Toml → Bool
  | array items => items.isEmpty
  | inline entries => entries.isEmpty
  | table _ _ entries => entries.isEmpty
  | _ => false

end Toml

end QueryClause
