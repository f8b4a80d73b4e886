import QueryClause.Json.Basic

/-!
# Taking JSON values apart

Readers of the basic types, and `Json.fields?`, which reads a record.  A record is written as an
object with a member for each field, where unknown members do no harm and a repeated one does, or as
an array with the fields in their order.
-/

namespace QueryClause.Json

/-- A truth value. -/
def bool? : Json → Option Bool
  | bool b => some b
  | _ => none

/-- A whole number of at most 64 bits. -/
def int64? : Json → Option Int64
  | int n => Word64.ofInt? n
  | _ => none

/-- A whole number that is not negative. -/
def nat? : Json → Option Nat
  | int n => if 0 ≤ n then some n.toNat else none
  | _ => none

/-- A finite number. -/
def float? : Json → Option Float
  | int n => some (Binary64.ofInt n)
  | float x => if Binary64.isFinite x then some x else none
  | _ => none

/-- A string. -/
def string? : Json → Option String
  | string s => some s
  | _ => none

/-- A string of one character. -/
def char? : Json → Option Char
  | string s => match s.toList with
    | [c] => some c
    | _ => none
  | _ => none

/-- An array of items that `read` understands. -/
def list? {α : Type} (read : Json → Option α) : Json → Option (List α)
  | array items => items.mapM read
  | _ => none

/-- An object with any names, whose values `read` understands. -/
def map? {α : Type} (read : Json → Option α) : Json → Option (List (String × α))
  | object members => members.mapM fun m => (read m.2).map fun a => (m.1, a)
  | _ => none

/-- The fields of a record in the order of `names`; a missing one is `none`. -/
def fields? (names : List String) : Json → Option (List (Option Json))
  | object members => names.mapM fun name =>
    match valuesOf name members with
    | [] => some none
    | [v] => some (some v)
    | _ => none
  | array items => if items.length = names.length then some (items.map some) else none
  | _ => none

/-- A field that has to be there. -/
def required? {α : Type} (read : Json → Option α) (field : Option Json) : Option α :=
  field.bind read

/-- A field that may be missing or null. -/
def optional? {α : Type} (read : Json → Option α) : Option Json → Option (Option α)
  | none | some null => some none
  | some v => (read v).map some

/-- A case without content: its name, or an object that gives null under the name. -/
def caseName? : Json → Option String
  | string s => some s
  | object [(name, null)] => some name
  | _ => none

end QueryClause.Json
