import QueryClause.Eval.Numeric

/-!
# Equality and order of host values

`Value.equals` is the equality of the host: numbers are equal across their representations, and
lists item by item.  `Value.compare?` orders values of one kind.
-/

namespace QueryClause.Value

/-- Equality of values other than null, texts and lists. -/
def equalsSimple (a b : Value) : Bool :=
  match Numeric.ofValue? a, Numeric.ofValue? b with
  | some x, some y => x.compare? y == some .eq
  | _, _ => a.same b

mutual

/-- The equality of the host. -/
def equals : Value → Value → Bool
  | null, null => true
  | null, _ => false
  | _, null => false
  | string s, string t => s == t
  | list as, list bs => equalItems as bs
  | a, b => equalsSimple a b

/-- Equality of two lists, item by item. -/
def equalItems : List Value → List Value → Bool
  | [], [] => true
  | a :: as, b :: bs => equals a b && equalItems as bs
  | _, _ => false

end

/-- The order of two values of comparable kinds. -/
def compare? : Value → Value → Option Ordering
  | string s, string t => some (Ord.compare s t)
  | dateTime s, dateTime t => some (s.compare t)
  | timeSpan s, timeSpan t => some (Ord.compare s.ticks.toInt t.ticks.toInt)
  | guid g, guid h => some (g.compare h)
  | bool a, bool b => some (Ord.compare a b)
  | a, b => do (← Numeric.ofValue? a).compare? (← Numeric.ofValue? b)

/-- The position of the first item equal to a value. -/
def indexOf? (probe : Value) (items : List Value) : Option Nat := items.findIdx? (equals · probe)

/-- Whether an item is equal to a value. -/
def contained (probe : Value) (items : List Value) : Bool := items.any (equals · probe)

end QueryClause.Value
