/-!
# Sets of characters

`CharSet` is a set of characters given by the boundaries of its runs of code points, which is how
the tables of the Unicode properties in this folder are written.
-/

namespace QueryClause

/-- A set of code points as an ascending list of boundaries: the members run from the first boundary
up to the second, from the third up to the fourth, and so on. -/
structure CharSet where
  /-- First code point of a run, then the first one after it, alternating. -/
  bounds : List Nat

namespace CharSet

/-- Membership of a code point in the runs that a list of boundaries delimits. -/
def hasCode (n : Nat) : List Nat → Bool
  | lo :: hi :: rest => lo ≤ n && (n < hi || hasCode n rest)
  | _ => false

/-- Whether the character is a member. -/
def contains (s : CharSet) (c : Char) : Bool := hasCode c.toNat s.bounds

end CharSet

end QueryClause
