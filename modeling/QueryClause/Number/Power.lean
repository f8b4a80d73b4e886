/-!
# Powers of two and ten

`twoTo k` and `tenTo k` are the powers by which binary and decimal notation shift: a factor
`twoTo k` appends `k` binary zeros, a factor `tenTo k` as many decimal ones.
-/

namespace QueryClause

/-- The `k`-th power of two. -/
def twoTo (k : Nat) : Nat := Nat.pow 2 k

/-- The `k`-th power of ten. -/
def tenTo (k : Nat) : Nat := Nat.pow 10 k

theorem tenTo_add (j k : Nat) : tenTo (j + k) = tenTo j * tenTo k := Nat.pow_add 10 j k

end QueryClause
