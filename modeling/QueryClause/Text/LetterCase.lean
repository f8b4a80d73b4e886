import QueryClause.Text.Cased
import QueryClause.Text.CaseTable

/-!
# Upper and lower case

`Text.toUpper` and `Text.toLower` are the full Unicode case mappings without tailoring.  Upper case
works character by character; lower case looks around itself at one place only, where a capital
sigma that ends a word becomes a final sigma.
-/

namespace QueryClause.Text

/-- The code point that the first run covering `n` moves it to. -/
def shifted (n : Nat) : List CaseRun → Option Nat
  | [] => none
  | r :: rest =>
    if r.first ≤ n && n ≤ r.last && (n - r.first) % r.step == 0 then
      some (Int.toNat (n + r.shift))
    else shifted n rest

/-- The code points that a character becomes, given the runs and the expansions of a mapping. -/
def mapCode (runs : List CaseRun) (expansions : List (Nat × List Nat)) (n : Nat) : List Nat :=
  match shifted n runs with
  | some m => [m]
  | none => (expansions.lookup n).getD [n]

/-- The character in upper case. -/
def upperChar (c : Char) : List Char :=
  (mapCode upperRuns upperExpansions c.toNat).map Char.ofNat

/-- The character in lower case, whatever surrounds it. -/
def lowerChar (c : Char) : List Char :=
  (mapCode lowerRuns lowerExpansions c.toNat).map Char.ofNat

/-- The text in upper case. -/
def toUpper (s : List Char) : List Char := s.flatMap upperChar

/-- Whether the first character that is not passed over has a case. -/
def startsCased : List Char → Bool
  | [] => false
  | c :: rest => if isCaseIgnorable c then startsCased rest else isCased c

/-- Lower case of a text that follows `before`, which is given in reverse. -/
def lowerAfter (before : List Char) : List Char → List Char
  | [] => []
  | c :: rest =>
    let here :=
      if c = 'Σ' then
        if startsCased before && !startsCased rest then ['ς'] else ['σ']
      else lowerChar c
    here ++ lowerAfter (c :: before) rest

/-- The text in lower case. -/
def toLower (s : List Char) : List Char := lowerAfter [] s

example : toUpper "straße".toList = "STRASSE".toList := by rfl

example : toLower "ΟΔΟΣ Σ".toList = "οδος σ".toList := by decide

end QueryClause.Text
