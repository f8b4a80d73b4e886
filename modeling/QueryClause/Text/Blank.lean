import QueryClause.Text.CharSet

/-!
# Blank characters

The 25 characters with the Unicode property `White_Space`, and the removal of a blank margin from
either end of a text.
-/

namespace QueryClause.Text

/-- The characters with the property `White_Space`. -/
def blanks : CharSet := ⟨[
  0x9, 0xE, 0x20, 0x21, 0x85, 0x86, 0xA0, 0xA1, 0x1680, 0x1681, 0x2000, 0x200B, 0x2028, 0x202A,
  0x202F, 0x2030, 0x205F, 0x2060, 0x3000, 0x3001]⟩

/-- Whether the character is blank. -/
def isBlank (c : Char) : Bool := blanks.contains c

/-- The text without its leading blanks. -/
def trimStart (s : List Char) : List Char := s.dropWhile isBlank

/-- The text without its trailing blanks. -/
def trimEnd (s : List Char) : List Char := (trimStart s.reverse).reverse

/-- The text without blanks at either end. -/
def trim (s : List Char) : List Char := trimEnd (trimStart s)

example : trim "\u00a0 a b\t".toList = "a b".toList := by decide

end QueryClause.Text
