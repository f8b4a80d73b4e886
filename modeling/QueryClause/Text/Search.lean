/-!
# Searching and replacing

A pattern is a list of characters and positions count characters.  `Text.findIndex?` gives the
first occurrence of a pattern; `Text.replaceAll` replaces the occurrences from left to right, and an
empty pattern occurs before every character and at the end.
-/

namespace QueryClause.Text

/-- The position of the first occurrence of `pattern`. -/
def findIndex? (pattern : List Char) : List Char → Option Nat
  | [] => if pattern.isEmpty then some 0 else none
  | c :: rest =>
    if pattern.isPrefixOf (c :: rest) then some 0 else (findIndex? pattern rest).map (· + 1)

/-- Whether `pattern` occurs. -/
def occurs (pattern s : List Char) : Bool := (findIndex? pattern s).isSome

/-- Replacement of a non-empty pattern, after passing over `skip` characters of an occurrence. -/
def replaceFrom (pattern new : List Char) (skip : Nat) : List Char → List Char
  | [] => []
  | c :: rest =>
    match skip with
    | k + 1 => replaceFrom pattern new k rest
    | 0 =>
      if pattern.isPrefixOf (c :: rest) then
        new ++ replaceFrom pattern new (pattern.length - 1) rest
      else c :: replaceFrom pattern new 0 rest

/-- Replace the occurrences of `pattern` that do not overlap, from left to right. -/
def replaceAll (pattern new s : List Char) : List Char :=
  if pattern.isEmpty then new ++ s.flatMap (fun c => c :: new) else replaceFrom pattern new 0 s

example : replaceAll "aa".toList "b".toList "aaaca".toList = "baca".toList := by decide

example : replaceAll [] "-".toList "ab".toList = "-a-b-".toList := by decide

end QueryClause.Text
