import QueryClause.Sql.Literal

/-!
# Patterns of LIKE

A text is searched for by a pattern in which its wildcards are escaped by a caret.  By default both
sides are brought to upper case.
-/

namespace QueryClause

/-- Where a text is looked for. -/
inductive LikePlace where
  | start
  | end
  | anywhere
  deriving DecidableEq, Repr

namespace Pattern

/-- Whether a character has to be escaped to stand for itself. -/
def isSpecial (c : Char) : Bool := c == '^' || c == '\\' || c == '_' || c == '%'

/-- The text with its special characters escaped. -/
def escapeWildcards (s : List Char) : List Char :=
  s.flatMap fun c => if isSpecial c then ['^', c] else [c]

/-- The pattern for an escaped text at a place. -/
def placed (place : LikePlace) (escaped : List Char) : List Char :=
  match place with
  | .start => escaped ++ ['%']
  | .end => '%' :: escaped
  | .anywhere => '%' :: escaped ++ ['%']

end Pattern

namespace Dialect

/-- The condition that a column contains a text at a place; `exactCase` leaves upper case out. -/
def like (d : Dialect) (exactCase : Bool) (column : String) (place : LikePlace) (s : String) :
    String :=
  let escaped := Pattern.escapeWildcards s.toList
  let escaped := if exactCase then escaped else Text.toUpper escaped
  let column := if exactCase then column else "upper(" ++ column ++ ")"
  column ++ " like " ++ d.quoteString (String.ofList (Pattern.placed place escaped)) ++
    if escaped.contains '^' then " escape '^'" else ""

end Dialect

end QueryClause
