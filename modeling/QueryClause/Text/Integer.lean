import QueryClause.Number.Word64

/-!
# Integers as text

Reading of a signed 64-bit integer in decimal notation.  A digit is checked before the range is, so
of two faults the one further left is reported.
-/

namespace QueryClause

/-- Why a text is no 64-bit integer. -/
inductive IntegerError where
  | empty
  | invalidDigit
  | tooLarge
  | tooSmall
  deriving DecidableEq, Repr

namespace IntegerError

/-- The wording of the fault. -/
def message : IntegerError → String
  | empty => "cannot parse integer from empty string"
  | invalidDigit => "invalid digit found in string"
  | tooLarge => "number too large to fit in target type"
  | tooSmall => "number too small to fit in target type"

end IntegerError

namespace Text

/-- The value of a decimal digit. -/
def digit? (c : Char) : Option Nat := if c.isDigit then some (c.toNat - '0'.toNat) else none

/-- Continue a number whose digits so far are worth `acc`; `sign` is `1` or `-1`. -/
def integerDigits (sign acc : Int) : List Char → Except IntegerError Int
  | [] => .ok acc
  | c :: rest =>
    match digit? c with
    | none => .error .invalidDigit
    | some d =>
      let next := 10 * acc + sign * d
      if Word64.fits next then integerDigits sign next rest
      else .error (if sign < 0 then .tooSmall else .tooLarge)

/-- The 64-bit integer that a text denotes. -/
def integer (s : List Char) : Except IntegerError Int :=
  match s with
  | [] => .error .empty
  | ['+'] | ['-'] => .error .invalidDigit
  | '+' :: rest => integerDigits 1 0 rest
  | '-' :: rest => integerDigits (-1) 0 rest
  | _ => integerDigits 1 0 s

/-- The decimal digits of a number. -/
def digits (n : Nat) : List Char := Nat.toDigits 10 n

/-- The decimal notation of an integer. -/
def ofInt (n : Int) : String :=
  if n < 0 then String.ofList ('-' :: digits n.natAbs) else String.ofList (digits n.natAbs)

/-- The decimal notation of a number. -/
def ofNat (n : Nat) : String := String.ofList (digits n)

/-- The digits of a number with zeros in front up to the given width. -/
def padded (width n : Nat) : String :=
  String.ofList (List.replicate (width - (digits n).length) '0' ++ digits n)

/-- The texts one after the other with `sep` between them. -/
def join (sep : String) : List String → String
  | [] => ""
  | [s] => s
  | s :: t :: rest => s ++ sep ++ join sep (t :: rest)

example : padded 4 44 = "0044" := by decide

end Text

end QueryClause
