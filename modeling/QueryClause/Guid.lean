import QueryClause.Number.Power
import QueryClause.Text.Hex

/-!
# Globally unique identifiers

A `Guid` has 128 bits.  `Guid.text` writes it as five groups of hexadecimal digits, `Guid.ofText?`
reads that notation, also without hyphens, in braces or as a URN, and `Guid.compact` writes the
bytes in storage order, where the first three groups stand with their low byte first.
-/

namespace QueryClause

/-- A number of 128 bits that names something. -/
structure Guid where
  bits : BitVec 128
  deriving DecidableEq, Repr

namespace Guid

/-- The identifier whose bits are all zero. -/
def nil : Guid := ⟨0⟩

instance : Inhabited Guid := ⟨nil⟩

/-- The order of the bits read as a number. -/
def compare (a b : Guid) : Ordering := Ord.compare a.bits.toNat b.bits.toNat

/-- The hexadecimal digits, the highest first. -/
def hex (g : Guid) : List Char :=
  (List.range 32).map fun i => Nat.digitChar (g.bits.toNat / twoTo (4 * (31 - i)) % 16)

/-- Groups of 8, 4, 4, 4 and 12 digits with hyphens between them. -/
def text (g : Guid) : String :=
  let h := g.hex
  let group (start size : Nat) : List Char := (h.drop start).take size
  String.ofList <|
    group 0 8 ++ '-' :: group 8 4 ++ '-' :: group 12 4 ++ '-' :: group 16 4 ++ '-' :: group 20 12

/-- The places of the digits in storage order: the bytes of the first three groups are reversed. -/
def storageOrder : List Nat :=
  [6, 7, 4, 5, 2, 3, 0, 1, 10, 11, 8, 9, 14, 15, 12, 13,
   16, 17, 18, 19, 20, 21, 22, 23, 24, 25, 26, 27, 28, 29, 30, 31]

/-- The digits in storage order and in upper case. -/
def compact (g : Guid) : String :=
  String.ofList (storageOrder.map fun i => (g.hex.getD i '0').toUpper)

/-- The identifier with the given 32 digits. -/
def ofDigits? (s : List Char) : Option Guid :=
  if s.length = 32 then
    (s.mapM Text.hexDigit?).map fun ds => ⟨BitVec.ofNat 128 (ds.foldl (fun n d => 16 * n + d) 0)⟩
  else none

/-- Read five groups with hyphens between them. -/
def ofGroups? (s : List Char) : Option Guid :=
  let mark (i : Nat) : Bool := s[i]? == some '-'
  if s.length = 36 && mark 8 && mark 13 && mark 18 && mark 23 then
    ofDigits? (s.take 8 ++ (s.drop 9).take 4 ++ (s.drop 14).take 4 ++
      (s.drop 19).take 4 ++ s.drop 24)
  else none

/-- The identifier that a text denotes. -/
def ofText? (s : String) : Option Guid :=
  match s.toList with
  | '\x7b' :: body =>
    if body.getLast? = some '\x7d' then ofGroups? body.dropLast else none
  | 'u' :: 'r' :: 'n' :: ':' :: 'u' :: 'u' :: 'i' :: 'd' :: ':' :: body => ofGroups? body
  | body => if body.length = 32 then ofDigits? body else ofGroups? body

example :
    (ofText? "00112233-4455-6677-8899-aabbccddeeff").map compact =
      some "33221100554477668899AABBCCDDEEFF" := by decide

end Guid

end QueryClause
