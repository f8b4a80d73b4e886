import QueryClause.Number.FloatText

/-!
# JSON

`Json` is a JSON value whose numbers are whole or floating and whose objects keep the order and the
repetitions of their members.  `Json.text` writes a value on one line without blanks;
`Json.settled` gives every name of an object its last value and puts the names in order.
-/

namespace QueryClause

/-- A JSON value. -/
inductive Json where
  | null
  | bool (b : Bool)
  | int (n : Int)
  | float (x : Float)
  | string (s : String)
  | array (items : List Json)
  | object (members : List (String × Json))
  deriving Repr

namespace Json

instance : Inhabited Json := ⟨null⟩

/-! ### Writing -/

/-- A character of a string literal. -/
def escaped (c : Char) : List Char :=
  if c = '"' then ['\\', '"']
  else if c = '\\' then ['\\', '\\']
  else if c = '\n' then ['\\', 'n']
  else if c = '\r' then ['\\', 'r']
  else if c = '\t' then ['\\', 't']
  else if c = '\x08' then ['\\', 'b']
  else if c = '\x0c' then ['\\', 'f']
  else if c.toNat < 32 then
    ['\\', 'u', '0', '0', Nat.digitChar (c.toNat / 16), Nat.digitChar (c.toNat % 16)]
  else [c]

/-- A string literal. -/
def quoted (s : String) : String := String.ofList ('"' :: s.toList.flatMap escaped ++ ['"'])

mutual

/-- A value on one line. -/
def text : Json → String
  | null => "null"
  | bool b => if b then "true" else "false"
  | int n => Text.ofInt n
  | float x => FloatText.json x
  | string s => quoted s
  | array items => "[" ++ Text.join "," (texts items) ++ "]"
  | object members => "\x7b" ++ Text.join "," (memberTexts members) ++ "\x7d"

/-- The texts of the items of an array. -/
def texts : List Json → List String
  | [] => []
  | v :: rest => text v :: texts rest

/-- The texts of the members of an object. -/
def memberTexts : List (String × Json) → List String
  | [] => []
  | (name, v) :: rest => (quoted name ++ ":" ++ text v) :: memberTexts rest

end

/-! ### Objects -/

/-- The values of the members with a name. -/
def valuesOf (name : String) (members : List (String × Json)) : List Json :=
  (members.filter fun m => m.1 == name).map Prod.snd

/-- The value of a member of an object, the last one if there are several. -/
def member? (name : String) : Json → Option Json
  | object members => (valuesOf name members).getLast?
  | _ => none

/-- Put a member into a list in the order of names; a member of that name is replaced. -/
def putMember (name : String) (v : Json) : List (String × Json) → List (String × Json)
  | [] => [(name, v)]
  | (n, w) :: rest =>
    if name = n then (name, v) :: rest
    else if name < n then (name, v) :: (n, w) :: rest
    else (n, w) :: putMember name v rest

mutual

/-- The value with the names of each object in order, each with its last value. -/
def settled : Json → Json
  | array items => array (settledItems items)
  | object members => object ((settledMembers members).foldl (fun l m => putMember m.1 m.2 l) [])
  | v => v

/-- The items of an array, settled. -/
def settledItems : List Json → List Json
  | [] => []
  | v :: rest => settled v :: settledItems rest

/-- The members of an object with their values settled. -/
def settledMembers : List (String × Json) → List (String × Json)
  | [] => []
  | (name, v) :: rest => (name, settled v) :: settledMembers rest

end

mutual

/-- Whether all numbers are finite. -/
def isFinite : Json → Bool
  | float x => Binary64.isFinite x
  | array items => areFinite items
  | object members => membersFinite members
  | _ => true

/-- Whether all numbers in the items are finite. -/
def areFinite : List Json → Bool
  | [] => true
  | v :: rest => isFinite v && areFinite rest

/-- Whether all numbers in the members are finite. -/
def membersFinite : List (String × Json) → Bool
  | [] => true
  | (_, v) :: rest => isFinite v && membersFinite rest

end

end Json

end QueryClause
