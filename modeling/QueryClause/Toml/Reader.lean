import QueryClause.Toml.Scalar

/-!
# Reading TOML

`Toml.ofText?` reads a document: statements on lines of their own, each of which sets a key, opens a
table or adds a table to an array of tables.  The result is the table of the whole document.
-/

namespace QueryClause

namespace TomlReader

open TomlScalar

/-- A text without the blanks at its front. -/
def skipGap (s : List Char) : List Char := s.dropWhile isGap

/-- A text without a comment at its front, if the comment is well-formed. -/
def skipComment? (s : List Char) : Option (List Char) :=
  match s with
  | '#' :: t =>
    let rest := t.dropWhile isPlain
    if rest.isEmpty || (afterLineBreak? rest).isSome then some rest else none
  | s => some s

/-- A text without blanks, comments and line breaks at its front.  `fuel` bounds the number of
lines. -/
def skipLines? : Nat → List Char → Option (List Char)
  | 0, _ => none
  | fuel + 1, s => do
    let rest ← skipComment? (skipGap s)
    match afterLineBreak? rest with
    | some t => skipLines? fuel t
    | none => some rest

/-- A key without dots, and the rest. -/
def simpleKey? (s : List Char) : Option (String × List Char) :=
  match s with
  | '"' :: t => lineString? '"' t
  | '\'' :: t => lineString? '\'' t
  | s =>
    let (k, rest) := s.span fun c => c.isAlphanum || c == '_' || c == '-'
    if k.isEmpty then none else some (String.ofList k, rest)

/-- A key with its parts between dots, the last part apart, and the rest. -/
def key? : Nat → List Char → Option ((List String × String) × List Char)
  | 0, _ => none
  | fuel + 1, s => do
    let (k, rest) ← simpleKey? (skipGap s)
    match skipGap rest with
    | '.' :: t =>
      let ((path, last), rest) ← key? fuel t
      return ((k :: path, last), rest)
    | rest => return (([], k), rest)

mutual

/-- A value, and the rest. -/
def value? : Nat → List Char → Option (Toml × List Char)
  | 0, _ => none
  | fuel + 1, s =>
    match s with
    | '"' :: '"' :: '"' :: t => (linesString? '"' t).map fun (v, rest) => (.string v, rest)
    | '\'' :: '\'' :: '\'' :: t => (linesString? '\'' t).map fun (v, rest) => (.string v, rest)
    | '"' :: t => (lineString? '"' t).map fun (v, rest) => (.string v, rest)
    | '\'' :: t => (lineString? '\'' t).map fun (v, rest) => (.string v, rest)
    | '[' :: t => (items? fuel t).map fun (vs, rest) => (.array vs, rest)
    | '\x7b' :: t =>
      match skipGap t with
      | '\x7d' :: rest => some (.inline [], rest)
      | t => (pairs? fuel [] t).map fun (es, rest) => (.inline es, rest)
    | s =>
      let (w, rest) := splitWord s
      (word? w).map fun v => (v, rest)

/-- The items of an array up to its end, and the rest. -/
def items? : Nat → List Char → Option (List Toml × List Char)
  | 0, _ => none
  | fuel + 1, s => do
    match ← skipLines? (s.length + 1) s with
    | ']' :: rest => return ([], rest)
    | t =>
      let (v, t) ← value? fuel t
      match ← skipLines? (t.length + 1) t with
      | ',' :: t =>
        let (vs, rest) ← items? fuel t
        return (v :: vs, rest)
      | ']' :: rest => return ([v], rest)
      | _ => none

/-- The entries of an inline table up to its end, added to those before, and the rest. -/
def pairs? : Nat → Toml.Entries → List Char → Option (Toml.Entries × List Char)
  | 0, _, _ => none
  | fuel + 1, entries, s => do
    let ((path, key), t) ← key? (s.length + 1) s
    let t ← mark? '=' t
    let (v, t) ← value? fuel (skipGap t)
    let entries ← Toml.insert? path key v entries
    match skipGap t with
    | ',' :: t => pairs? fuel entries t
    | '\x7d' :: rest => return (entries, rest)
    | _ => none

end

/-- A document under construction. -/
structure Draft where
  root : Toml.Entries
  /-- The path of the header that is open; empty before the first header. -/
  header : List String

/-- Set a key in the table that is open. -/
def Draft.set? (d : Draft) (path : List String) (key : String) (v : Toml) : Option Draft :=
  (Toml.under? false (fun _ sub => Toml.insert? path key v sub) d.header false d.root).map
    fun root => { d with root }

/-- Take one statement, and give back the rest of its line and what follows. -/
def statement? (d : Draft) (s : List Char) : Option (Draft × List Char) :=
  match s with
  | '[' :: '[' :: t => do
    let ((path, key), t) ← key? (t.length + 1) t
    let rest ← mark? ']' (← mark? ']' t)
    return (⟨← Toml.append? path key d.root, path ++ [key]⟩, rest)
  | '[' :: t => do
    let ((path, key), t) ← key? (t.length + 1) t
    let rest ← mark? ']' t
    return (⟨← Toml.open? path key d.root, path ++ [key]⟩, rest)
  | s => do
    let ((path, key), t) ← key? (s.length + 1) s
    let t ← mark? '=' t
    let (v, rest) ← value? (s.length + 1) (skipGap t)
    return (← d.set? path key v, rest)

/-- Take all statements.  `fuel` bounds their number. -/
def document? : Nat → Draft → List Char → Option Draft
  | 0, _, _ => none
  | fuel + 1, d, s => do
    match ← skipLines? (s.length + 1) s with
    | [] => return d
    | t =>
      let (d, t) ← statement? d t
      match ← skipComment? (skipGap t) with
      | [] => return d
      | t => document? fuel d (← afterLineBreak? t)

end TomlReader

open TomlReader in
/-- The entries of the document that a text denotes. -/
def Toml.ofText? (s : String) : Option Toml.Entries :=
  let cs := match s.toList with
    -- a byte order mark
    | '\ufeff' :: t => t
    | t => t
  (document? (cs.length + 1) ⟨[], []⟩ cs).map Draft.root

end QueryClause
