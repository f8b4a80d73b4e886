import QueryClause.Expr.Basic
import QueryClause.Host.Json

/-!
# Expressions as JSON

An expression is written as an object with the kind of the node as its only member and the fields of
the node below it.  `Expr.toJson` writes all fields; `Expr.ofJson?` reads that form, and takes a
missing optional field for null.

The reader first reads every field by its name into a `Slot`, subexpressions included, and then puts
the node together from the slots.
-/

namespace QueryClause

open Json

namespace Param

/-- A parameter as a record. -/
def toJson (p : Param) : Json := .object [("name", .string p.name), ("ty", p.type.toJson)]

/-- Read a parameter. -/
def ofJson? (j : Json) : Option Param := do
  let [name, type] ← fields? ["name", "ty"] j | none
  return ⟨← required? string? name, ← required? HostType.ofJson? type⟩

end Param

namespace Expr

/-! ### Writing -/

/-- An optional text. -/
def optionJson : Option String → Json
  | some s => .string s
  | none => .null

/-- A node of a kind with its fields. -/
def node (kind : String) (fields : List (String × Json)) : Json := .object [(kind, .object fields)]

mutual

/-- An expression as JSON, with floats as `float` writes them. -/
def encode (float : Float → Json) : Expr → Json
  | lambda params body =>
    node "Lambda" [("parameters", .array (params.map Param.toJson)), ("body", encode float body)]
  | member target name declaring type =>
    node "MemberAccess" [("target", encode float target), ("member", .string name),
      ("declaring_type", optionJson declaring), ("member_type", type.toJson)]
  | staticMember owner name type =>
    node "MemberAccess" [("target", .null), ("member", .string name),
      ("declaring_type", optionJson owner), ("member_type", type.toJson)]
  | constant v type => node "Constant" [("value", v.encode float), ("ty", type.toJson)]
  | binary op left right =>
    node "Binary" [("op", .string op.name),
      ("left", encode float left), ("right", encode float right)]
  | unary op operand type via =>
    node "Unary" [("op", .string op.name), ("operand", encode float operand), ("ty", type.toJson),
      ("method", optionJson via)]
  | parameter name type => node "Parameter" [("name", .string name), ("ty", type.toJson)]
  | call target method args owner type =>
    node "MethodCall" [("target", encode float target), ("method", .string method),
      ("arguments", .array (encodeItems float args)), ("owner_type", owner.toJson),
      ("ty", type.toJson)]
  | staticCall owner method args type =>
    node "MethodCall" [("target", .null), ("method", .string method),
      ("arguments", .array (encodeItems float args)), ("owner_type", owner.toJson),
      ("ty", type.toJson)]
  | new type args members =>
    node "New" [("ty", type.toJson), ("arguments", .array (encodeItems float args)),
      ("members", .array (members.map .string))]
  | newArray itemType items =>
    node "NewArray" [("element_type", itemType.toJson),
      ("elements", .array (encodeItems float items))]
  | memberInit type bindings =>
    node "MemberInit" [("ty", type.toJson), ("bindings", .array (encodeBindings float bindings))]

/-- Some expressions as JSON. -/
def encodeItems (float : Float → Json) : List Expr → List Json
  | [] => []
  | e :: rest => encode float e :: encodeItems float rest

/-- The bindings of an object as pairs. -/
def encodeBindings (float : Float → Json) : List (String × Expr) → List Json
  | [] => []
  | (name, e) :: rest => .array [.string name, encode float e] :: encodeBindings float rest

end

/-- An expression as JSON. -/
def toJson (e : Expr) : Json := e.encode .float

/-! ### Reading -/

/-- How a field is read, which its name decides. -/
inductive FieldKind where
  | plain
  | child
  | children
  | bindings

/-- The kind of the field with a name. -/
def fieldKind : String → FieldKind
  | "body" | "left" | "right" | "operand" | "target" => .child
  | "arguments" | "elements" => .children
  | "bindings" => .bindings
  | _ => .plain

/-- A field that has been read; `none` stands for content that is no expression. -/
inductive Slot where
  | plain (j : Json)
  | child (j : Json) (e : Option Expr)
  | children (es : Option (List Expr))
  | bindings (bs : Option (List (String × Expr)))

/-- The fields of a kind of node, in order. -/
def fieldNames : String → Option (List String)
  | "Lambda" => some ["parameters", "body"]
  | "MemberAccess" => some ["target", "member", "declaring_type", "member_type"]
  | "Constant" => some ["value", "ty"]
  | "Binary" => some ["op", "left", "right"]
  | "Unary" => some ["op", "operand", "ty", "method"]
  | "Parameter" => some ["name", "ty"]
  | "MethodCall" => some ["target", "method", "arguments", "owner_type", "ty"]
  | "New" => some ["ty", "arguments", "members"]
  | "NewArray" => some ["element_type", "elements"]
  | "MemberInit" => some ["ty", "bindings"]
  | _ => none

/-- The fields that have been read, by name. -/
abbrev Slots := List (String × Slot)

namespace Slots

/-- The field with a name; there may be none, but not several. -/
def only? (slots : Slots) (name : String) : Option (Option Slot) :=
  match slots.filter fun s => s.1 == name with
  | [] => some none
  | [(_, s)] => some (some s)
  | _ => none

/-- A field without subexpressions. -/
def plain? {α : Type} (slots : Slots) (name : String) (read : Json → Option α) : Option α :=
  match slots.only? name with
  | some (some (.plain j)) => read j
  | _ => none

/-- A field without subexpressions that may be missing or null. -/
def option? {α : Type} (slots : Slots) (name : String) (read : Json → Option α) :
    Option (Option α) :=
  match slots.only? name with
  | some none => optional? read none
  | some (some (.plain j)) => optional? read (some j)
  | _ => none

/-- A subexpression. -/
def child? (slots : Slots) (name : String) : Option Expr :=
  match slots.only? name with
  | some (some (.child _ e)) => e
  | _ => none

/-- A subexpression that may be missing or null. -/
def optionChild? (slots : Slots) (name : String) : Option (Option Expr) :=
  match slots.only? name with
  | some none | some (some (.child .null _)) => some none
  | some (some (.child _ (some e))) => some (some e)
  | _ => none

/-- A list of subexpressions. -/
def children? (slots : Slots) (name : String) : Option (List Expr) :=
  match slots.only? name with
  | some (some (.children es)) => es
  | _ => none

/-- A list of bindings. -/
def bindings? (slots : Slots) (name : String) : Option (List (String × Expr)) :=
  match slots.only? name with
  | some (some (.bindings bs)) => bs
  | _ => none

end Slots

/-- The operator with the name that a JSON value is. -/
def operator? {α : Type} (ofName? : String → Option α) (j : Json) : Option α :=
  (caseName? j).bind ofName?

/-- A node of a kind from its fields. -/
def assemble? (positional : Bool) (kind : String) (slots : Slots) : Option Expr :=
  match kind with
  | "Lambda" => do
    return lambda (← slots.plain? "parameters" (list? Param.ofJson?)) (← slots.child? "body")
  | "MemberAccess" => do
    let target ← slots.optionChild? "target"
    let name ← slots.plain? "member" string?
    let declaring ← slots.option? "declaring_type" string?
    let type ← slots.plain? "member_type" HostType.ofJson?
    return match target with
      | some e => member e name declaring type
      | none => staticMember declaring name type
  | "Constant" => do
    return constant (← slots.plain? "value" (Value.ofJson? positional))
      (← slots.plain? "ty" HostType.ofJson?)
  | "Binary" => do
    return binary (← slots.plain? "op" (operator? BinaryOp.ofName?)) (← slots.child? "left")
      (← slots.child? "right")
  | "Unary" => do
    return unary (← slots.plain? "op" (operator? UnaryOp.ofName?)) (← slots.child? "operand")
      (← slots.plain? "ty" HostType.ofJson?) (← slots.option? "method" string?)
  | "Parameter" => do
    return parameter (← slots.plain? "name" string?) (← slots.plain? "ty" HostType.ofJson?)
  | "MethodCall" => do
    let target ← slots.optionChild? "target"
    let method ← slots.plain? "method" string?
    let args ← slots.children? "arguments"
    let owner ← slots.plain? "owner_type" HostType.ofJson?
    let type ← slots.plain? "ty" HostType.ofJson?
    return match target with
      | some e => call e method args owner type
      | none => staticCall owner method args type
  | "New" => do
    return new (← slots.plain? "ty" HostType.ofJson?) (← slots.children? "arguments")
      (← slots.plain? "members" (list? string?))
  | "NewArray" => do
    return newArray (← slots.plain? "element_type" HostType.ofJson?) (← slots.children? "elements")
  | "MemberInit" => do
    return memberInit (← slots.plain? "ty" HostType.ofJson?) (← slots.bindings? "bindings")
  | _ => none

mutual

/-- Read an expression. -/
def ofJson? (positional : Bool) : Json → Option Expr
  | .object [(kind, .object members)] => assemble? positional kind (slotsOf positional members)
  | .object [(kind, .array items)] =>
    match positional, fieldNames kind with
    | true, some names =>
      if names.length = items.length then assemble? true kind (slotsAt names items) else none
    | _, _ => none
  | _ => none

/-- Read some expressions. -/
def itemsOf? (positional : Bool) : List Json → Option (List Expr)
  | [] => some []
  | j :: rest => do
    let e ← ofJson? positional j
    return e :: (← itemsOf? positional rest)

/-- Read the bindings of an object. -/
def bindingsOf? (positional : Bool) : List Json → Option (List (String × Expr))
  | [] => some []
  | .array [.string name, j] :: rest => do
    let e ← ofJson? positional j
    return (name, e) :: (← bindingsOf? positional rest)
  | _ => none

/-- Read the fields of a node. -/
def slotsOf (positional : Bool) : List (String × Json) → Slots
  | [] => []
  | (name, .array items) :: rest =>
    (name, match fieldKind name with
      | .plain => .plain (.array items)
      | .child => .child (.array items) none
      | .children => .children (itemsOf? positional items)
      | .bindings => .bindings (bindingsOf? positional items)) :: slotsOf positional rest
  | (name, j) :: rest =>
    (name, match fieldKind name with
      | .plain => .plain j
      | .child => .child j (ofJson? positional j)
      | .children => .children none
      | .bindings => .bindings none) :: slotsOf positional rest

/-- Read the fields of a node that are given in order. -/
def slotsAt : List String → List Json → Slots
  | name :: names, .array items :: rest =>
    (name, match fieldKind name with
      | .plain => .plain (.array items)
      | .child => .child (.array items) none
      | .children => .children (itemsOf? true items)
      | .bindings => .bindings (bindingsOf? true items)) :: slotsAt names rest
  | name :: names, j :: rest =>
    (name, match fieldKind name with
      | .plain => .plain j
      | .child => .child j (ofJson? true j)
      | .children => .children none
      | .bindings => .bindings none) :: slotsAt names rest
  | _, _ => []

end

end Expr

end QueryClause
