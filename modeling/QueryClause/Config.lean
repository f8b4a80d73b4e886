import QueryClause.Compile.Context
import QueryClause.Sql.Dialect
import QueryClause.Toml.Reader

/-!
# Configuration

A `Config` chooses the dialect and the switches of the compiler.  It is built step by step or read
from TOML or JSON, where what is missing has its default.  `Config.validate` refuses a depth limit
of zero.
-/

namespace QueryClause

/-- The settings of a compiler. -/
structure Config where
  dialect : Dialect := .generic
  /-- Search texts in their own letter case. -/
  exactCase : Bool := false
  maxDepth : Nat := Expr.defaultMaxDepth
  /-- Write identifiers for Oracle as bare digits. -/
  compactGuid : Bool := false
  deriving DecidableEq, Repr, Inhabited

/-- Why there is no configuration. -/
inductive ConfigError where
  /-- The text is no configuration. -/
  | parse
  /-- The depth limit is zero. -/
  | noDepth
  deriving DecidableEq, Repr

namespace ConfigError

/-- The wording of the failure. -/
def message : ConfigError → String
  | parse => "Config parse error"
  | noDepth => "Invalid configuration: max_depth must be at least 1"

end ConfigError

namespace Config

/-- What SQL is written for. -/
def target (c : Config) : Target := ⟨c.dialect, c.compactGuid⟩

/-- The switches of the compiler. -/
def options (c : Config) : CompileOptions := ⟨c.exactCase, c.maxDepth⟩

/-- The configuration, if it makes sense. -/
def validate (c : Config) : Except ConfigError Config :=
  if c.maxDepth = 0 then .error .noDepth else .ok c

/-! ### TOML -/

/-- The dialect that a TOML value names, as a text or as the key of an empty table. -/
def dialectOf? : Toml → Option Dialect
  | .string s => Dialect.ofName? s
  | .inline [(name, v)] => if v.isEmpty then Dialect.ofName? name else none
  | .table _ _ ((name, v) :: _) => if v.isEmpty then Dialect.ofName? name else none
  | _ => none

/-- A truth value. -/
def boolOf? : Toml → Option Bool
  | .boolean b => some b
  | _ => none

/-- A number that is not negative. -/
def natOf? : Toml → Option Nat
  | .integer n => if 0 ≤ n then some n.toNat else none
  | _ => none

/-- Read an entry, or take its default. -/
def entry? {α : Type} (entries : Toml.Entries) (key : String) (read : Toml → Option α)
    (default : α) :
    Option α :=
  match entries.lookup key with
  | some v => read v
  | none => some default

/-- The configuration that a table holds. -/
def ofEntries? (entries : Toml.Entries) : Option Config := do
  let c : Config := {}
  return {
    dialect := ← entry? entries "dialect" dialectOf? c.dialect
    exactCase := ← entry? entries "strip_upper_in_like" boolOf? c.exactCase
    maxDepth := ← entry? entries "max_depth" natOf? c.maxDepth
    compactGuid := ← entry? entries "oracle_compact_guid" boolOf? c.compactGuid }

/-- The configuration in a TOML document. -/
def ofToml (s : String) : Except ConfigError Config :=
  match (Toml.ofText? s).bind ofEntries? with
  | some c => c.validate
  | none => .error .parse

/-! ### JSON -/

/-- The names of the settings, in order. -/
def fieldNames : List String :=
  ["dialect", "strip_upper_in_like", "max_depth", "oracle_compact_guid"]

/-- Read a setting, or take its default. -/
def field? {α : Type} (fields : List (Option Json)) (i : Nat) (read : Json → Option α)
    (default : α) :
    Option α :=
  match (fields[i]?).join with
  | some j => read j
  | none => some default

/-- Read a configuration; as an array, it may leave out the last settings. -/
def ofJson? (j : Json) : Option Config := do
  let fields ← match j with
    | .array items => if items.length ≤ fieldNames.length then some (items.map some) else none
    | j => Json.fields? fieldNames j
  let c : Config := {}
  return {
    dialect := ← field? fields 0 (fun j => (Json.caseName? j).bind Dialect.ofName?) c.dialect
    exactCase := ← field? fields 1 Json.bool? c.exactCase
    maxDepth := ← field? fields 2 Json.nat? c.maxDepth
    compactGuid := ← field? fields 3 Json.bool? c.compactGuid }

end Config

end QueryClause
