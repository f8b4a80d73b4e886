import QueryClause.CommandLine.Arguments
import QueryClause.Compile.Basic
import QueryClause.Config
import QueryClause.Expr.Json
import QueryClause.Json.Reader

/-!
# Running the command line

`Invocation.run` does what a command asks for and says what to print.  It reads files through a
`FileAccess`, which stands for the file system, so that it is the same function over any of them.
-/

namespace QueryClause

/-- What the program needs of a file system. -/
structure FileAccess (m : Type → Type) where
  /-- The text of a file, if it can be read. -/
  readText? : String → m (Option String)
  isFile : String → m Bool

/-- What a run leaves behind. -/
structure Outcome where
  exitCode : Nat
  stdout : String
  stderr : String
  deriving DecidableEq, Repr

namespace Outcome

/-- Success, with a line of output. -/
def success (line : String) : Outcome := ⟨0, line ++ "\n", ""⟩

/-- Failure, with a message. -/
def failure (message : String) : Outcome := ⟨1, "", "Error: " ++ message ++ "\n"⟩

/-- What is printed if nothing is run. -/
def ofNotRun : NotRun → Outcome
  | .usage => ⟨2, "", "error: see --help\n"⟩
  | .helpAsked =>
    ⟨0, "Usage: sqlexpr [OPTIONS] " ++
      "<compile <INPUT> | value <JSON> | escape <TEXT> | dialects>\n", ""⟩
  | .versionAsked => success "sqlexpr 0.1.0"

end Outcome

/-- The value that a JSON value stands for. -/
def Value.ofPlainJson : Json → Value
  | .null => .null
  | .bool b => .bool b
  | .int n => if Word64.fits n then .int (Int64.ofInt n) else .float (Binary64.ofInt n)
  | .float x => .float x
  | .string s => .string s
  | .array items => .list (ofItems items)
  | .object members => .object "Object" (ofMembers members)
where
  /-- The values of the items of an array. -/
  ofItems : List Json → List Value
    | [] => []
    | j :: rest => Value.ofPlainJson j :: ofItems rest
  /-- The fields for the members of an object. -/
  ofMembers : List (String × Json) → List (String × Value)
    | [] => []
    | (name, j) :: rest => (name, Value.ofPlainJson j) :: ofMembers rest

/-- An expression to compile, with the aliases for it. -/
structure CompileRequest where
  expression : Expr
  aliases : Aliases

namespace CompileRequest

/-- Read a request; the aliases may be missing. -/
def ofJson? (j : Json) : Option CompileRequest := do
  let fields ← match j with
    | .array [e] => some [some e, none]
    | j => Json.fields? ["expression", "aliases"] j
  let [expression, aliases] := fields | none
  let expression ← Json.required? (Expr.ofJson? true) expression
  let aliases ← match aliases with
    | some a => Aliases.ofJson? a
    | none => some Aliases.empty
  return ⟨expression, aliases⟩

end CompileRequest

namespace Config

/-- The SQL of a request under a schema. -/
def compile (c : Config) (schema : Schema) (aliases : Aliases) (env : Environment) (clause : Clause)
    (e : Expr) : Except CompileError String :=
  Context.sql ⟨c.target, schema, aliases, env, c.options, clause⟩ e

/-- The SQL of a request in a run, where `draw` gives the new identifiers. -/
def compileM {n : Type → Type} [Monad n] (draw : n Guid) (c : Config) (schema : Schema)
    (aliases : Aliases) (env : Environment) (clause : Clause) (e : Expr) :
    ExceptT CompileError n String := do
  let f ← Context.compileM draw ⟨c.target, schema, aliases, env, c.options, clause⟩ e
  return f.render c.target

end Config

/-- Join the parts of a path. -/
def joinPath (dir file : String) : String :=
  if dir.endsWith "/" then dir ++ file else dir ++ "/" ++ file

/-- The files in which a configuration is looked for; `env?` looks variables up. -/
def configCandidates (env? : String → Option String) : List String :=
  let user := match env? "XDG_CONFIG_HOME" with
    | some dir => if dir.startsWith "/" then some dir else none
    | none => none
  let home := match env? "HOME" with
    | some dir => if dir.isEmpty then none else some (joinPath dir ".config")
    | none => none
  "sqlexpr.toml" :: ((user.or home).map fun dir => joinPath dir "sqlexpr/config.toml").toList

/-- The first of the paths that names a file. -/
def firstFile? {m : Type → Type} [Monad m] (files : FileAccess m) : List String → m (Option String)
  | [] => return none
  | path :: rest => do
    if ← files.isFile path then return some path else firstFile? files rest

namespace Invocation

variable {m : Type → Type} [Monad m]

/-- The configuration: from the file that is named, or the first one that is found; or else why
there is none. -/
def loadConfig (files : FileAccess m) (candidates : List String) (i : Invocation) :
    m (Except String Config) := do
  match i.config with
  | some path =>
    match (← files.readText? path).map Config.ofToml with
    | some (.ok c) => return .ok c
    | _ => return .error ("failed to load config " ++ path)
  | none =>
    match ← firstFile? files candidates with
    | none => return .ok {}
    | some path =>
      match (← files.readText? path).map Config.ofToml with
      | some (.ok c) => return .ok c
      | some (.error e) => return .error e.message
      | none => return .error "IO error"

/-- The schema in a file, or why there is none. -/
def loadSchema (files : FileAccess m) : Option String → m (Except String Registry)
  | none => return .ok Registry.empty
  | some path => do
    match ← files.readText? path with
    | none => return .error ("failed to read " ++ path)
    | some text =>
      match (Json.ofText? text).bind Registry.ofJson? with
      | some r => return .ok r
      | none => return .error "invalid schema JSON"

/-- Compile the expression in a file. -/
def runCompile (files : FileAccess m) (draw : m Guid) (env : Environment) (c : Config)
    (input : String) (schema : Option String) (fields : Bool) : m Outcome := do
  match ← files.readText? input with
  | none => return .failure ("failed to read " ++ input)
  | some text =>
    match (Json.ofText? text).bind CompileRequest.ofJson? with
    | none => return .failure "input must be \x7b \"expression\": ..., \"aliases\": ... \x7d"
    | some r =>
      match ← loadSchema files schema with
      | .error message => return .failure message
      | .ok registry =>
        let clause := if fields then Clause.fieldList else .predicate
        match ← (c.compileM draw registry.schema r.aliases env clause r.expression).run with
        | .ok sql => return .success sql
        | .error e => return .failure (e.message ++ "\n  expression: " ++ r.expression.text)

/-- Write a JSON value as a literal. -/
def runValue (c : Config) (json : String) : Outcome :=
  match Json.ofText? json with
  | some j =>
    if j.isFinite then .success (c.target.ownLiteral (Value.ofPlainJson j.settled))
    else .failure ("invalid JSON value: " ++ json)
  | none => .failure ("invalid JSON value: " ++ json)

/-- The list of dialects, with a mark at the one that is configured. -/
def dialectList (c : Config) : String :=
  Text.join "\n" (Dialect.all.map fun d => (if d = c.dialect then "* " else "  ") ++ d.name)

/-- Do what is asked for. -/
def run (files : FileAccess m) (draw : m Guid) (candidates : List String) (env : Environment)
    (i : Invocation) : m Outcome := do
  match ← i.loadConfig files candidates with
  | .error message => return .failure message
  | .ok c =>
    let c := { c with dialect := i.dialect.getD c.dialect }
    match i.command with
    | .compile input schema exactCase fields =>
      runCompile files draw env { c with exactCase := exactCase || c.exactCase } input schema fields
    | .value json => return runValue c json
    | .escape text => return .success (String.ofList (Pattern.escapeWildcards text.toList))
    | .dialects => return .success (dialectList c)

end Invocation

/-- Run the program with its arguments; `env?` looks variables up, and `draw` gives the new
identifiers. -/
def runProgram {m : Type → Type} [Monad m] (files : FileAccess m) (env? : String → Option String)
    (env : Environment) (args : List String) (draw : m Guid := pure env.freshGuid) : m Outcome :=
  match Invocation.ofArguments (env? "SQLEXPR_CONFIG") args with
  | .error e => return .ofNotRun e
  | .ok i => i.run files draw (configCandidates env?) env

end QueryClause
