import QueryClause.Sql.Dialect

/-!
# Arguments of the command line

`Invocation.ofArguments` reads the arguments of the program: options before or after the name of a
command, and the words that the command takes.  An option is given at most once in each place, the
place after the command name counts more, and two hyphens alone end the options.
-/

namespace QueryClause

/-- What the program is asked to do. -/
inductive Command where
  /-- Compile the expression in a file. -/
  | compile (input : String) (schema : Option String) (exactCase fields : Bool)
  /-- Write a JSON value as a literal. -/
  | value (json : String)
  /-- Escape the wildcards of LIKE. -/
  | escape (text : String)
  /-- List the dialects. -/
  | dialects
  deriving DecidableEq, Repr

/-- A command with the options that all commands have. -/
structure Invocation where
  config : Option String
  dialect : Option Dialect
  command : Command
  deriving DecidableEq, Repr

/-- Why there is nothing to run. -/
inductive NotRun where
  /-- The arguments make no sense. -/
  | usage
  | helpAsked
  | versionAsked
  deriving DecidableEq, Repr

/-- An option. -/
inductive CommandOption where
  | config
  | dialect
  | verbose
  | help
  | version
  | schema
  | exactCase
  | fields
  deriving DecidableEq, Repr

namespace CommandOption

/-- The long name. -/
def long : CommandOption → String
  | config => "config"
  | dialect => "dialect"
  | verbose => "verbose"
  | help => "help"
  | version => "version"
  | schema => "schema"
  | exactCase => "strip-upper-in-like"
  | fields => "fields"

/-- The letter, if the option has one. -/
def letter? : CommandOption → Option Char
  | config => some 'c'
  | dialect => some 'd'
  | verbose => some 'v'
  | help => some 'h'
  | version => some 'V'
  | schema => some 's'
  | exactCase => none
  | fields => none

/-- Whether the option has a value. -/
def takesValue : CommandOption → Bool
  | config | dialect | schema => true
  | _ => false

/-- Whether a value is acceptable. -/
def accepts (o : CommandOption) (v : String) : Bool :=
  match o with
  | config | schema => !v.isEmpty
  | dialect => (Dialect.ofText? v).isSome
  | _ => true

/-- The options that every command has. -/
def shared : List CommandOption := [config, dialect, verbose, help]

end CommandOption

/-- The options and words given in one place. -/
structure ArgumentList where
  options : List (CommandOption × String) := []
  words : List String := []

namespace ArgumentList

/-- The value of an option. -/
def value? (l : ArgumentList) (o : CommandOption) : Option String := l.options.lookup o

/-- Whether an option is given. -/
def has (l : ArgumentList) (o : CommandOption) : Bool := (l.value? o).isSome

/-- Add an option. -/
def put (l : ArgumentList) (o : CommandOption) (v : String) : Except NotRun ArgumentList :=
  match o with
  | .help => .error .helpAsked
  | .version => .error .versionAsked
  | o =>
    if l.has o || !o.accepts v then .error .usage
    else .ok { l with options := l.options ++ [(o, v)] }

/-- Add options given by their letters in one argument; the last one may lack its value. -/
def putLetters (allowed : List CommandOption) (l : ArgumentList) :
    List Char → Except NotRun (ArgumentList × Option CommandOption)
  | [] => .ok (l, none)
  | c :: rest =>
    match allowed.find? fun o => o.letter? == some c with
    | none => .error .usage
    | some o =>
      if o.takesValue then
        match rest with
        | [] => .ok (l, some o)
        | '=' :: v => (l.put o (String.ofList v)).map fun l => (l, none)
        | v => (l.put o (String.ofList v)).map fun l => (l, none)
      else
        match l.put o "" with
        | .ok l => putLetters allowed l rest
        | .error e => .error e

/-- Add an option given by its long name, perhaps with a value after an equals sign; otherwise the
value may still be to come. -/
def putLong (allowed : List CommandOption) (l : ArgumentList) (s : List Char) :
    Except NotRun (ArgumentList × Option CommandOption) :=
  let (name, value) := s.span (· != '=')
  match allowed.find? fun o => o.long == String.ofList name with
  | none => .error .usage
  | some o =>
    match o.takesValue, value with
    | true, '=' :: v => (l.put o (String.ofList v)).map fun l => (l, none)
    | true, _ => .ok (l, some o)
    | false, [] => (l.put o "").map fun l => (l, none)
    | false, _ => .error .usage

/-- Add the options in an argument, or `none` if it is a word. -/
def putOptions? (allowed : List CommandOption) (l : ArgumentList) (arg : String) :
    Option (Except NotRun (ArgumentList × Option CommandOption)) :=
  match arg.toList with
  | '-' :: '-' :: s => some (l.putLong allowed s)
  | '-' :: c :: s => some (l.putLetters allowed (c :: s))
  | _ => none

/-- Read the arguments after the name of a command, at most `count` of them words.  With `plain`,
all are words. -/
def read (allowed : List CommandOption) (count : Nat) :
    Bool → ArgumentList → List String → Except NotRun ArgumentList
  | _, l, [] => .ok l
  | plain, l, arg :: rest =>
    if !plain && arg = "--" then read allowed count true l rest
    else
      match if plain then none else l.putOptions? allowed arg with
      | some (.error e) => .error e
      | some (.ok (l, none)) => read allowed count plain l rest
      | some (.ok (l, some o)) =>
        match rest with
        | v :: rest =>
          if v.startsWith "-" && v != "-" then .error .usage
          else
            match l.put o v with
            | .ok l => read allowed count plain l rest
            | .error e => .error e
        | [] => .error .usage
      | none =>
        if l.words.length < count then
          read allowed count plain { l with words := l.words ++ [arg] } rest
        else .error .usage

/-- Read the arguments up to the name of a command; the name, and the arguments after it. -/
def readToCommand (l : ArgumentList) :
    List String → Except NotRun (ArgumentList × String × List String)
  | [] => .error .usage
  | arg :: rest =>
    if arg = "--" then .error .usage
    else
      match l.putOptions? (.version :: CommandOption.shared) arg with
      | some (.error e) => .error e
      | some (.ok (l, none)) => readToCommand l rest
      | some (.ok (l, some o)) =>
        match rest with
        | v :: rest =>
          if v.startsWith "-" && v != "-" then .error .usage
          else
            match l.put o v with
            | .ok l => readToCommand l rest
            | .error e => .error e
        | [] => .error .usage
      | none => .ok (l, arg, rest)

end ArgumentList

namespace Command

/-- The options that a command has beside the shared ones. -/
def ownOptions : String → List CommandOption
  | "compile" => [.schema, .exactCase, .fields]
  | _ => []

/-- The command with a name, from its arguments. -/
def ofArguments (name : String) (l : ArgumentList) : Except NotRun Command :=
  match name, l.words with
  | "compile", [input] =>
    if input.isEmpty then .error .usage
    else .ok (.compile input (l.value? .schema) (l.has .exactCase) (l.has .fields))
  | "value", [json] => .ok (.value json)
  | "escape", [text] => .ok (.escape text)
  | "dialects", [] => .ok .dialects
  | _, _ => .error .usage

end Command

namespace Invocation

/-- The names of the commands, with the number of words that each takes. -/
def commands : List (String × Nat) := [("compile", 1), ("value", 1), ("escape", 1), ("dialects", 0)]

/-- What the arguments ask for; `configVariable` is the configuration file that the environment
names. -/
def ofArguments (configVariable : Option String) (args : List String) :
    Except NotRun Invocation := do
  let (before, name, rest) ← ArgumentList.readToCommand {} args
  if name = "help" then .error .helpAsked
  else
    match commands.lookup name with
    | none => .error .usage
    | some count =>
      let options := CommandOption.shared ++ Command.ownOptions name
      let after ← ArgumentList.read options count false {} rest
      let command ← Command.ofArguments name after
      -- an empty name of a file is no better in the environment
      if configVariable = some "" && !(before.has .config && after.has .config) then .error .usage
      else
        let given (o : CommandOption) : Option String := (after.value? o).or (before.value? o)
        return ⟨(given .config).or configVariable, (given .dialect).bind Dialect.ofText?, command⟩

end Invocation

end QueryClause
