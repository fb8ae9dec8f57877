import GatewayRouting.Gateway

/-!
# Command-line arguments

A command line holds options of the program, the name of a command, and options of that command. An
option that takes a value is given as `--name value`, `--name=value`, `-n value`, `-nvalue` or
`-n=value`, and at most once; a separate value may not start with a hyphen unless it is one.

* `Invocation.parse` reads the arguments.
-/

namespace GatewayRouting.Cli

/-- What the program is asked to do. -/
inductive Command where
  /-- Write the proxy configuration, to a file or to standard output. -/
  | compile (format : Format) (output : Option String)
  /-- Resolve and compile without writing. -/
  | check
  /-- List the functions that declare a path. -/
  | routes
deriving DecidableEq, Repr

/-- A run of the program: where the configuration is, the level of logging if it is not to be the
configured one, and the command. -/
structure Invocation where
  config : String
  logLevel : Option String
  command : Command
deriving DecidableEq, Repr

/-- Why arguments are not run: they are wrong, or ask for a description of the program. -/
inductive Refusal where
  | usage
  | help
deriving DecidableEq, Repr

/-! ## Options -/

/-- An argument that looks like an option and not like a value. A single hyphen is a value. -/
def looksLikeOption (arg : String) : Bool :=
  match arg.toList with
  | '-' :: _ :: _ => true
  | _ => false

/-- An option as it is written: its name with the hyphens in front, and a value if one is
attached. -/
structure WrittenOption where
  name : String
  attached : Option String
deriving DecidableEq, Repr

/-- Drops an equals sign in front. -/
def dropEquals : List Char → List Char
  | '=' :: cs => cs
  | cs => cs

/-- The option that an argument writes: a long name behind two hyphens or a letter behind one. -/
def WrittenOption.parse (arg : String) : WrittenOption :=
  match arg.toList with
  | '-' :: '-' :: cs =>
    let name := cs.takeWhile (· != '=')
    match cs.dropWhile (· != '=') with
    | [] => ⟨"--" ++ String.ofList name, none⟩
    | _ :: value => ⟨"--" ++ String.ofList name, some (String.ofList value)⟩
  | '-' :: c :: [] => ⟨String.ofList ['-', c], none⟩
  | '-' :: c :: value => ⟨String.ofList ['-', c], some (String.ofList (dropEquals value))⟩
  | cs => ⟨String.ofList cs, none⟩

/-- The value of an option and the arguments behind it: the attached one, or else the next
argument. -/
def optionValue (o : WrittenOption) (rest : List String) :
    Except Refusal (String × List String) :=
  match o.attached, rest with
  | some value, rest => .ok (value, rest)
  | none, value :: rest => if looksLikeOption value then .error .usage else .ok (value, rest)
  | none, [] => .error .usage

/-- Sets an option that may be given once. -/
def setOnce {α : Type} (old : Option α) (value : α) : Except Refusal (Option α) :=
  match old with
  | none => .ok (some value)
  | some _ => .error .usage

/-- A path has to be given. -/
def pathValue (value : String) : Except Refusal String :=
  if value.isEmpty then .error .usage else .ok value

/-- The options of an option list, each with its value. `read` tells what an option does with its
value; `rounds` bounds the number of options. -/
def readOptions {σ : Type} (read : WrittenOption → Option (σ → String → Except Refusal σ)) :
    (rounds : Nat) → σ → List String → Except Refusal (σ × List String)
  | 0, s, args => .ok (s, args)
  | rounds + 1, s, args =>
    match args with
    | [] => .ok (s, [])
    | arg :: rest =>
      if arg = "--" || !looksLikeOption arg then .ok (s, arg :: rest)
      else
        let o := WrittenOption.parse arg
        if o.name = "--help" && o.attached.isNone || o.name = "-h" then .error .help
        else
          match read o with
          | none => .error .usage
          | some set =>
            match optionValue o rest with
            | .error e => .error e
            | .ok (value, rest) =>
              match set s value with
              | .error e => .error e
              | .ok s => readOptions read rounds s rest

/-! ## The program -/

/-- The options of the program. -/
structure ProgramOptions where
  config : Option String := none
  logLevel : Option String := none

/-- What the options of the program do. -/
def programOption (o : WrittenOption) :
    Option (ProgramOptions → String → Except Refusal ProgramOptions) :=
  if o.name = "--config" || o.name = "-c" then
    some fun s value => do return { s with config := ← setOnce s.config (← pathValue value) }
  else if o.name = "--log-level" || o.name = "-l" then
    some fun s value => do return { s with logLevel := ← setOnce s.logLevel value }
  else none

/-- The options of the command that compiles. -/
structure CompileOptions where
  format : Option Format := none
  output : Option String := none

/-- A format has to be known by name. -/
def formatValue (value : String) : Except Refusal Format :=
  match Format.ofName? value with
  | some f => .ok f
  | none => .error .usage

/-- What the options of the command that compiles do. -/
def compileOption (o : WrittenOption) :
    Option (CompileOptions → String → Except Refusal CompileOptions) :=
  if o.name = "--format" || o.name = "-f" then
    some fun s value => do return { s with format := ← setOnce s.format (← formatValue value) }
  else if o.name = "--output" || o.name = "-o" then
    some fun s value => do return { s with output := ← setOnce s.output (← pathValue value) }
  else none

/-- Nothing may be left, except for the mark that ends options. -/
def noMore (args : List String) : Except Refusal Unit :=
  if args = [] ∨ args = ["--"] then .ok () else .error .usage

/-- The names of the commands. -/
def commandNames : List String := ["compile", "check", "routes", "help"]

/-- The command that arguments name, with its options. -/
def Command.parse (name : String) (args : List String) : Except Refusal Command := do
  match name with
  | "compile" =>
    let (options, rest) ← readOptions compileOption args.length {} args
    noMore rest
    return .compile (options.format.getD .nginx) options.output
  | "check" =>
    let ((), rest) ← readOptions (fun _ => none) args.length () args
    noMore rest
    return .check
  | "routes" =>
    let ((), rest) ← readOptions (fun _ => none) args.length () args
    noMore rest
    return .routes
  | "help" =>
    match args with
    | [] => throw .help
    | [topic] => if topic ∈ commandNames then throw .help else throw .usage
    | _ => throw .usage
  | _ => throw .usage

/-- The run that arguments ask for. -/
def Invocation.parse (args : List String) : Except Refusal Invocation := do
  let (options, rest) ← readOptions programOption args.length {} args
  match rest with
  | [] => throw .usage
  | name :: args =>
    let command ← Command.parse name args
    return ⟨options.config.getD "gateway.toml", options.logLevel, command⟩

end GatewayRouting.Cli
