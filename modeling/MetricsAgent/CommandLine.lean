import MetricsAgent.Config.Load
import MetricsAgent.Text.Blank

/-!
# The command line

Three options take a value, which may stand in the next argument or behind an equals sign, and which
comes from a variable of the environment where the option is not given.  One option is a switch: run
one cycle, and write its measurements.  The requests for help and for the version win over whatever
stands behind them.

* `CommandLine.parse` reads the arguments in an environment; an argument that is not understood, a
  value that is missing and an option that is given twice are refused, with a wording of their own.
* `CommandLine.override` puts the given address and port into a configuration.
* `CommandLine.load` loads the file, overrides it and checks the result once more, because what was
  checked before is not what the program runs with.
-/

set_option autoImplicit false

namespace MetricsAgent

/-- What is asked for on the command line. -/
structure CommandLine where
  config : String
  bind : Option String
  port : Option Nat
  /-- Run one cycle and write its measurements. -/
  once : Bool
  deriving DecidableEq, Repr

/-- What an invocation wants. -/
inductive Invocation where
  | run (c : CommandLine)
  | help
  | version
  deriving DecidableEq, Repr

/-- Why a command line is refused. -/
inductive UsageError where
  | unexpected (argument : String)
  | missingValue (option : String)
  | repeated (option : String)
  | badPort (text : String)
  deriving DecidableEq, Repr

/-- The wording of an error. -/
def UsageError.message : UsageError → String
  | unexpected argument => "unexpected argument '" ++ argument ++ "' found"
  | missingValue option => "a value is required for '" ++ option ++ "' but none was supplied"
  | repeated option => "the argument '" ++ option ++ "' cannot be used multiple times"
  | badPort text => "invalid value '" ++ text ++ "' for '--port'"

namespace CommandLine

/-- An option with a value. -/
inductive ValueOption where
  | config
  | bind
  | port
  deriving DecidableEq, Repr

/-- The name of an option. -/
def ValueOption.name : ValueOption → String
  | config => "--config"
  | bind => "--bind"
  | port => "--port"

/-- The variable that stands in for an option. -/
def ValueOption.variable : ValueOption → String
  | config => "METRON_CONFIG"
  | bind => "METRON_BIND"
  | port => "METRON_PORT"

/-- The options with values. -/
def ValueOption.all : List ValueOption := [config, bind, port]

/-- The arguments as they are given. -/
structure Given where
  values : List (ValueOption × String)
  once : Bool

/-- The option that an argument names, and its value if that stands behind an equals sign. -/
def valueOption? (argument : String) : Option (ValueOption × Option String) :=
  let cs := argument.toList
  let name := String.ofList (cs.takeWhile (· ≠ '='))
  let value := (cs.dropWhile (· ≠ '=')).tail?.map String.ofList
  match ValueOption.all.find? (·.name = name) with
  | some o => some (o, value)
  | none =>
    match cs with
    | ['-', 'c'] => some (.config, none)
    | '-' :: 'c' :: rest =>
      some (.config, some (String.ofList (if rest.head? = some '=' then rest.drop 1 else rest)))
    | _ => none

/-- Write down the value of an option. -/
def Given.add (g : Given) (o : ValueOption) (value : String) : Except UsageError Given :=
  if (g.values.lookup o).isSome then .error (.repeated o.name)
  else .ok { g with values := g.values ++ [(o, value)] }

/-- Read the arguments; `none` when the version or the help is asked for. -/
def read (g : Given) : List String → Except UsageError (Except Invocation Given)
  | [] => .ok (.ok g)
  | "-h" :: _ | "--help" :: _ => .ok (.error .help)
  | "-V" :: _ | "--version" :: _ => .ok (.error .version)
  | "--once" :: rest =>
    if g.once then .error (.repeated "--once") else read { g with once := true } rest
  | argument :: rest =>
    match valueOption? argument, rest with
    | none, _ => .error (.unexpected argument)
    | some (o, some value), rest => do read (← g.add o value) rest
    | some (o, none), [] => .error (.missingValue o.name)
    | some (o, none), value :: rest => do read (← g.add o value) rest

/-- A port. -/
def port? (text : String) : Option Nat :=
  let cs := text.toList
  (decimalNat? (if cs.head? = some '+' then cs.drop 1 else cs)).filter (· < 65536)

/-- Read a command line in an environment. -/
def parse (env : Environment) (arguments : List String) : Except UsageError Invocation := do
  match ← read ⟨[], false⟩ arguments with
  | .error other => return other
  | .ok g =>
    let value (o : ValueOption) : Option String := (g.values.lookup o).or (env o.variable)
    let port ← match value .port with
      | none => pure none
      | some text =>
        match port? text with
        | some n => pure (some n)
        | none => .error (.badPort text)
    return .run ⟨(value .config).getD Config.defaultPath, value .bind, port, g.once⟩

/-- What the options say. -/
def usage : String := "\n".intercalate
  [ "Metrics collection agent", "", "Usage: [OPTIONS]", "", "Options:",
    "  -c, --config <CONFIG>  Path to configuration file [default: " ++ Config.defaultPath ++ "]",
    "      --bind <BIND>      Server bind address (overrides config file)",
    "      --port <PORT>      Server port (overrides config file)",
    "      --once             Run one collection cycle, print exposition text and exit",
    "  -h, --help             Print help",
    "  -V, --version          Print version" ]

/-- A configuration in which the given address and port replace its own. -/
def override (c : CommandLine) (config : Config) : Config :=
  { config with server := ⟨c.bind.getD config.server.bind, c.port.getD config.server.port⟩ }

/-- The configuration to run with: what is loaded and overridden is checked once more. -/
def load (c : CommandLine) (env : Environment) (file : Option ByteArray) :
    Except ConfigError Config := do
  let config := c.override (← Config.load env file)
  match config.check env with
  | .ok () => return config
  | .error f => .error (.invalid f)

end CommandLine

end MetricsAgent
