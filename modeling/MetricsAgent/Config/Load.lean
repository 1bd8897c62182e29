import MetricsAgent.Config.Decode
import MetricsAgent.Config.Validate

/-!
# Loading configurations

From the bytes of a file to a configuration that the agent can run with.  The steps fail one after
the other, each with an error of its own: there has to be a file (`Config.load`), its bytes have to
be UTF-8, its text has to be YAML (`Config.parse`), the document has to have values of the right
types, and the values have to pass the checks (`Config.read`).

The file system and the environment are not looked at here.  Both are arguments, the file as its
bytes if there is one, the environment as a function; `variablesOf` tells in advance which variables
a file will ask for, so that the outer layer can read exactly these.
-/

set_option autoImplicit false

namespace MetricsAgent.Config

/-- The path of the configuration where none is given. -/
def defaultPath : String := "configs/config.yaml"

/-- Read a configuration from a document, and check it in an environment. -/
def read (env : Environment) (document : Option Yaml.Node) : Except ConfigError Config :=
  match ofDocument document with
  | .error e => .error (.mistyped e)
  | .ok c =>
    match c.check env with
    | .error f => .error (.invalid f)
    | .ok () => .ok c

/-- Read a configuration from a text, and check it in an environment. -/
def parse (env : Environment) (text : String) : Except ConfigError Config :=
  match Yaml.Node.parse text with
  | .error e => .error (.malformed e)
  | .ok document => read env document

/-- Read a configuration from a file, of which the bytes are given if there is one. -/
def load (env : Environment) (file : Option ByteArray) : Except ConfigError Config :=
  match file with
  | none => .error (.unreadable "no such file")
  | some bytes =>
    match String.fromUTF8? bytes with
    | none => .error (.unreadable "stream did not contain valid UTF-8")
    | some text => parse env text

/-- The names of the variables that a text refers to. -/
def variablesIn (text : String) : List String :=
  (Template.parts text.toList).filterMap fun
    | .reference r => some (String.ofList r.name)
    | .literal _ => none

/-- The names of the variables that a file refers to, where references are replaced. -/
def variablesOf (file : Option ByteArray) : List String :=
  match (file.bind String.fromUTF8?).map fun text ↦ (Yaml.Node.parse text).map ofDocument with
  | some (.ok (.ok c)) => (c.push.endpoint.toList ++ c.push.headers.map (·.2)).flatMap variablesIn
  | _ => []

end MetricsAgent.Config
