import CephExport.Cluster.Definition
import CephExport.CommandLine
import CephExport.Json.Basic
import CephExport.Logging.Filter
import CephExport.Settings.Load

/-!
The program as a whole: what it prints, logs and ends with, from its arguments, its environment and
the files it can read. It sets up the controller up to the connection with an API server, for which
it has no means, so that the controller always ends in a failure.
-/

set_option autoImplicit false
set_option relaxedAutoImplicit false

namespace CephExport.Program

def version : String := "0.1.0"

def settingsPathVariable : String := "NFS_OPERATOR_CONFIG"

def logFilterVariable : String := "LOG_LEVEL"

/-- A line of the log: its level, the part of the program that writes it, and its fields in
order. -/
structure LogLine where
  level : Level
  target : String
  fields : List (String × String)
  deriving DecidableEq

namespace LogLine

def field? (line : LogLine) (name : String) : Option String := line.fields.lookup name

def toJson (line : LogLine) : Json :=
  .ofMembers (("level", .string line.level.name) :: ("target", .string line.target) ::
    line.fields.map fun field => (field.1, .string field.2))

end LogLine

def ownTarget : String := "nfs_operator"

def starting : LogLine := ⟨.info, ownTarget, [("event", "Starting"), ("version", version)]⟩

def failure (error : String) : LogLine :=
  ⟨.error, ownTarget, [("event", "Error"), ("error", error)]⟩

/-- The line of the connection set up from within a cluster, since there is no other setting for
it. -/
def noLocalConnection : LogLine :=
  ⟨.trace, "kube_client::config",
    [("message", "no local config found, falling back to local in-cluster config"),
      ("error", "no file with connections can be read")]⟩

inductive Output
  | nothing
  | definitions
  | usage
  | version
  /-- The reason why the command line is refused, on the error output. -/
  | refusal (error : UsageError)
  deriving DecidableEq

/-- What a run of the program comes to. -/
structure Outcome where
  exitCode : Nat
  output : Output
  log : List LogLine
  deriving DecidableEq

def refused : UsageError → Output
  | .helpWanted => .usage
  | .versionWanted => .version
  | error => .refusal error

def settingsErrorText (error : SettingsError) : String :=
  match error.message? with
  | some text => text ++ " for key " ++ Text.quoted (String.intercalate "." error.path)
  | none => "the settings are not a table"

/-- The exit code of a run that stops where text would be cut within a character. -/
def splitCharacterCode : Nat := 101

/-- The exit code and the lines of a controller that starts with a file of settings and an
environment. -/
def controllerRun (file : Option Settings.File) (environment : List (String × String)) :
    Nat × List LogLine :=
  match Settings.load file environment with
  | .error .splitCharacter => (splitCharacterCode, [starting])
  | .error error => (1, [starting, failure (settingsErrorText error)])
  | .ok _ =>
    (1, [starting, noLocalConnection, failure "no connection to an API server can be set up"])

/-- A run of the program. `content` gives the text of the file at a path, if it exists. -/
def run (arguments : List String) (environment : List (String × String))
    (content : String → Option String) :
    Outcome :=
  match CommandLine.parse arguments (environment.lookup settingsPathVariable) with
  | .error error => ⟨error.exitCode, refused error, []⟩
  | .ok invocation =>
    match Logging.Filter.ofSetting? (environment.lookup logFilterVariable), invocation.command with
    | none, _ => ⟨splitCharacterCode, .nothing, []⟩
    | some _, none => ⟨1, .usage, []⟩
    | some _, some .definitions => ⟨0, .definitions, []⟩
    | some filter, some .controller =>
      let file := invocation.settingsPath.map fun path => (⟨path, content path⟩ : Settings.File)
      let (code, log) := controllerRun file environment
      ⟨code, .nothing, log.filter fun line =>
        filter.shows line.target (line.fields.map (·.1)) line.level⟩

end CephExport.Program
