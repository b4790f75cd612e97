import CephExport.Json.Printer
import CephExport.Program
import CephExport.Yaml.Printer

/-!
The command line program: it hands its arguments, its environment and the file of settings to
`Program.run`, and prints what that comes to.
-/

set_option autoImplicit false
set_option relaxedAutoImplicit false

open CephExport

/-- The variables that the program looks at, by the names that the environment may hold them
under. -/
def lookedAt : List String :=
  [Program.settingsPathVariable, Program.logFilterVariable] ++
    Settings.fieldKeys.map (fun key => "NFS_OPERATOR__CONTROLLER__" ++ key.toUpper) ++
    ["NFS_OPERATOR__CONTROLLER"]

def readVariables : IO (List (String × String)) := do
  let found ← lookedAt.mapM fun name => do
    return (← IO.getEnv name).map fun text => (name, text)
  return found.filterMap id

def usage : String :=
  "Operator for managing the NFS export of Ceph storage clusters\n\n" ++
    "Usage: nfs-operator [OPTIONS] [COMMAND]\n\n" ++
    "Commands:\n" ++
    "  crds        Generate Custom Resource Definitions (CRDs) for the operator\n" ++
    "  controller  Run the controller\n" ++
    "  help        Print this message or the help of the given subcommand(s)\n\n" ++
    "Options:\n" ++
    "      --config <CONFIG>  Path to a JSON, YAML or TOML configuration file " ++
    "[env: NFS_OPERATOR_CONFIG=]\n" ++
    "  -h, --help             Print help\n" ++
    "  -V, --version          Print version"

def refusalText : UsageError → String
  | .missingValue => "error: a value is required for '--config <CONFIG>' but none was supplied"
  | .needlessValue => "error: unexpected value for a flag"
  | .unknownArgument => "error: unexpected argument found"
  | .unknownCommand => "error: unrecognized subcommand"
  | .repeatedOption => "error: the argument '--config <CONFIG>' cannot be used multiple times"
  | .helpWanted => usage
  | .versionWanted => "nfs-operator " ++ Program.version

def printOutput : Program.Output → IO Unit
  | .nothing => pure ()
  | .definitions => IO.print (Yaml.printDocument Definition.document)
  | .usage => IO.println usage
  | .version => IO.println (refusalText .versionWanted)
  | .refusal error => IO.eprintln (refusalText error)

/-- The content of the file of settings that the command line names, if it can be read. -/
def readSettings (arguments : List String) (environment : List (String × String)) :
    IO (String → Option String) := do
  match CommandLine.parse arguments (environment.lookup Program.settingsPathVariable) with
  | .ok ⟨_, some path⟩ =>
    let text ← try some <$> IO.FS.readFile path catch _ => pure none
    return fun other => if other = path then text else none
  | _ => return fun _ => none

def main (arguments : List String) : IO UInt32 := do
  let environment ← readVariables
  let outcome := Program.run arguments environment (← readSettings arguments environment)
  for line in outcome.log do
    IO.println line.toJson.print
  printOutput outcome.output
  return UInt32.ofNat outcome.exitCode
