import CephExport.Json.Parser
import CephExport.Settings.Extract
import CephExport.Settings.Variable
import CephExport.Toml.Document
import CephExport.Yaml.Document

/-!
Loading the settings: the defaults, over them the file, and over that the environment.
-/

set_option autoImplicit false
set_option relaxedAutoImplicit false

namespace CephExport.Settings

def Value.ofJson : Json → Value
  | .null | .unreadable => .unit
  | .bool value => .flag value
  | .number (.integer value) => if value < 0 then .signed value else .unsigned value.toNat
  | .number (.real value) => .real (.finite value)
  | .string value => .text value
  | .array items => .list (ofItems items)
  | .object members => .table (ofMembers members)
where
  ofItems : List Json → List Value
    | [] => []
    | item :: rest => ofJson item :: ofItems rest
  ofMembers : Members → List (String × Value)
    | [] => []
    | (key, item) :: rest => (key, ofJson item) :: ofMembers rest

inductive Format
  | json
  | yaml
  | toml
  deriving DecidableEq

namespace Format

/-- The parts of a text, which a character separates, the first one behind what is `read` of it last
to first. -/
def separated (separator : Char) (read : List Char) : List Char → List String
  | [] => [String.ofList read.reverse]
  | c :: rest =>
    if c = separator then String.ofList read.reverse :: separated separator [] rest
    else separated separator (c :: read) rest

/-- The last part of a path that is not empty and not the directory itself. -/
def fileName? (path : String) : Option String :=
  (separated '/' [] path.toList).reverse.find? fun part => !(part.isEmpty || part == ".")

/-- What stands behind the last point of a file name, unless nothing stands before it. -/
def extension? (path : String) : Option String :=
  match fileName? path with
  | none => none
  | some name =>
    if name = ".." then none
    else
      match (separated '.' [] name.toList).reverse with
      | extension :: before :: earlier =>
        if before.isEmpty && earlier.isEmpty then none else some extension
      | _ => none

def ofPath? (path : String) : Option Format :=
  match extension? path with
  | some "json" => some .json
  | some "yaml" => some .yaml
  | some "yml" => some .yaml
  | some "toml" => some .toml
  | _ => none

def read? (format : Format) (text : String) : Option Value :=
  match format with
  | .json =>
    match Json.parse? text with
    | some (.object members) => some (.ofJson (.object members))
    | _ => none
  | .yaml => Yaml.read? text
  | .toml => Toml.read? text

end Format

/-- A file that may hold settings; without content it does not exist. -/
structure File where
  path : String
  content : Option String

/-- The layer of a file; one of another format and one that does not exist are empty. -/
def File.layer (file : File) : Except SettingsError Value :=
  match Format.ofPath? file.path, file.content with
  | some format, some content =>
    match format.read? content with
    | some layer => .ok layer
    | none => .error .unreadable
  | _, _ => .ok (.table [])

def fileLayer : Option File → Except SettingsError Value
  | none => .ok (.table [])
  | some file => file.layer

def load (file : Option File) (environment : List (String × String)) :
    Except SettingsError Settings :=
  match Variable.layer? environment with
  | none => .error .splitCharacter
  | some environmentLayer =>
    match fileLayer file with
    | .error error => .error error
    | .ok layer => ofValue ((defaultLayer.overlay layer).overlay environmentLayer)

end CephExport.Settings
