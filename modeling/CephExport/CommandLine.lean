/-!
The command line: an optional command, and an option with the path of a file of settings that may
stand before or behind the command. The option behind the command wins, then the one before it, then
the environment.
-/

set_option autoImplicit false
set_option relaxedAutoImplicit false

namespace CephExport

/-- What the program can be told to do. -/
inductive Command
  | definitions
  | controller
  deriving DecidableEq

def Command.name : Command → String
  | definitions => "crds"
  | controller => "controller"

structure Invocation where
  command : Option Command
  settingsPath : Option String
  deriving DecidableEq

inductive UsageError
  | helpWanted
  | versionWanted
  | missingValue
  /-- A value is attached to a flag that takes none. -/
  | needlessValue
  | unknownArgument
  | unknownCommand
  | repeatedOption
  deriving DecidableEq

/-- The exit code of the program: asking for help or the version is no failure. -/
def UsageError.exitCode : UsageError → Nat
  | helpWanted => 0
  | versionWanted => 0
  | _ => 2

namespace CommandLine

inductive Argument
  /-- A double dash, behind which nothing is an option. -/
  | divider
  /-- A name behind two dashes, and the value attached to it. -/
  | long (name : String) (value : Option String)
  | short (letter : Char)
  | word
  deriving DecidableEq

def classify (argument : String) : Argument :=
  match argument.toList with
  | ['-', '-'] => .divider
  | '-' :: '-' :: rest =>
    let name := String.ofList (rest.takeWhile (· != '='))
    match rest.dropWhile (· != '=') with
    | _ :: value => .long name (some (String.ofList value))
    | [] => .long name none
  | '-' :: letter :: _ => .short letter
  | _ => .word

/-- The option with the path of the settings, as far as it has been read. -/
structure SettingsOption where
  value : Option String := none
  /-- Whether an option has been read that is not settled, and its value. -/
  pending : Option (Option String) := none
  deriving DecidableEq

namespace SettingsOption

def awaitsValue (option : SettingsOption) : Bool := option.pending == some none

/-- Settle a pending option: it needs a value, and may not stand twice. -/
def settle (option : SettingsOption) : Except UsageError SettingsOption :=
  match option.pending with
  | none => .ok option
  | some none => .error .missingValue
  | some (some value) =>
    if option.value.isSome then .error .repeatedOption else .ok ⟨some value, none⟩

def next (option : SettingsOption) (value : Option String) : Except UsageError SettingsOption :=
  option.settle.map fun settled => { settled with pending := some value }

end SettingsOption

/-- Read an option or a flag. `top` tells that no command stands before it. -/
def readLong (top : Bool) (option : SettingsOption) (name : String) (value : Option String) :
    Except UsageError SettingsOption :=
  let flag (wanted : UsageError) : Except UsageError SettingsOption :=
    if value.isSome then .error .needlessValue
    else
      match option.settle with
      | .error error => .error error
      | .ok _ => .error wanted
  if name = "config" then
    match option.next value with
    | .error error => .error error
    | .ok option => if value.isSome then option.settle else .ok option
  else if name = "help" then flag .helpWanted
  else if name = "version" ∧ top then flag .versionWanted
  else .error .unknownArgument

def readShort (top : Bool) (option : SettingsOption) (letter : Char) : UsageError :=
  let flag (wanted : UsageError) : UsageError :=
    match option.settle with
    | .error error => error
    | .ok _ => wanted
  if letter = 'h' then flag .helpWanted
  else if letter = 'V' ∧ top then flag .versionWanted
  else .unknownArgument

def afterCommand (option : SettingsOption) : List String → Except UsageError SettingsOption
  | [] => option.settle
  | argument :: rest =>
    match classify argument with
    | .divider => if rest.isEmpty then option.settle else .error .unknownArgument
    | .long name value =>
      match readLong false option name value with
      | .error error => .error error
      | .ok option => afterCommand option rest
    | .short letter => .error (readShort false option letter)
    | .word =>
      if option.awaitsValue then afterCommand { option with pending := some (some argument) } rest
      else .error .unknownArgument

def command? (word : String) : Option Command :=
  [Command.definitions, Command.controller].find? (·.name == word)

def helpCommand : String := "help"

/-- What the arguments behind the command for help come to: the path to a command, if any. -/
def help : List String → UsageError
  | [] => .helpWanted
  | [word] => if (command? word).isSome || word == helpCommand then .helpWanted else .unknownCommand
  | _ => .unknownCommand

/-- Why a word that stands where a command may stand is refused. -/
def refusal (divided : Bool) (word : String) : UsageError :=
  if divided && ((command? word).isSome || word == helpCommand) then .unknownArgument
  else .unknownCommand

/-- Read the arguments up to a command, and those behind it. -/
def beforeCommand (option : SettingsOption) : List String → Except UsageError Invocation
  | [] => option.settle.map fun option => ⟨none, option.value⟩
  | argument :: rest =>
    if !option.awaitsValue && argument == helpCommand then .error (help rest)
    else
      match (if option.awaitsValue then none else command? argument) with
      | some command =>
        match afterCommand {} rest with
        | .error error => .error error
        | .ok own => option.settle.map fun option => ⟨some command, own.value.or option.value⟩
      | none =>
        match classify argument with
        | .divider =>
          match rest with
          | [] => option.settle.map fun option => ⟨none, option.value⟩
          | word :: _ => .error (refusal true word)
        | .long name value =>
          match readLong true option name value with
          | .error error => .error error
          | .ok option => beforeCommand option rest
        | .short letter => .error (readShort true option letter)
        | .word =>
          if option.awaitsValue then
            beforeCommand { option with pending := some (some argument) } rest
          else .error (refusal false argument)

/-- What the arguments behind the program's name ask for, with the path that the environment
sets. -/
def parse (arguments : List String) (environmentPath : Option String) :
    Except UsageError Invocation :=
  (beforeCommand {} arguments).map fun invocation =>
    { invocation with settingsPath := invocation.settingsPath.or environmentPath }

end CommandLine

end CephExport
