import CephExport.Json.Printer
import CephExport.Yaml.Plain
import CephExport.Yaml.Resolution

/-!
Writing JSON values as YAML blocks. A string stands without quotes only where it would be read back
as the same string.
-/

set_option autoImplicit false
set_option relaxedAutoImplicit false

namespace CephExport.Yaml

def legacyFlags : List String :=
  ["y", "Y", "yes", "Yes", "YES", "n", "N", "no", "No", "NO", "on", "On", "ON", "off", "Off", "OFF"]

def readsBack (text : List Char) : Bool :=
  startsPlain false text && !atAnyMark text && !legacyFlags.contains (String.ofList text) &&
    (match plain? false 0 0 .none [] text with
      | some read => read.text == text && read.rest.isEmpty
      | none => false) &&
    match plainValue text with
    | .text _ => true
    | _ => false

def needsEscapes (text : List Char) : Bool := text.any fun c => c.toNat < 32 || c.toNat == 127

def printString (text : String) : String :=
  if needsEscapes text.toList then Json.print (.string text)
  else if readsBack text.toList then text
  else "'" ++ String.ofList (text.toList.flatMap fun c => if c = '\'' then ['\'', '\''] else [c]) ++
    "'"

/-- The text of a value that fits into a line: no members and no items. -/
def printLeaf? : Json → Option String
  | .string text => some (printString text)
  | .array (_ :: _) => none
  | .object (_ :: _) => none
  | value => some value.print

def itemLines : List String → List String
  | [] => []
  | first :: rest => ("- " ++ first) :: rest.map ("  " ++ ·)

/-- The lines of a value. The items of a sequence under a key stand at the column of the key. -/
def printLines : Json → List String
  | .array (first :: rest) => sequenceLines (first :: rest)
  | .object (first :: rest) => mappingLines (first :: rest)
  | value => [(printLeaf? value).getD ""]
where
  sequenceLines : List Json → List String
    | [] => []
    | item :: rest => itemLines (printLines item) ++ sequenceLines rest
  mappingLines : Members → List String
    | [] => []
    | (key, value) :: rest =>
      let lines := printLines value
      let written := match printLeaf? value, value with
        | some text, _ => [printString key ++ ": " ++ text]
        | none, .array _ => (printString key ++ ":") :: lines
        | none, _ => (printString key ++ ":") :: lines.map ("  " ++ ·)
      written ++ mappingLines rest

/-- A document with its mark, each line with its end. -/
def printDocument (value : Json) : String :=
  String.join (("---" :: printLines value).map (· ++ "\n"))

end CephExport.Yaml
