import CephExport.Json.Basic

/-!
JSON values as compact text: quotes, backslashes and control characters are escaped and all other
characters are written as they are.
-/

set_option autoImplicit false
set_option relaxedAutoImplicit false

namespace CephExport.Json

private def hexDigit (n : Nat) : Char := (Nat.digitChar n)

def escape (c : Char) : List Char :=
  if c = '"' then ['\\', '"']
  else if c = '\\' then ['\\', '\\']
  else if c = '\n' then ['\\', 'n']
  else if c = '\r' then ['\\', 'r']
  else if c = '\t' then ['\\', 't']
  else if c = Char.ofNat 8 then ['\\', 'b']
  else if c = Char.ofNat 12 then ['\\', 'f']
  else if c.toNat < 32 then ['\\', 'u', '0', '0', hexDigit (c.toNat / 16), hexDigit (c.toNat % 16)]
  else [c]

def quoteString (s : String) : String :=
  "\"" ++ String.ofList (s.toList.flatMap escape) ++ "\""

def printNumber : JsonNumber → String
  | .integer value => toString value
  | .real value => value.render Double.jsonLayout

def print : Json → String
  | .null | .unreadable => "null"
  | .bool true => "true"
  | .bool false => "false"
  | .number value => printNumber value
  | .string value => quoteString value
  | .array items => "[" ++ String.intercalate "," (printItems items) ++ "]"
  | .object members => "\x7b" ++ String.intercalate "," (printMembers members) ++ "\x7d"
where
  printItems : List Json → List String
    | [] => []
    | item :: rest => print item :: printItems rest
  printMembers : Members → List String
    | [] => []
    | (key, value) :: rest => (quoteString key ++ ":" ++ print value) :: printMembers rest

end CephExport.Json
