import CephExport.Text.Printable

/-!
Quoted text in messages and logs: in double quotes, with quotes, backslashes and what cannot be
shown escaped.
-/

set_option autoImplicit false
set_option relaxedAutoImplicit false

namespace CephExport.Text

/-- The escaped form of one character: a backslash and a letter where there is one, and otherwise
the code point in hexadecimal in braces. -/
def quotedChar (c : Char) : List Char :=
  if c = '"' then ['\\', '"']
  else if c = '\\' then ['\\', '\\']
  else if c = '\n' then ['\\', 'n']
  else if c = '\r' then ['\\', 'r']
  else if c = '\t' then ['\\', 't']
  else if c = Char.ofNat 0 then ['\\', '0']
  else if isPrintable c then [c]
  else ['\\', 'u', '\x7b'] ++ Nat.toDigits 16 c.toNat ++ ['\x7d']

def quoted (text : String) : String :=
  "\"" ++ String.ofList (text.toList.flatMap quotedChar) ++ "\""

end CephExport.Text
