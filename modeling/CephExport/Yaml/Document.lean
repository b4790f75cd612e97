import CephExport.Yaml.Node.Reader
import CephExport.Yaml.Resolution
import CephExport.Yaml.Token.Lexer

/-!
Reading YAML documents: characters make tokens, tokens make nodes, and nodes stand for values.
-/

set_option autoImplicit false
set_option relaxedAutoImplicit false

namespace CephExport.Yaml

def read? (text : String) : Option Settings.Value :=
  (((characters? text).bind Token.all?).bind Document.ofTokens?).bind Document.table?

end CephExport.Yaml
