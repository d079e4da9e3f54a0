import StageGate.Yaml.Node.Reader
import StageGate.Yaml.Token.Lexer

/-! Data written as YAML. -/
namespace StageGate.Yaml

/-- The data of a text that is one YAML document. -/
def read (text : String) : Option Json := do
  (← Document.ofTokens? (← Token.ofText? (← cleanText text))).toJson?

end StageGate.Yaml
