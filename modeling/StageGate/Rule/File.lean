import StageGate.FileName
import StageGate.Json.Reader
import StageGate.Rule.Decode
import StageGate.Yaml

/-! Rules in files. -/
namespace StageGate.Rule

/-- Whether the extension says that a document is written as YAML. -/
def isYamlFile (name : String) : Bool :=
  (FileName.extension? name).any fun extension =>
    Text.sameIgnoringCase extension "yaml" || Text.sameIgnoringCase extension "yml"

def ofYaml (text : String) (fallback : Option String) : Except Error Rule :=
  match Yaml.read text with
  | some document => ofJson document fallback
  | none => .error (.parse .yaml)

def ofJsonText (text : String) (fallback : Option String) : Except Error Rule :=
  match Json.parse text with
  | .ok document => ofJson document fallback
  | .error e => .error (.json (.syntaxError e))

/-- A rule without a name of its own is named after its file. -/
def ofFile (name text : String) : Except Error Rule :=
  if isYamlFile name then ofYaml text (FileName.stem? name)
  else ofJsonText text (FileName.stem? name)

end StageGate.Rule
