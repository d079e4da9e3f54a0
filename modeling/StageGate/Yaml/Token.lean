/-! The tokens of a YAML document. Indentation shows as collections that open and close. The bytes
of a tag need not make up a text. -/
namespace StageGate.Yaml

inductive Token
  | documentStart
  | documentEnd
  | version (major minor : Nat)
  | tagDirective (handle : String) (lead : List UInt8)
  | openBlockSequence
  | openBlockMapping
  | closeBlock
  | openFlowSequence
  | closeFlowSequence
  | openFlowMapping
  | closeFlowMapping
  | blockEntry
  | flowEntry
  | key
  | value
  | anchor (name : String)
  | alias (name : String)
  | tag (handle : String) (rest : List UInt8)
  | scalar (plain : Bool) (text : String)
deriving DecidableEq

end StageGate.Yaml
