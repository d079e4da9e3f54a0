import StageGate.Json.Printer
import StageGate.Text.Quote

/-! Documents that do not have the shape asked for. -/
namespace StageGate

inductive Misfit
  | wrongType (found : Json) (expected : String)
  | wrongValue (found : Json) (expected : String)
  | wrongLength (found : Nat) (expected : String)
  | missingField (name : String)
  | duplicateField (name : String)
  | unknownVariant (found : String) (known : List String)
  | noVariant (family : String)
  | notStatus (text : String)

/-- How a part of a document is named in a message: its type, and its content if it is plain. -/
def Json.describe : Json → String
  | .null => "null"
  | .bool b => "boolean `" ++ (Json.bool b).render ++ "`"
  | .whole n => "integer `" ++ toString n.val ++ "`"
  | .float x => "floating point `" ++ x.toText ++ "`"
  | .string s => "string " ++ Text.quote s
  | .array _ => "sequence"
  | .object _ => "map"

def inTicks (s : String) : String :=
  "`" ++ s ++ "`"

def alternatives : List String → String
  | [] => "nothing"
  | [a] => inTicks a
  | [a, b] => inTicks a ++ " or " ++ inTicks b
  | names => "one of " ++ ", ".intercalate (names.map inTicks)

def Misfit.message : Misfit → String
  | wrongType found expected => "invalid type: " ++ found.describe ++ ", expected " ++ expected
  | wrongValue found expected => "invalid value: " ++ found.describe ++ ", expected " ++ expected
  | wrongLength found expected =>
    "invalid length " ++ toString found ++ ", expected " ++ expected
  | missingField name => "missing field " ++ inTicks name
  | duplicateField name => "duplicate field " ++ inTicks name
  | unknownVariant found known =>
    "unknown variant " ++ inTicks found ++ ", expected " ++ alternatives known
  | noVariant family => "data did not match any variant of untagged enum " ++ family
  | notStatus text => "'" ++ text ++ "' is not a valid status"

end StageGate
