import StageGate.Binary64.Layout
import StageGate.Json.Flaw
import StageGate.Json.Misfit

/-! Everything that can go wrong, by cause, and how each cause is worded. -/
namespace StageGate

/-- Why two values have no order. -/
inductive Disorder
  | notANumber (actual expected : Binary64)
  | unorderedKind (kind : String)
  | againstNull

/-- Operands of the wrong kinds. -/
inductive Mismatch
  | order (actual expected : String)
  | span (startKind startPath endKind endPath : String)

/-- Faults of rule documents and data documents. -/
inductive DocumentFault
  | yaml
  | ruleNotObject
  | nameNotString (found : Json)
  | stepsNotList (rule : String)
  | stepsMissing (rule : String)
  | stepWithoutId (rule : String) (index : Nat)
  | stepWithoutAction (rule step : String)
  | badStep (rule step : String) (misfit : Misfit)
  | duplicateStep (rule step : String)
  | dataNotObject
  | kindNotList (kind : String)

inductive StoreFault
  | severalMatches (kind : String) (count : Nat)
  | recordNotObject
  | noId (field : String)
  | noState (id field : String)

inductive SettingsFault
  | blankState
  | duplicateState (name : String)
  | noStates
  | patternWithoutState (pattern : String)
  | blankSubjectKey
  | unknownPolicy (text : String)
  | misfit (misfit : Misfit)

inductive FileFault
  | missing
  | denied
  | occupied
  | notDirectory
  | isDirectory
  | nameTooLong
  | nameWithNull
  | notText
  | other (description : String)

inductive JsonFault
  | syntaxError (e : Json.SyntaxError)
  | misfit (misfit : Misfit)

inductive Error
  | invalidName (name : String)
  | notFound (name : String)
  | typeMismatch (cause : Mismatch)
  | notComparable (cause : Disorder)
  | unsupportedOperator (text : String)
  | unsupportedUnit (text : String)
  | unknownAction (step action : String)
  | entityNotFound (kind : String)
  | missingStart (rule : String)
  | danglingReference (rule step : String)
  | unknownState (name : String)
  | parse (fault : DocumentFault)
  | store (fault : StoreFault)
  | config (fault : SettingsFault)
  | io (fault : FileFault)
  | json (fault : JsonFault)

def Disorder.message : Disorder → String
  | notANumber a b => "cannot order " ++ a.toText ++ " and " ++ b.toText
  | unorderedKind kind => kind ++ " values have no ordering"
  | againstNull => "cannot order against null"

def Mismatch.message : Mismatch → String
  | order actual expected => "cannot order " ++ actual ++ " against " ++ expected
  | span startKind startPath endKind endPath =>
    "calculateDuration needs date-times, got " ++ startKind ++ " at '" ++ startPath ++ "' and " ++
      endKind ++ " at '" ++ endPath ++ "'"

def DocumentFault.message : DocumentFault → String
  | yaml => "not a YAML document"
  | ruleNotObject => "Rule document must be an object"
  | nameNotString found => "Rule name must be a string, got " ++ found.render
  | stepsNotList rule => "Rule '" ++ rule ++ "': 'steps' must be a list"
  | stepsMissing rule => "Rule '" ++ rule ++ "': missing 'steps'"
  | stepWithoutId rule index =>
    "Rule '" ++ rule ++ "': steps[" ++ toString index ++ "] has no string 'id'"
  | stepWithoutAction rule step => "Rule '" ++ rule ++ "': step '" ++ step ++ "' has no 'action'"
  | badStep rule step misfit =>
    "Rule '" ++ rule ++ "': step '" ++ step ++ "': " ++ misfit.message
  | duplicateStep rule step => "Rule '" ++ rule ++ "': duplicate step id '" ++ step ++ "'"
  | dataNotObject => "Data document must be an object of entity lists"
  | kindNotList kind => "Entity '" ++ kind ++ "' must be a list of records"

def StoreFault.message : StoreFault → String
  | severalMatches kind count =>
    "Expected at most one '" ++ kind ++ "' entity, found " ++ toString count
  | recordNotObject => "Subject record must be an object"
  | noId field => "Subject record has no '" ++ field ++ "' field"
  | noState id field => "Subject '" ++ id ++ "' has no string '" ++ field ++ "' field"

def SettingsFault.message : SettingsFault → String
  | blankState => "Empty workflow state name"
  | duplicateState name => "Duplicate workflow state: " ++ name
  | noStates => "At least one workflow state is required"
  | patternWithoutState pattern =>
    "Rule file pattern '" ++ pattern ++ "' must contain '\x7bstate\x7d'"
  | blankSubjectKey => "Subject key must not be empty"
  | unknownPolicy text =>
    "Unknown failure policy '" ++ text ++ "'. Expected fail_fast or isolate"
  | misfit m => m.message

def FileFault.message : FileFault → String
  | missing => "No such file or directory (os error 2)"
  | denied => "Permission denied (os error 13)"
  | occupied => "File exists (os error 17)"
  | notDirectory => "Not a directory (os error 20)"
  | isDirectory => "Is a directory (os error 21)"
  | nameTooLong => "File name too long (os error 36)"
  | nameWithNull => "file name contained an unexpected NUL byte"
  | notText => "stream did not contain valid UTF-8"
  | other description => description

def JsonFault.message : JsonFault → String
  | syntaxError e => e.message
  | misfit m => m.message

def Error.message : Error → String
  | invalidName name => "Invalid variable name: '" ++ name ++ "'"
  | notFound name => "Variable not found: " ++ name
  | typeMismatch cause => "Type mismatch: " ++ cause.message
  | notComparable cause => "Value is not comparable: " ++ cause.message
  | unsupportedOperator text => "Unsupported operator: " ++ text
  | unsupportedUnit text => "Unsupported duration unit: " ++ text
  | unknownAction step action => "Step '" ++ step ++ "': unknown action '" ++ action ++ "'"
  | entityNotFound kind => "Entity '" ++ kind ++ "' not found in store"
  | missingStart rule => "Rule '" ++ rule ++ "' has no 'start' step"
  | danglingReference rule step =>
    "Rule '" ++ rule ++ "': step '" ++ step ++ "' is referenced but not defined"
  | unknownState name => "Unknown workflow state: " ++ name
  | parse fault => "Parse error: " ++ fault.message
  | store fault => "Store error: " ++ fault.message
  | config fault => "Configuration error: " ++ fault.message
  | io fault => "I/O error: " ++ fault.message
  | json fault => "JSON error: " ++ fault.message

/-- An error that wraps another one repeats its text when causes are listed. -/
def Error.causes : Error → List String
  | io fault => [fault.message]
  | json fault => [fault.message]
  | _ => []

end StageGate
