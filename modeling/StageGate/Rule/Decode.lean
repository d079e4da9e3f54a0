import StageGate.Json.Reading
import StageGate.Rule
import StageGate.Text.Blank

/-! Reading rules out of documents. -/
namespace StageGate.Rule

open Json

/-- A status may be a boolean, its name in any case, a number, or nothing. -/
def status : Reading Bool
  | .null => .ok false
  | .bool b => .ok b
  | .whole n => .ok (n.val != 0)
  | .float x => .ok !x.isZero
  | .string s =>
    let word := Text.asciiLower (Text.trim s)
    if word = "true" then .ok true
    else if word = "false" then .ok false
    else .error (.notStatus s)
  | .array _ | .object _ => .error (.noVariant "Raw")

/-- An object, or a list of the three parts in order, of which the last may be left out. -/
def condition : Reading Condition
  | .object fields => do
    let field ← given fields "field" asText
    let operator ← given fields "operator" asText
    let value ← given fields "value" asIs
    return ⟨← required "field" field, ← required "operator" operator, value.getD .null⟩
  | .array items => do
    let short := "struct Condition with 3 elements"
    match items with
    | [] => throw (.wrongLength 0 short)
    | [field] =>
      let _ ← asText field
      throw (.wrongLength 1 short)
    | [field, operator] => return ⟨← asText field, ← asText operator, .null⟩
    | [field, operator, value] => return ⟨← asText field, ← asText operator, value⟩
    | field :: operator :: _ =>
      let _ ← asText field
      let _ ← asText operator
      throw (.wrongLength items.length "3 elements in sequence")
  | found => .error (.wrongType found "struct Condition")

def query (fields : Fields Json) : Except Misfit Query := do
  let entity ← given fields "entity" asText
  let filter ← given fields "filter" asFields
  let storeAs ← given fields "storeAs" asText
  return ⟨← required "entity" entity, filter.getD [], ← required "storeAs" storeAs⟩

def assignment (fields : Fields Json) : Except Misfit Action := do
  let value ← given fields "value" asIs
  let target ← given fields "variable" asText
  return .assign (← required "variable" target) (value.getD .null)

def measurement (fields : Fields Json) : Except Misfit Action := do
  let endDate ← given fields "endDate" asText
  let startDate ← given fields "startDate" asText
  let storeAs ← given fields "storeAs" asText
  let unit ← given fields "unit" (asOptional asText)
  return .measure (← required "startDate" startDate) (← required "endDate" endDate)
    unit.join (← required "storeAs" storeAs)

def branching (fields : Fields Json) : Except Misfit Action := do
  let condition ← given fields "condition" condition
  let no ← given fields "else" (asList asText)
  let yes ← given fields "then" (asList asText)
  return .branch (← required "condition" condition) (yes.getD []) (no.getD [])

def looping (fields : Fields Json) : Except Misfit Action := do
  let body ← given fields "body" (asList asText)
  let source ← given fields "source" asText
  let item ← given fields "var" asText
  return .loop (← required "source" source) (← required "var" item) (body.getD [])

def stopping (fields : Fields Json) : Except Misfit Action := do
  let reason ← given fields "reason" (asOptional asText)
  let status ← given fields "status" status
  return .stop (status.getD false) reason.join

def logging (fields : Fields Json) : Except Misfit Action := do
  let level ← given fields "level" (asOptional asText)
  let message ← given fields "message" asText
  return .log (← required "message" message) level.join

/-- How each known action reads its fields. -/
def action? (name : String) : Option (Fields Json → Except Misfit Action) :=
  match name with
  | "fetch" => some fun fields => .fetch <$> query fields
  | "fetchList" => some fun fields => .fetchList <$> query fields
  | "assign" => some assignment
  | "calculateDuration" => some measurement
  | "if" => some branching
  | "foreach" => some looping
  | "break" => some fun _ => .ok .leaveLoop
  | "continue" => some fun _ => .ok .nextItem
  | "stop" => some stopping
  | "log" => some logging
  | _ => none

/-- The step at `index`, for the rule called `rule`. -/
def readStep (rule : String) (index : Nat) (raw : Json) : Except Error Step := do
  let some id := ((raw.field? "id").bind Json.string?).filter (!Text.isBlank ·)
    | throw (.parse (.stepWithoutId rule index))
  let some name := (raw.field? "action").bind Json.string?
    | throw (.parse (.stepWithoutAction rule id))
  let some read := action? name
    | throw (.unknownAction id name)
  match raw with
  | .object fields =>
    let step : Except Misfit Step := do
      let next ← given fields "next" (asOptional asText)
      return ⟨id, next.join, ← read fields⟩
    step.mapError fun misfit => .parse (.badStep rule id misfit)
  | _ => throw (.parse (.stepWithoutId rule index))

def readSteps (rule : String) : Nat → List Json → Except Error (List Step)
  | _, [] => .ok []
  | index, raw :: raws => do
    return (← readStep rule index raw) :: (← readSteps rule (index + 1) raws)

/-- The rule's own name; without one, or with a blank one, the fallback. -/
def readName (fallback : Option String) (fields : Fields Json) : Except Error String :=
  match Fields.find? fields "name" with
  | none | some .null => .ok (fallback.getD "rule")
  | some (.string name) => .ok (if Text.isBlank name then fallback.getD "rule" else name)
  | some found => .error (.parse (.nameNotString found))

def ofJson (document : Json) (fallback : Option String) : Except Error Rule :=
  match document with
  | .object fields => do
    let name ← readName fallback fields
    match Fields.find? fields "steps" with
    | some (.array raws) => ofSteps name (← readSteps name 0 raws)
    | some _ => throw (.parse (.stepsNotList name))
    | none => throw (.parse (.stepsMissing name))
  | _ => throw (.parse .ruleNotObject)

end StageGate.Rule
