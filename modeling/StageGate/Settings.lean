import StageGate.Settings.Policy
import StageGate.Text.Hole

/-! Settings of a workflow, and how variables of the environment give them. -/
namespace StageGate

structure Settings where
  rulesDir : String
  rulePattern : String
  states : List String
  subjectKind : String
  subjectKey : String
  idField : String
  stateField : String
  policy : Policy
  logDir : String

namespace Settings

def standard : Settings where
  rulesDir := "rules"
  rulePattern := "Rule-\x7bstate\x7d.json"
  states := ["A", "B", "Final"]
  subjectKind := "People"
  subjectKey := "subject"
  idField := "Id"
  stateField := "CurrentState"
  policy := .failFast
  logDir := "logs"

/-- The parts of the pattern around the places for the state. -/
def patternPieces (settings : Settings) : List (List Char) :=
  Text.piecesAround '\x7b' ['s', 't', 'a', 't', 'e', '\x7d'] settings.rulePattern.toList

/-- The name of the rule file of a state. -/
def ruleFileName (settings : Settings) (state : String) : String :=
  String.ofList (Text.fill state.toList settings.patternPieces)

/-- What reading the single settings leaves open. -/
def validate (settings : Settings) : Except Error Unit :=
  if settings.patternPieces.length < 2 then
    .error (.config (.patternWithoutState settings.rulePattern))
  else if Text.isBlank settings.subjectKey then .error (.config .blankSubjectKey)
  else .ok ()

theorem patternPieces_standard : standard.patternPieces = ["Rule-".toList, ".json".toList] := by
  change Text.piecesAround _ _ ['R', 'u', 'l', 'e', '-', '\x7b', 's', 't', 'a', 't', 'e', '\x7d',
    '.', 'j', 's', 'o', 'n'] = _
  simp [Text.piecesAround, Text.afterLead]

theorem validate_standard : standard.validate = .ok () := by
  rw [validate, patternPieces_standard]
  rfl

def readStates (text : String) : List String :=
  if text = "" then [] else Text.split ',' text

/-- Gives one setting its value; other names are no settings. -/
def assign? (name value : String) (s : Settings) : Option (Except Misfit Settings) :=
  match name with
  | "rules_dir" => some (.ok { s with rulesDir := value })
  | "rule_file_pattern" => some (.ok { s with rulePattern := value })
  | "states" => some (.ok { s with states := readStates value })
  | "subject_kind" => some (.ok { s with subjectKind := value })
  | "subject_key" => some (.ok { s with subjectKey := value })
  | "id_field" => some (.ok { s with idField := value })
  | "state_field" => some (.ok { s with stateField := value })
  | "failure_policy" =>
    match Policy.named? value with
    | some policy => some (.ok { s with policy })
    | none => some (.error (.unknownVariant value (Policy.all.map Policy.name)))
  | "log_dir" => some (.ok { s with logDir := value })
  | _ => none

/-- What the names of all settings in the environment begin with. -/
def lead : List Char := "STATEFLOW_".toList

/-- The name of a setting: the lead is taken off, as often as it is there, and case does not
count. -/
def settingName? (key : String) : Option String :=
  match Text.stripLeads lead key.toList with
  | (0, _) => none
  | (_, rest) => some (Text.lower (String.ofList rest))

def assignAll (seen : List String) : List (String × String) → Settings → Except Misfit Settings
  | [], s => .ok s
  | (key, value) :: pairs, s =>
    match settingName? key with
    | none => assignAll seen pairs s
    | some name =>
      match assign? name value s with
      | none => assignAll seen pairs s
      | some changed =>
        if name ∈ seen then .error (.duplicateField name)
        else do assignAll (name :: seen) pairs (← changed)

/-- The standard settings, as far as the pairs do not change them. -/
def ofPairs (pairs : List (String × String)) : Except Error Settings :=
  match assignAll [] pairs standard with
  | .error misfit => .error (.config (.misfit misfit))
  | .ok settings => do
    settings.validate
    return settings

end Settings
end StageGate
