import StageGate.Error
import StageGate.Rule.Step

/-! Rules: named step graphs with an entry. -/
namespace StageGate

/-- The id of the step at which every rule starts. -/
def startId : String := "start"

/-- Steps stay in the order of the document. -/
structure Rule where
  name : String
  steps : List Step
  distinct : (steps.map Step.id).Nodup
  starts : startId ∈ steps.map Step.id

namespace Rule

/-- The first id that an earlier one equals. -/
def repeated? : List String → Option String
  | ids => go [] ids
where
  go (seen : List String) : List String → Option String
    | [] => none
    | id :: ids => if id ∈ seen then some id else go (id :: seen) ids

def ofSteps (name : String) (steps : List Step) : Except Error Rule :=
  if distinct : (steps.map Step.id).Nodup then
    if starts : startId ∈ steps.map Step.id then .ok ⟨name, steps, distinct, starts⟩
    else .error (.missingStart name)
  else .error (.parse (.duplicateStep name ((repeated? (steps.map Step.id)).getD "")))

def step? (rule : Rule) (id : String) : Option Step :=
  rule.steps.find? (·.id == id)

/-- A step about to run. -/
def step (rule : Rule) (id : String) : Except Error Step :=
  match rule.step? id with
  | some step => .ok step
  | none => .error (.danglingReference rule.name id)

def size (rule : Rule) : Nat :=
  rule.steps.length

/-- References to steps that the rule does not have, each with the step that makes it. -/
def dangling (rule : Rule) : List (String × String) :=
  rule.steps.flatMap fun step =>
    (step.references.filter fun id => (rule.step? id).isNone).map (step.id, ·)

end Rule
end StageGate
