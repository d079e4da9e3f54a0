import StageGate.Json

/-! The steps of a rule. -/
namespace StageGate

/-- A look-up in the store: records of one kind whose fields have the given values. -/
structure Query where
  entity : String
  filter : Fields Json
  storeAs : String

structure Condition where
  field : String
  operator : String
  value : Json

inductive Action
  | fetch (query : Query)
  | fetchList (query : Query)
  | assign (target : String) (value : Json)
  | measure (startDate endDate : String) (unit : Option String) (storeAs : String)
  | branch (condition : Condition) (yes no : List String)
  | loop (source item : String) (body : List String)
  | leaveLoop
  | nextItem
  | stop (status : Bool) (reason : Option String)
  | log (message : String) (level : Option String)

namespace Action

/-- The name of an action in rule documents. -/
def name : Action → String
  | fetch _ => "fetch"
  | fetchList _ => "fetchList"
  | assign _ _ => "assign"
  | measure _ _ _ _ => "calculateDuration"
  | branch _ _ _ => "if"
  | loop _ _ _ => "foreach"
  | leaveLoop => "break"
  | nextItem => "continue"
  | stop _ _ => "stop"
  | log _ _ => "log"

/-- The ids of the steps that an action dispatches to. -/
def stepIds : Action → List String
  | branch _ yes no => yes ++ no
  | loop _ _ body => body
  | _ => []

/-- The variable that an action names to be written. -/
def written? : Action → Option String
  | fetch query | fetchList query => some query.storeAs
  | assign target _ => some target
  | measure _ _ _ storeAs => some storeAs
  | loop _ item _ => some item
  | _ => none

end Action

structure Step where
  id : String
  next : Option String
  action : Action

/-- Every id a step refers to: the step after it, then those its action dispatches to. -/
def Step.references (step : Step) : List String :=
  step.next.toList ++ step.action.stepIds

end StageGate
