import StageGate.Rule

/-! Rules as documents. Every field is written, also those that may be left out. -/
namespace StageGate

def textOrNull : Option String → Json
  | some s => .string s
  | none => .null

def textList (ss : List String) : Json :=
  .array (ss.map .string)

def Condition.toJson (c : Condition) : Json :=
  .object [("field", .string c.field), ("operator", .string c.operator), ("value", c.value)]

def Query.fields (q : Query) : List (String × Json) :=
  [("entity", .string q.entity), ("filter", .object q.filter), ("storeAs", .string q.storeAs)]

def Action.fields : Action → List (String × Json)
  | fetch query | fetchList query => query.fields
  | assign target value => [("value", value), ("variable", .string target)]
  | measure startDate endDate unit storeAs =>
    [("endDate", .string endDate), ("startDate", .string startDate), ("storeAs", .string storeAs),
      ("unit", textOrNull unit)]
  | branch condition yes no =>
    [("condition", condition.toJson), ("else", textList no), ("then", textList yes)]
  | loop source item body =>
    [("body", textList body), ("source", .string source), ("var", .string item)]
  | leaveLoop | nextItem => []
  | stop status reason => [("reason", textOrNull reason), ("status", .bool status)]
  | log message level => [("level", textOrNull level), ("message", .string message)]

def Step.toJson (step : Step) : Json :=
  .object (Fields.ofList
    (("action", .string step.action.name) :: ("id", .string step.id) ::
      ("next", textOrNull step.next) :: step.action.fields))

def Rule.toJson (rule : Rule) : Json :=
  .object [("name", .string rule.name), ("steps", .array (rule.steps.map Step.toJson))]

end StageGate
