import StageGate.Settings.Policy

/-! The commands. -/
namespace StageGate

/-- What a run is told besides the settings of the environment. A missing target means that the data
file is written over. The seconds that a batch may take are read, but there is no clock that could
end it. -/
structure RunOptions where
  data : String
  rules : Option String
  states : Option (List String)
  policy : Option Policy
  output : Option String
  logDir : Option String
  seconds : Option Nat

inductive Command
  /-- Moves every subject of a data file through the workflow. -/
  | run (options : RunOptions)
  /-- Reads rule files and reports references to steps that they do not have. -/
  | check (files : List String)
  /-- Runs one rule for one subject. -/
  | eval (rule subject : String) (data : Option String)

end StageGate
