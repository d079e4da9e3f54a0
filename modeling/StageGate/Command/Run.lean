import StageGate.Command
import StageGate.Command.Check
import StageGate.Command.Eval
import StageGate.StateTree
import StageGate.Workflow

/-! A whole data file through the workflow. -/
namespace StageGate

/-- The settings with what the options say instead. -/
def Settings.override (settings : Settings) (options : RunOptions) : Settings :=
  { settings with
    rulesDir := options.rules.getD settings.rulesDir
    states := options.states.getD settings.states
    policy := options.policy.getD settings.policy
    logDir := options.logDir.getD settings.logDir }

def Settings.roster (settings : Settings) : Roster :=
  ⟨settings.subjectKind, settings.idField, settings.stateField⟩

/-- The lines of a journal, each behind the time. -/
def Journal.text (lead : String) (journal : Journal) : String :=
  "\n".intercalate (journal.map fun line => lead ++ line.render) ++ "\n"

namespace Batch

variable {m : Type → Type} [Monad m]

/-- A computation that keeps a journal; a failure leaves it as it is. -/
abbrev Chronicle (m : Type → Type) := ExceptT Failure (StateT Journal m)

def say (level : Level) (message : String) : Chronicle m Unit :=
  modifyGet fun journal => ((), journal ++ [⟨.engine, level, message⟩])

/-- Fails with what the error turns into. -/
def settle {ε α : Type} (f : ε → Failure) : Except ε α → Chronicle m α
  | .ok a => pure a
  | .error e => throw (f e)

def fetch {α : Type} (x : m α) : Chronicle m α :=
  liftM (liftM x : StateT Journal m α)

def finish {α : Type} : Ending α → Chronicle m α
  | .done a => pure a
  | .failed e => throw (.ofError e)
  | .unfinished => throw (.ofMessage "The workflow does not come to an end")

/-- What is printed on a batch: the tree of its subjects, and the summary. -/
def print (settings : Settings) (store : Store) (report : Report) : Except Error String := do
  let records ← store.records settings.subjectKind
  return StateTree.render settings.idField settings.stateField settings.states records ++
    report.summary

/-- Reads the data, runs the workflow on it and writes the data back. There is no clock; the error
that the workflow batch timed out, which comes before anything is written, is left out. -/
def process (disk : Disk m) (settings : Settings) (options : RunOptions) : Chronicle m String := do
  let store ← settle id (← fetch (disk.readData options.data))
  let states ← settle Failure.ofError (StateOrder.ofList settings.states)
  let rules ← fetch (disk.readRules settings states.names)
  let workflow : Workflow := {
    states
    ruleFor := fun state => (rules.lookup state).getD (.ok none)
    store
    subjectKey := settings.subjectKey
    policy := settings.policy }
  let (ending, store, diary) := workflow.runRoster settings.roster ⟨← get, []⟩
  set diary.journal
  let report ← finish ending
  say .info "=== Workflow execution completed ==="
  let target := options.output.getD options.data
  settle (fun e => (Failure.ofError e).during ("Failed to write data file " ++ target))
    (← fetch (disk.writeStore target store))
  settle Failure.ofError (print settings store report)

/-- Saves the journal and tells where; if that is not possible, it tells nothing. -/
def saveJournal (s : Surroundings m) (settings : Settings) (journal : Journal) : m String := do
  let name := FileName.join settings.logDir ("WorkflowLog-" ++ s.stamp.fileName ++ ".log")
  let made ← if settings.logDir = "" then pure (.ok ()) else s.disk.makeDirectory settings.logDir
  match made with
  | .error _ => return ""
  | .ok () =>
    match ← s.disk.write name (journal.text s.stamp.lineLead) with
    | .ok () => return "Log file saved to: " ++ name ++ "\n"
    | .error _ => return ""

def run (s : Surroundings m) (options : RunOptions) : m Answer := do
  match loadSettings s.environment with
  | .error failure => return ⟨"", some failure⟩
  | .ok settings =>
    let settings := settings.override options
    let start : Journal := [⟨.engine, .info, "=== Workflow Engine Started ==="⟩]
    let (result, journal) ← (process s.disk settings options).run.run start
    match result with
    | .ok output =>
      let saved ← saveJournal s settings journal
      return ⟨output ++ saved, none⟩
    | .error failure =>
      let journal := journal ++
        [⟨.engine, .error, "Unexpected error in workflow engine: " ++ failure.chain⟩]
      let saved ← saveJournal s settings journal
      return ⟨saved, some failure⟩

end Batch

/-- Carries out a command. -/
def Command.perform {m : Type → Type} [Monad m] (s : Surroundings m) : Command → m Answer
  | .run options => Batch.run s options
  | .check files => Check.run s.disk files
  | .eval rule subject data => Eval.run s rule subject data

end StageGate
