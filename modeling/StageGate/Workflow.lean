import StageGate.Journey
import StageGate.Roster
import StageGate.Run
import StageGate.Settings.Policy
import StageGate.StateOrder

/-! Workflows: subjects move from state to state as long as the rules let them pass. Each run of a
rule has the same allowance for circles. -/
namespace StageGate

/-- `ruleFor` gives the rule of a state, if it has one. -/
structure Workflow where
  states : StateOrder
  ruleFor : String → Except Error (Option Rule)
  store : Store
  subjectKey : String
  policy : Policy

/-- The journal of a workflow, and the states whose rules it asked for. -/
structure Diary where
  journal : Journal
  asked : List String

def Diary.say (diary : Diary) (level : Level) (message : String) : Diary :=
  { diary with journal := diary.journal ++ [⟨.engine, level, message⟩] }

/-- A subject on its way. -/
structure Trip where
  subject : Subject
  transitions : Nat
  diary : Diary

abbrev Travel := Effect Trip

namespace Travel

open Effect

def say (level : Level) (message : String) : Travel Unit :=
  update fun trip => { trip with diary := trip.diary.say level message }

/-- The subject as far as it has come. -/
def traveller : Travel Subject := do
  return (← state).subject

def ask (state : String) : Travel Unit :=
  update fun trip => { trip with diary := { trip.diary with asked := trip.diary.asked ++ [state] } }

def moveTo (state : String) : Travel Unit :=
  update fun trip =>
    { trip with subject := trip.subject.moveTo state, transitions := trip.transitions + 1 }

end Travel

namespace Workflow

open Effect Travel

/-- Runs a rule on fresh variables that hold nothing but the subject. -/
def judge (w : Workflow) (allowance : Nat) (rule : Rule) : Travel Verdict := fun trip =>
  let (ending, session) :=
    rule.runWith w.store w.subjectKey trip.subject.project trip.diary.journal allowance
  (ending, { trip with diary := { trip.diary with journal := session.journal } })

/-- Moves the subject, as it stands, on to the state after its own. -/
def promote (w : Workflow) (subject : Subject) : Travel (Option Halt) := do
  match ← lift (w.states.successor subject.state) with
  | some next =>
    say .success ("Transitioning subject " ++ subject.id ++ " from state " ++ subject.state ++
      " to " ++ next)
    moveTo next
    return none
  | none =>
    say .info ("No next state found for subject " ++ subject.id ++ ". Final state reached.")
    return some .noSuccessor

/-- The rule of its state decides about the subject. -/
def hear (w : Workflow) (allowance : Nat) (subject : Subject) (rule : Rule) :
    Travel (Option Halt) := do
  say .info ("Executing rule '" ++ rule.name ++ "' for subject " ++ subject.id ++ " at state " ++
    subject.state)
  let verdict ← w.judge allowance rule
  say .debug ("Rule result for subject " ++ subject.id ++ ": Status=" ++ toString verdict.passed ++
    ", Reason='" ++ verdict.reason ++ "', CurrentState=" ++ subject.state)
  if verdict.passed then w.promote subject
  else
    say .info ("Rule failed for subject " ++ subject.id ++ " at state " ++ subject.state ++
      " with reason: " ++ verdict.reason ++ ". Exiting workflow loop.")
    return some (.rejected verdict.reason)

/-- One round at the state where the subject stands; it moves on unless it is halted. -/
def round (w : Workflow) (allowance : Nat) : Travel (Option Halt) := do
  let subject ← traveller
  if ← lift (w.states.isTerminal subject.state) then
    say .info ("Subject " ++ subject.id ++ " reached final state. Exiting workflow loop.")
    return some .terminal
  else
    ask subject.state
    match ← lift (w.ruleFor subject.state) with
    | some rule => w.hear allowance subject rule
    | none =>
      say .warn ("No rule for state " ++ subject.state ++ ". Exiting workflow for subject " ++
        subject.id ++ ".")
      return some .noRule

/-- One round after another, until one of them halts the subject. -/
def walk (w : Workflow) (allowance : Nat) : (rounds : Nat) → Travel Halt
  | 0 => unfinished
  | rounds + 1 => do
    match ← w.round allowance with
    | some halt => return halt
    | none => w.walk allowance rounds

/-- Moves the subject as far as its rules allow: no more rounds than there are states. -/
def travel (w : Workflow) (subject : Subject) (diary : Diary)
    (allowance : Nat := Rule.circleAllowance) : Ending Halt × Trip :=
  w.walk allowance w.states.names.length ⟨subject, 0, diary⟩

def journey (subject : Subject) (trip : Trip) (halt : Halt) : Journey :=
  ⟨subject.id, subject.state, trip.subject.state, halt, trip.transitions⟩

/-- One subject alone, outside of any batch. -/
def advance (w : Workflow) (subject : Subject) (diary : Diary)
    (allowance : Nat := Rule.circleAllowance) : Ending Journey × Trip :=
  match w.travel subject diary allowance with
  | (.done halt, trip) => (.done (journey subject trip halt), trip)
  | (.failed e, trip) => (.failed e, trip)
  | (.unfinished, trip) => (.unfinished, trip)

/-- What a batch leaves behind: also when it fails, subjects and diary are as far as they got. -/
structure BatchRun where
  ending : Ending (List Journey)
  subjects : List Subject
  diary : Diary

def BatchRun.after (journey : Journey) (subject : Subject) (run : BatchRun) : BatchRun where
  ending :=
    match run.ending with
    | .done journeys => .done (journey :: journeys)
    | .failed e => .failed e
    | .unfinished => .unfinished
  subjects := subject :: run.subjects
  diary := run.diary

/-- The subjects one after another, as the policy has it. -/
def runSubjects (w : Workflow) (subjects : List Subject) (diary : Diary)
    (allowance : Nat := Rule.circleAllowance) : BatchRun :=
  match subjects with
  | [] => ⟨.done [], [], diary⟩
  | subject :: rest =>
    let diary := diary.say .info ("Starting workflow for subject " ++ subject.id ++
      ", initial state: " ++ subject.state)
    let (ending, trip) := w.travel subject diary allowance
    match ending with
    | .done halt =>
      (w.runSubjects rest trip.diary allowance).after (journey subject trip halt) trip.subject
    | .failed e =>
      let diary := trip.diary.say .error ("Rule execution failed for subject " ++ subject.id ++
        " at state " ++ trip.subject.state ++ ": " ++ e.message)
      match w.policy with
      | .failFast => ⟨.failed e, trip.subject :: rest, diary⟩
      | .isolate =>
        (w.runSubjects rest diary allowance).after (journey subject trip (.failed e.message))
          trip.subject
    | .unfinished => ⟨.unfinished, trip.subject :: rest, trip.diary⟩

/-- Loads the subjects of the roster, runs them, and commits once in the end. A run that fails
leaves the store as it was. -/
def runRoster (w : Workflow) (roster : Roster) (diary : Diary)
    (allowance : Nat := Rule.circleAllowance) : Ending Report × Store × Diary :=
  match roster.load w.store with
  | .error e => (.failed e, w.store, diary)
  | .ok subjects =>
    let run := w.runSubjects subjects diary allowance
    match run.ending with
    | .failed e => (.failed e, w.store, run.diary)
    | .unfinished => (.unfinished, w.store, run.diary)
    | .done journeys =>
      match roster.commit run.subjects w.store with
      | .error e => (.failed e, w.store, run.diary)
      | .ok store =>
        (.done ⟨journeys⟩, store,
          run.diary.say .success "Workflow engine run completed and changes saved.")

end Workflow
end StageGate
