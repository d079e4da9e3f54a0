import StageGate.DateTime.SpanUnit
import StageGate.Effect
import StageGate.Journal
import StageGate.Rule
import StageGate.Run.Message
import StageGate.Store

/-! Running rules. A chain follows the steps from one to the next; branches and loop bodies run each
of their steps as a chain of its own. -/
namespace StageGate

/-- How a step or a chain ends. -/
inductive Signal
  | proceed
  | leaveLoop
  | nextItem
  | stop
deriving DecidableEq

/-- What a run goes through: steps, what they write into variables, items bound by loops, the bodies
started for them, and signals looked at and lowered. -/
inductive Event
  | executed (step : Step)
  | wrote (name : String) (v : Value)
  | bound (name : String) (item : Value)
  | entered (id : String)
  | took (signal : String)

/-- Events stand the latest first. -/
structure Session where
  vars : Variables
  journal : Journal
  events : List Event

namespace Session

def push (s : Session) (event : Event) : Session :=
  { s with events := event :: s.events }

def say (s : Session) (line : Line) : Session :=
  { s with journal := s.journal ++ [line] }

def write (s : Session) (name : String) (v : Value) : Session :=
  { s with vars := s.vars.put name v, events := .wrote name v :: s.events }

/-- The signal is down afterwards. -/
def take (s : Session) (signal : String) : Session :=
  { s with vars := (s.vars.takeSignal signal).2, events := .took signal :: s.events }

end Session

abbrev Exec := Effect Session

namespace Exec

open Effect

def record (event : Event) : Exec Unit :=
  update (·.push event)

def say (speaker : Speaker) (level : Level) (message : String) : Exec Unit :=
  update (·.say ⟨speaker, level, message⟩)

/-- What the variables give. -/
def look {α : Type} (f : Variables → α) : Exec α := do
  return f (← state).vars

def assign (name : String) (v : Value) : Exec Unit := do
  let _ ← lift (← look (·.set name v))
  update (·.write name v)

/-- Reads and lowers a signal; no step writes that. -/
def takeSignal (signal : String) : Exec Bool := do
  let raised ← look (·.isRaised signal)
  update (·.take signal)
  return raised

end Exec

open Effect Exec

def Query.resolve (query : Query) (vars : Variables) : Filter :=
  query.filter.map fun (field, raw) => (field, vars.evaluate (.ofJson raw))

/-- A text that starts with `@`, or has a dot in it, is a path. -/
def assignedValue (raw : Json) (vars : Variables) : Value :=
  match Value.ofJson raw with
  | .string s =>
    if s.toList.head? = some '@' then vars.evaluate (.string s)
    else if '.' ∈ s.toList then vars.resolve s
    else .string s
  | literal => literal

def measuredSpan (startPath endPath : String) (unit : Option String) (vars : Variables) :
    Except Error Value :=
  match vars.resolve startPath, vars.resolve endPath with
  | .dateTime start, .dateTime finish => do
    let unit ← match unit with
      | some name => SpanUnit.read name
      | none => .ok .days
    return .int (Int64.ofInt (start.between finish unit))
  | start, finish => .error (.typeMismatch (.span start.kind startPath finish.kind endPath))

def Condition.holds (condition : Condition) (vars : Variables) : Except Error Bool :=
  (vars.resolve condition.field).test condition.operator
    (vars.evaluate (.ofJson condition.value))

/-- The steps of a branch, each as a chain. Only a stop leaves the branch early; the signal of a
loop stays raised for the loop to see. -/
def runBranch (chain : String → Exec Signal) : List String → Exec Signal
  | [] => return .proceed
  | id :: ids => do
    if (← chain id) = .stop then return .stop
    runBranch chain ids

/-- What a chain means to the loop around it: how it ended, else the signals it left raised. -/
def Signal.orRaised (signal : Signal) (left skipped : Bool) : Signal :=
  match signal with
  | .proceed => if left then .leaveLoop else if skipped then .nextItem else .proceed
  | signal => signal

/-- One step of a loop's body as a chain; afterwards both signals are down. -/
def runTurn (chain : String → Exec Signal) (id : String) : Exec Signal := do
  record (.entered id)
  let signal ← chain id
  let left ← takeSignal Variables.breakName
  let skipped ← takeSignal Variables.continueName
  return signal.orRaised left skipped

/-- The body of a loop, for one item. -/
def runBody (chain : String → Exec Signal) : List String → Exec Signal
  | [] => return .proceed
  | id :: ids => do
    match ← runTurn chain id with
    | .proceed => runBody chain ids
    | signal => return signal

def runItems (chain : String → Exec Signal) (name : String) (body : List String) :
    List Value → Exec Signal
  | [] => return .proceed
  | item :: items => do
    assign name item
    record (.bound name item)
    match ← runBody chain body with
    | .stop => return .stop
    | .leaveLoop => return .proceed
    | .nextItem | .proceed => runItems chain name body items

/-- The items are those of the source as the loop finds it. What is no list has none. -/
def runLoop (chain : String → Exec Signal) (source name : String) (body : List String) :
    Exec Signal := do
  match ← look (·.resolve source) with
  | .list items => runItems chain name body items
  | _ => return .proceed

def defaultStopReason : String := "Stopped by rule"

/-- One action; `chain` runs a chain from a step on. -/
def runAction (store : Store) (chain : String → Exec Signal) : Action → Exec Signal
  | .fetch query => do
    let found ← lift (store.fetchOne query.entity (← look query.resolve))
    assign query.storeAs found
    return .proceed
  | .fetchList query => do
    let found ← lift (store.fetchList query.entity (← look query.resolve))
    assign query.storeAs (.list found)
    return .proceed
  | .assign target value => do
    assign target (← look (assignedValue value))
    return .proceed
  | .measure startDate endDate unit storeAs => do
    assign storeAs (← lift (← look (measuredSpan startDate endDate unit)))
    return .proceed
  | .branch condition yes no => do
    let holds ← lift (← look condition.holds)
    runBranch chain (if holds then yes else no)
  | .loop source item body => runLoop chain source item body
  | .leaveLoop => do
    assign Variables.breakName (.bool true)
    return .leaveLoop
  | .nextItem => do
    assign Variables.continueName (.bool true)
    return .nextItem
  | .stop status reason => do
    assign Variables.statusName (.bool status)
    assign Variables.reasonName (.string (reason.getD defaultStopReason))
    return .stop
  | .log message level => do
    say .rule ((level.map Level.read).getD .info) (← look (Message.render · message))
    return .proceed

/-- The chain from a step on; `depth` bounds how many steps deep it goes. -/
def runChain (rule : Rule) (store : Store) : (depth : Nat) → String → Exec Signal
  | 0, _ => unfinished
  | depth + 1, id => do
    let step ← lift (rule.step id)
    record (.executed step)
    match ← runAction store (runChain rule store depth) step.action with
    | .proceed =>
      match step.next with
      | some next => runChain rule store depth next
      | none => return .proceed
    | signal => return signal

/-- The loop keyword that reached the end of the rule without a loop around it. -/
def strayKeyword (signal : Signal) (left skipped : Bool) : Option String :=
  match signal with
  | .leaveLoop => some "break"
  | .nextItem => some "continue"
  | _ => if left then some "break" else if skipped then some "continue" else none

namespace Rule

/-- Runs the rule from its start, at most `depth` steps deep, and reports what it says then. -/
def runWithin (rule : Rule) (store : Store) (depth : Nat) : Exec Verdict := do
  let signal ← runChain rule store depth startId
  let left ← takeSignal Variables.breakName
  let skipped ← takeSignal Variables.continueName
  match strayKeyword signal left skipped with
  | some keyword =>
    say .engine .warn ("Rule '" ++ rule.name ++ "': '" ++ keyword ++ "' outside of a loop")
  | none => pure ()
  look Variables.verdict

/-- How far a rule that runs in circles may go. A rule without circles never goes deeper than it has
steps. -/
def circleAllowance : Nat := 0x10000000000

def run (rule : Rule) (store : Store) : Exec Verdict :=
  rule.runWithin store (rule.size + circleAllowance)

/-- A run on fresh variables of which one is bound beforehand. -/
def runWith (rule : Rule) (store : Store) (key : String) (v : Value) (journal : Journal)
    (allowance : Nat := circleAllowance) : Ending Verdict × Session :=
  match Variables.initial.set key v with
  | .ok vars => rule.runWithin store (rule.size + allowance) ⟨vars, journal, []⟩
  | .error e => (.failed e, ⟨Variables.initial, journal, []⟩)

end Rule
end StageGate
