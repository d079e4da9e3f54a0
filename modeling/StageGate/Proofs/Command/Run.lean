import Mathlib
import StageGate.Command.Run
import StageGate.Proofs.Settings.RuleFile
import StageGate.Proofs.Workflow.InPlace

/-! A batch from a data file that fails: nothing is written but its log. -/
namespace StageGate.Batch

open FileTree

variable {tree : FileTree} {settings : Settings} {options : RunOptions} {start journal : Journal}
  {w : Workflow} {e : Error} {place : List String}

def workflow (settings : Settings) (store : Store) (states : StateOrder)
    (rules : List (String × Except Error (Option Rule))) : Workflow where
  states
  ruleFor := fun state => (rules.lookup state).getD (.ok none)
  store
  subjectKey := settings.subjectKey
  policy := settings.policy

/-- The workflow that a data file and the rule files make, before any of it is run. -/
def workflow? (tree : FileTree) (settings : Settings) (options : RunOptions) :
    Except Failure Workflow := do
  let store ← ((disk.readData options.data).run tree).1
  let states ← (StateOrder.ofList settings.states).mapError Failure.ofError
  return workflow settings store states ((disk.readRules settings states.names).run tree).1

theorem workflow?_eq_ok_iff : workflow? tree settings options = .ok w ↔
    ∃ store states, ((disk.readData options.data).run tree).1 = .ok store ∧
      StateOrder.ofList settings.states = .ok states ∧
      w = workflow settings store states ((disk.readRules settings states.names).run tree).1 := by
  unfold workflow?
  cases ((disk.readData options.data).run tree).1 with
  | error failure => exact ⟨nofun, fun ⟨_, _, h, _⟩ => nomatch h⟩
  | ok store =>
    cases StateOrder.ofList settings.states with
    | error e => exact ⟨nofun, fun ⟨_, _, _, h, _⟩ => nomatch h⟩
    | ok states =>
      constructor
      · intro h
        exact ⟨store, states, rfl, rfl, (Except.ok.inj h).symm⟩
      · rintro ⟨_, _, ⟨⟩, ⟨⟩, rfl⟩
        rfl

theorem loadSettings_nil : loadSettings [] = .ok .standard := by
  unfold loadSettings Settings.ofPairs Settings.assignAll
  dsimp only
  rw [Settings.validate_standard]
  rfl

section Chronicles

variable {α β ε : Type}

theorem run_fetch (x : StateM FileTree α) (f : α → Chronicle (StateM FileTree) β) :
    ((fetch x >>= f).run.run journal).run tree =
      ((f (x.run tree).1).run.run journal).run (x.run tree).2 := rfl

theorem run_settle_ok (g : ε → Failure) (a : α) (f : α → Chronicle (StateM FileTree) β) :
    ((settle g (.ok a) >>= f).run.run journal).run tree =
      ((f a).run.run journal).run tree := rfl

theorem run_get (f : Journal → Chronicle (StateM FileTree) β) :
    ((get >>= f).run.run journal).run tree = ((f journal).run.run journal).run tree := rfl

theorem run_set (after : Journal) (f : PUnit → Chronicle (StateM FileTree) β) :
    ((set after >>= f).run.run journal).run tree = ((f ()).run.run after).run tree := rfl

theorem run_finish_failed (f : α → Chronicle (StateM FileTree) β) :
    ((finish (.failed e) >>= f).run.run journal).run tree =
      ((.error (.ofError e), journal), tree) := rfl

end Chronicles

theorem process_failed (hw : workflow? tree settings options = .ok w)
    (hfailed : (w.runRoster settings.roster ⟨start, []⟩).1 = .failed e) :
    ((process disk settings options).run.run start).run tree =
      ((.error (.ofError e), (w.runRoster settings.roster ⟨start, []⟩).2.2.journal), tree) := by
  obtain ⟨store, states, hstore, hstates, rfl⟩ := workflow?_eq_ok_iff.mp hw
  have hdata : ((disk.readData options.data).run tree).2 = tree :=
    @leaves_readData _ id options.data tree
  have hrules : ((disk.readRules settings states.names).run tree).2 = tree :=
    @leaves_readRules _ id settings states.names tree
  unfold process
  rw [run_fetch, hdata, hstore, run_settle_ok, hstates, run_settle_ok, run_fetch, hrules]
  dsimp only
  rw [run_get]
  unfold workflow at hfailed ⊢
  generalize Workflow.runRoster _ _ _ = after at hfailed
  obtain ⟨ending, store, diary⟩ := after
  dsimp only at hfailed ⊢
  rw [run_set, hfailed, run_finish_failed]

/-- The file in which the journal is saved, without its directory. -/
def logFile (stamp : Stamp) : String :=
  "WorkflowLog-" ++ stamp.fileName ++ ".log"

/-- No file is touched but the one in which the journal is saved. -/
theorem leaves_saveJournal (environment : List (String × String)) (stamp : Stamp)
    (settings : Settings) (journal : Journal) (hstamp : '/' ∉ stamp.fileName.toList)
    (hplace : place.getLast? ≠ some (logFile stamp)) :
    Leaves (·.files.lookup place) (saveJournal ⟨disk, environment, stamp⟩ settings journal) := by
  have hslash : '/' ∉ (logFile stamp).toList := by
    simp [logFile, hstamp]
  have hup : logFile stamp ≠ ".." := by
    intro h
    have hchars := congrArg String.toList h
    simp [logFile] at hchars
  unfold saveJournal
  dsimp only
  -- with a directory of its own or without, the log is written behind it
  split
  all_goals
    refine Leaves.bind ?_ fun made => ?_
    · first
        | exact leaves_pure _
        | exact leaves_makeDirectory settings.logDir place
    · cases made with
      | error fault => exact leaves_pure ""
      | ok _ =>
        refine (leaves_write _ _ (FileName.split_join hslash) hup hplace).bind fun saved => ?_
        cases saved <;> exact leaves_pure _

/-- A batch fails as a command with the error of its run, and the files are as before, apart from
the log. -/
theorem run_failed (environment : List (String × String)) (stamp : Stamp) (alone : Diary)
    (hstamp : '/' ∉ stamp.fileName.toList)
    (hsettings : loadSettings environment = .ok settings)
    (hw : workflow? tree (settings.override options) options = .ok w)
    (hfailed : (w.runRoster (settings.override options).roster alone).1 = .failed e) :
    let (answer, after) := (run ⟨disk, environment, stamp⟩ options).run tree
    answer.failure = some (.ofError e) ∧
      ∀ place, place.getLast? ≠ some (logFile stamp) →
        after.files.lookup place = tree.files.lookup place := by
  have hstart : (w.runRoster (settings.override options).roster
      ⟨[⟨.engine, .info, "=== Workflow Engine Started ==="⟩], []⟩).1 = .failed e := by
    rw [w.runRoster_failed_iff _ _ alone] at hfailed ⊢
    exact hfailed
  have hprocess := process_failed hw hstart
  unfold run
  rw [hsettings]
  dsimp only
  rw [StateT.run_bind, hprocess]
  refine ⟨rfl, fun place hplace => ?_⟩
  exact leaves_saveJournal environment stamp _ _ hstamp hplace tree

/-- A batch that fails leaves its store as it was, also where the store is worked on in place. It
fails only if its subjects cannot be loaded or, under the policy to fail fast, with the error of the
first of them that does not get through. As a command it writes no file but its log. -/
theorem failure_writes_nothing :
    (∀ (w : Workflow) (roster : Roster) (diary : Diary) (allowance : Nat),
      w.runInPlace roster allowance ⟨w.store, diary⟩ =
        let (ending, store, diary) := w.runRoster roster diary allowance
        (ending, ⟨store, diary⟩)) ∧
      (∀ (w : Workflow) (roster : Roster) (diary : Diary) (allowance : Nat) (e : Error)
          (after : Desk),
        w.runInPlace roster allowance ⟨w.store, diary⟩ = (.failed e, after) →
          after.store.toJson = w.store.toJson) ∧
      (∀ (w : Workflow) (roster : Roster) (diary alone : Diary) (allowance : Nat) (e : Error),
        (w.runRoster roster diary allowance).1 = .failed e ↔
          roster.load w.store = .error e ∨
            w.policy = .failFast ∧ ∃ subjects, roster.load w.store = .ok subjects ∧
              w.FailsFirst alone allowance e subjects) ∧
      (∀ (w : Workflow) (roster : Roster) (diary : Diary) (allowance : Nat) (e : Error),
        w.policy = .isolate → (w.runRoster roster diary allowance).1 = .failed e →
          roster.load w.store = .error e) ∧
      ∀ (tree : FileTree) (environment : List (String × String)) (stamp : Stamp)
          (options : RunOptions) (settings : Settings) (w : Workflow) (diary : Diary) (e : Error),
        '/' ∉ stamp.fileName.toList → loadSettings environment = .ok settings →
        workflow? tree (settings.override options) options = .ok w →
        (w.runRoster (settings.override options).roster diary).1 = .failed e →
          let (answer, after) := (run ⟨disk, environment, stamp⟩ options).run tree
          answer.failure = some (.ofError e) ∧
            ∀ place, place.getLast? ≠ some (logFile stamp) →
              after.files.lookup place = tree.files.lookup place := by
  refine ⟨Workflow.runInPlace_apply, ?_, Workflow.runRoster_failed_iff, ?_, ?_⟩
  · intro w roster diary allowance e after h
    rw [Workflow.runInPlace_apply] at h
    have hstore := w.runRoster_store_of_failed roster diary allowance e
    generalize w.runRoster roster diary allowance = result at h hstore
    obtain ⟨ending, store, diary⟩ := result
    cases h
    exact congrArg Store.toJson (hstore rfl)
  · intro w roster diary allowance e hpolicy hfailed
    obtain hload | ⟨hfast, -⟩ := (w.runRoster_failed_iff roster diary diary allowance e).mp hfailed
    · exact hload
    · rw [hpolicy] at hfast
      cases hfast
  · intro tree environment stamp options settings w diary e hstamp hsettings hw hfailed
    exact run_failed environment stamp diary hstamp hsettings hw hfailed

/-- People of whom the first can move on, and the second is in a state that no workflow knows. -/
def lostText : String :=
  "\x7b\"People\": [\x7b\"Id\": 1, \"CurrentState\": \"A\"\x7d, " ++
    "\x7b\"Id\": 2, \"CurrentState\": \"Lost\"\x7d]\x7d"

def lostStore : Store :=
  ⟨[("People", [.object [("CurrentState", .string "A"), ("Id", .whole (.ofInt64 1))],
    .object [("CurrentState", .string "Lost"), ("Id", .whole (.ofInt64 2))]])]⟩

/-- The file of a rule that lets everybody pass. -/
def openText : String :=
  "\x7b\"steps\": [\x7b\"id\": \"start\", \"action\": \"stop\", \"status\": true\x7d]\x7d"

def openDocument : Json :=
  .object [("steps", .array [.object
    [("action", .string "stop"), ("id", .string "start"), ("status", .bool true)]])]

def openRule : Rule where
  name := "Rule-A"
  steps := [⟨"start", none, .stop true none⟩]
  distinct := by decide
  starts := by decide

def lostTree : FileTree where
  home := ["work"]
  files := [(["work", "people.json"], lostText), (["work", "rules", "Rule-A.json"], openText)]
  directories := [["work"], ["work", "rules"]]

def onPeople : RunOptions := ⟨"people.json", none, none, none, none, none, none⟩

set_option maxRecDepth 8000 in
theorem lostTree_readData : ((disk.readData "people.json").run lostTree).1 = .ok lostStore := by
  have hread : lostTree.read "people.json" = .ok lostText := rfl
  exact run_readData hread (by cbv) rfl

set_option maxRecDepth 8000 in
theorem parse_openText : Json.parse openText = .ok openDocument := by cbv

theorem lostTree_readRules :
    ((disk.readRules (Settings.standard.override onPeople) ["A", "B", "Final"]).run lostTree).1 =
      [("A", .ok (some openRule)), ("B", .ok none), ("Final", .ok none)] := by
  have hfile (state : String) : Disk.ruleFile (Settings.standard.override onPeople) state =
      "rules/Rule-" ++ state ++ ".json" := Settings.ruleFile_standard state
  have hread : lostTree.read ("rules/Rule-" ++ "A" ++ ".json") = .ok openText := rfl
  have hrule : Rule.ofFile ("rules/Rule-" ++ "A" ++ ".json") openText = .ok openRule :=
    (Rule.ofFile_of_parse (by decide) parse_openText).trans rfl
  rw [run_readRules]
  simp only [hfile, List.map_cons, List.map_nil]
  rw [run_readRule hread, hrule]
  rfl

/-- The workflow that `lostTree` makes. -/
def lostWorkflow : Workflow :=
  workflow (Settings.standard.override onPeople) lostStore .standard
    [("A", .ok (some openRule)), ("B", .ok none), ("Final", .ok none)]

theorem lostTree_workflow? :
    workflow? lostTree (Settings.standard.override onPeople) onPeople = .ok lostWorkflow := by
  refine workflow?_eq_ok_iff.mpr ⟨lostStore, .standard, lostTree_readData, rfl, ?_⟩
  rw [show StateOrder.standard.names = ["A", "B", "Final"] from rfl, lostTree_readRules]
  rfl

/-- When the second fails, the first has moved. -/
theorem failure_writes_nothing_lostTree :
    ∃ subjects, workflow? lostTree (Settings.standard.override onPeople) onPeople =
        .ok lostWorkflow ∧
      (Settings.standard.override onPeople).roster.load lostStore = .ok subjects ∧
      (lostWorkflow.runSubjects subjects ⟨[], []⟩).subjects.map Subject.state = ["B", "Lost"] ∧
      (lostWorkflow.runRoster (Settings.standard.override onPeople).roster ⟨[], []⟩).1 =
        .failed (.unknownState "Lost") ∧
      let (answer, after) := (run ⟨disk, [], ⟨"now", ""⟩⟩ onPeople).run lostTree
      answer.failure = some (.ofError (.unknownState "Lost")) ∧
        ∀ place, place.getLast? ≠ some "WorkflowLog-now.log" →
          after.files.lookup place = lostTree.files.lookup place := by
  have hfailed : (lostWorkflow.runRoster (Settings.standard.override onPeople).roster ⟨[], []⟩).1 =
      .failed (.unknownState "Lost") := rfl
  refine ⟨_, lostTree_workflow?, rfl, rfl, hfailed, ?_⟩
  exact failure_writes_nothing.2.2.2.2 lostTree [] ⟨"now", ""⟩ onPeople .standard lostWorkflow
    ⟨[], []⟩ (.unknownState "Lost") (by decide) loadSettings_nil lostTree_workflow? hfailed

end StageGate.Batch
