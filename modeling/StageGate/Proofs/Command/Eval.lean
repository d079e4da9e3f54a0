import StageGate.Command.Eval
import StageGate.Proofs.Command.Run
import StageGate.Proofs.Json.Text
import StageGate.Proofs.Workflow.Frame

/-! What a rule says on one record is what becomes of the subject, as it sets out in a workflow that
has this rule for its state. -/
namespace StageGate

open Effect

namespace Eval

/-- What a rule says on a record, where the rule may be one that could not be read. -/
def verdict (rule : Except Error Rule) (store : Store) (key : String) (record : Json)
    (allowance : Nat) : Ending Verdict :=
  match rule with
  | .ok rule => judge rule store key record allowance
  | .error e => .failed e

end Eval

/-- The subject has not moved yet. -/
def Unmoved (subject : Subject) (trip : Trip) : Prop :=
  trip.subject = subject ∧ trip.transitions = 0

/-- The way of the subject goes on from the first verdict on it: where that passes, there is a
transition, and else the way is at its end. -/
def GoesOn (subject : Subject) (first : Ending Verdict) (ending : Ending Halt) (trip : Trip) :
    Prop :=
  match first with
  | .done verdict =>
    if verdict.passed then 0 < trip.transitions
    else ending = .done (.rejected verdict.reason) ∧ Unmoved subject trip
  | .failed e => ending = .failed e ∧ Unmoved subject trip
  | .unfinished => ending = .unfinished ∧ Unmoved subject trip

/-- What becomes of a subject is told by the first verdict on it, and tells that verdict. -/
structure Foretold (subject : Subject) (first : Ending Verdict) (ending : Ending Journey)
    (trip : Trip) : Prop where
  passes : (∃ reason, first = .done ⟨true, reason⟩) ↔ 0 < trip.transitions
  rejects : ∀ reason, first = .done ⟨false, reason⟩ ↔
    ending = .done ⟨subject.id, subject.state, subject.state, .rejected reason, 0⟩
  fails : ∀ e, first = .failed e ↔ ending = .failed e ∧ trip.transitions = 0
  circles : first = .unfinished ↔ ending = .unfinished ∧ trip.transitions = 0

namespace Workflow

open Travel

section First

variable {w : Workflow} {subject : Subject} {rule : Rule} {verdict : Verdict}
  {first : Ending Verdict} {allowance : Nat} {E : Option Error → Trip → Prop}

/-- No verdict depends on what was written down before it. -/
theorem judge_ending (w : Workflow) (allowance : Nat) (rule : Rule) (trip : Trip) :
    (w.judge allowance rule trip).1 =
      Eval.judge rule w.store w.subjectKey trip.subject.toRecord allowance :=
  (rule.runWith_journal w.store w.subjectKey trip.subject.project trip.diary.journal [] allowance).1

theorem unmoved_say (level : Level) (message : String) :
    Triple (Unmoved subject) (say level message) (fun _ => Unmoved subject) E :=
  triple_update fun _ h => h

theorem unmoved_ask (state : String) :
    Triple (Unmoved subject) (ask state) (fun _ => Unmoved subject) E :=
  triple_update fun _ h => h

theorem unmoved_judge
    (hfirst : Eval.judge rule w.store w.subjectKey subject.toRecord allowance = first) :
    Triple (Unmoved subject) (w.judge allowance rule)
      (fun verdict t => first = .done verdict ∧ Unmoved subject t)
      (fun e => GoesOn subject first (e.elim .unfinished .failed)) := by
  intro trip h
  have hending := w.judge_ending allowance rule trip
  have hafter : Unmoved subject (w.judge allowance rule trip).2 := h
  rw [h.1, hfirst] at hending
  generalize w.judge allowance rule trip = result at hending hafter
  obtain ⟨ending, after⟩ := result
  subst hending
  cases ending with
  | done verdict => exact ⟨rfl, hafter⟩
  | failed e => exact ⟨rfl, hafter⟩
  | unfinished => exact ⟨rfl, hafter⟩

/-- After the first round the subject has passed, or its way is at its end. -/
def Opened (subject : Subject) (first : Ending Verdict) : Option Halt → Trip → Prop
  | none, trip => (∃ verdict, first = .done verdict ∧ verdict.passed = true) ∧ 0 < trip.transitions
  | some halt, trip => GoesOn subject first (.done halt) trip

theorem opened_promote {next : String}
    (hnext : w.states.successor subject.state = .ok (some next)) (hpassed : verdict.passed = true) :
    Triple (Unmoved subject) (w.promote subject) (Opened subject (.done verdict)) E := by
  unfold promote
  rw [hnext, lift_ok_bind]
  refine (unmoved_say _ _).bind fun _ => ?_
  refine (triple_update (Q := fun _ t => 0 < t.transitions) fun t _ => Nat.succ_pos _).bind
    fun _ => triple_pure fun t ht => ?_
  exact ⟨⟨verdict, rfl, hpassed⟩, ht⟩

theorem opened_hear {next : String} (hnext : w.states.successor subject.state = .ok (some next))
    (hfirst : Eval.judge rule w.store w.subjectKey subject.toRecord allowance = first) :
    Triple (Unmoved subject) (w.hear allowance subject rule) (Opened subject first)
      (fun e => GoesOn subject first (e.elim .unfinished .failed)) := by
  refine (unmoved_say _ _).bind fun _ => (unmoved_judge hfirst).bind fun verdict => ?_
  refine triple_of_fact fun hverdict => (unmoved_say _ _).bind fun _ => ?_
  subst hverdict
  split
  · next hpassed => exact opened_promote hnext hpassed
  · next hfailed =>
    refine (unmoved_say _ _).bind fun _ => triple_pure fun t ht => ?_
    rw [Opened, GoesOn, if_neg hfailed]
    exact ⟨rfl, ht⟩

theorem opened_round {rule : Except Error Rule} (hknown : subject.state ∈ w.states.names)
    (hgoal : subject.state ≠ w.states.terminal)
    (hrule : w.ruleFor subject.state = some <$> rule)
    (hfirst : Eval.verdict rule w.store w.subjectKey subject.toRecord allowance = first) :
    Triple (Unmoved subject) (w.round allowance) (Opened subject first)
      (fun e => GoesOn subject first (e.elim .unfinished .failed)) := by
  obtain ⟨n, hn⟩ := List.mem_iff_getElem?.mp hknown
  have hlast := mt (StateOrder.eq_terminal_iff hn).mpr hgoal
  have hlength := (List.getElem?_eq_some_iff.mp hn).1
  have hnext : w.states.successor subject.state = .ok (some w.states.names[n + 1]) := by
    rw [StateOrder.successor_eq hn, List.getElem?_eq_getElem]
  have htraveller : Triple (Unmoved subject) traveller
      (fun found t => found = subject ∧ Unmoved subject t)
      (fun e => GoesOn subject first (e.elim .unfinished .failed)) :=
    fun _ h => ⟨h.1, h⟩
  refine htraveller.bind fun _ => triple_of_fact ?_
  rintro rfl
  rw [StateOrder.isTerminal_eq hn, lift_ok_bind, decide_eq_false hlast]
  refine (unmoved_ask _).bind fun _ => ?_
  rw [hrule]
  cases rule with
  | error e =>
    cases hfirst
    exact triple_fail fun t ht => ⟨rfl, ht⟩
  | ok rule => exact opened_hear hnext hfirst

/-- A subject that has made a transition does not lose it again. -/
theorem moved_walk (hpassed : verdict.passed = true) (rounds : Nat) :
    Triple (fun t => 0 < t.transitions) (w.walk allowance rounds)
      (fun halt => GoesOn subject (.done verdict) (.done halt))
      (fun e => GoesOn subject (.done verdict) (e.elim .unfinished .failed)) := by
  intro trip h
  have hleads := (along_leads w allowance).rel_walk rounds trip
  have hmoved : 0 < (w.walk allowance rounds trip).2.transitions := by
    obtain ⟨-, hsame⟩ | ⟨-, hmore⟩ := hleads <;> omega
  have hgoes : ∀ ending, GoesOn subject (.done verdict) ending
      (w.walk allowance rounds trip).2 := by
    intro ending
    rw [GoesOn, if_pos hpassed]
    exact hmoved
  generalize w.walk allowance rounds trip = result at hgoes
  obtain ⟨ending, after⟩ := result
  cases ending <;> exact hgoes _

/-- The first verdict on a subject tells how far it gets at least, and how its way ends if it gets
nowhere. -/
theorem travel_goesOn {rule : Except Error Rule} (hknown : subject.state ∈ w.states.names)
    (hgoal : subject.state ≠ w.states.terminal)
    (hrule : w.ruleFor subject.state = some <$> rule) (diary : Diary) (allowance : Nat) :
    GoesOn subject (Eval.verdict rule w.store w.subjectKey subject.toRecord allowance)
      (w.travel subject diary allowance).1 (w.travel subject diary allowance).2 := by
  obtain ⟨rounds, hrounds⟩ : ∃ rounds, w.states.names.length = rounds + 1 :=
    Nat.exists_eq_succ_of_ne_zero (mt List.length_eq_zero_iff.mp w.states.nonempty)
  unfold travel
  rw [hrounds]
  refine ((opened_round hknown hgoal hrule rfl).bind fun halt => ?_).outcome ⟨rfl, rfl⟩
  cases halt with
  | some halt => exact triple_pure fun _ h => h
  | none =>
    refine triple_of_fact ?_
    rintro ⟨verdict, hfirst, hpassed⟩
    rw [hfirst]
    exact moved_walk hpassed rounds

theorem advance_foretold {rule : Except Error Rule} (hknown : subject.state ∈ w.states.names)
    (hgoal : subject.state ≠ w.states.terminal)
    (hrule : w.ruleFor subject.state = some <$> rule) (diary : Diary) (allowance : Nat) :
    Foretold subject (Eval.verdict rule w.store w.subjectKey subject.toRecord allowance)
      (w.advance subject diary allowance).1 (w.advance subject diary allowance).2 := by
  have hgoes := travel_goesOn hknown hgoal hrule diary allowance
  generalize Eval.verdict rule w.store w.subjectKey subject.toRecord allowance = first at hgoes
  unfold advance
  generalize w.travel subject diary allowance = result at hgoes
  obtain ⟨ending, trip⟩ := result
  replace hgoes : GoesOn subject first ending trip := hgoes
  cases first with
  | done verdict =>
    obtain ⟨passed, reason⟩ := verdict
    cases passed with
    | true =>
      have hmoved : 0 < trip.transitions := hgoes
      cases ending <;> constructor <;> simp [journey, hmoved, hmoved.ne']
    | false =>
      obtain ⟨rfl, rfl, hzero⟩ := hgoes
      constructor <;> simp [journey, hzero, eq_comm]
  | failed e =>
    obtain ⟨rfl, -, hzero⟩ := hgoes
    constructor <;> simp [hzero]
  | unfinished =>
    obtain ⟨rfl, -, hzero⟩ := hgoes
    constructor <;> simp [hzero]

end First

end Workflow

namespace Eval

section Commands

variable {tree : FileTree} {environment : List (String × String)}
  {settings : Settings} {name text subjectText : String} {fields : Fields Json}
  {data : Option String} {store : Store}

/-- What is printed on the ending of a rule, or told as a failure. -/
def answer (ending : Ending Verdict) : Answer :=
  match report ending with
  | .ok output => ⟨output, none⟩
  | .error failure => ⟨"", some failure⟩

theorem run_step {α β : Type} {x : StateM FileTree (Except Failure α)} {a : α}
    (h : x.run tree = (.ok a, tree)) (f : α → ExceptT Failure (StateM FileTree) β) :
    ((ExceptT.mk x >>= f).run).run tree = ((f a).run).run tree := by
  rw [ExceptT.run_bind, StateT.run_bind, ExceptT.run_mk, h]
  rfl

theorem run_given {α β : Type} (a : α) (f : α → ExceptT Failure (StateM FileTree) β) :
    ((ExceptT.mk (pure (.ok a)) >>= f).run).run tree = ((f a).run).run tree := rfl

theorem readStore_leaves (h : ((readStore FileTree.disk data).run tree).1 = .ok store) :
    (readStore FileTree.disk data).run tree = (.ok store, tree) := by
  refine Prod.ext h ?_
  cases data with
  | none => rfl
  | some name => exact @FileTree.leaves_readData _ id name tree

theorem result_eq (hsettings : loadSettings environment = .ok settings)
    (hread : tree.read name = .ok text) (hsubject : Json.parse subjectText = .ok (.object fields))
    (hdata : ((readStore FileTree.disk data).run tree).1 = .ok store) (stamp : Stamp)
    (allowance : Nat) :
    ((result ⟨FileTree.disk, environment, stamp⟩ name subjectText data allowance).run).run tree =
      (report (verdict (Rule.ofFile name text) store settings.subjectKey (.object fields)
        allowance), tree) := by
  have htext : (FileTree.disk.readText name).run tree = (.ok text, tree) := by
    rw [FileTree.run_readText, hread]
    rfl
  have hrecord : readSubject subjectText = .ok (.object fields) := by
    rw [readSubject, hsubject]
  unfold result
  rw [hsettings, run_given, run_step htext]
  cases Rule.ofFile name text with
  | error e => rfl
  | ok rule =>
    rw [Except.mapError, run_given, hrecord, run_given, run_step (readStore_leaves hdata)]
    rfl

/-- The command says what the rule of the file does, if it has an object to say it on. -/
theorem run_eq (hsettings : loadSettings environment = .ok settings)
    (hread : tree.read name = .ok text) (hsubject : Json.parse subjectText = .ok (.object fields))
    (hdata : ((readStore FileTree.disk data).run tree).1 = .ok store) (stamp : Stamp)
    (allowance : Nat) :
    (run ⟨FileTree.disk, environment, stamp⟩ name subjectText data allowance).run tree =
      (answer (verdict (Rule.ofFile name text) store settings.subjectKey (.object fields)
        allowance), tree) := by
  unfold run answer
  rw [StateT.run_bind, result_eq hsettings hread hsubject hdata]
  cases report (verdict (Rule.ofFile name text) store settings.subjectKey (.object fields)
    allowance) <;> rfl

theorem render_eq (verdict : Verdict) :
    render verdict = "\x7b\n  \"status\": " ++ (if verdict.passed then "true" else "false") ++
      (",\n  \"reason\": " ++ Json.quoted verdict.reason ++ "\n\x7d\n") := by
  have hstatus : Json.quoted "status" = "\"status\"" := rfl
  have hreason : Json.quoted "reason" = "\"reason\"" := rfl
  rw [← String.toList_inj]
  simp [render, Json.pretty, Json.indented, Json.indentedFields, Json.block, Json.render,
    Json.newline, hstatus, hreason]

theorem agreeIff_truth (a b : Bool) :
    AgreeIff (a = b) (if a then "true" else "false") (if b then "true" else "false") := by
  intro rest rest'
  cases a <;> cases b <;> simp

/-- No two verdicts are printed alike. -/
theorem render_inj {verdict verdict' : Verdict} :
    render verdict = render verdict' ↔ verdict = verdict' := by
  have htruth := (agreeIff_self "\x7b\n  \"status\": ").append
    (agreeIff_truth verdict.passed verdict'.passed)
  have hreason := ((agreeIff_self ",\n  \"reason\": ").append
    (Json.agreeIff_quoted verdict.reason verdict'.reason)).append (agreeIff_self "\n\x7d\n")
  rw [render_eq, render_eq, (htruth.append hreason).eq_iff]
  cases verdict
  cases verdict'
  simp

theorem answer_output_eq_render_iff {ending : Ending Verdict} {verdict : Verdict} :
    (answer ending).output = render verdict ↔ ending = .done verdict := by
  have hprinted : "" ≠ render verdict := by
    rw [render_eq, ← String.toList_inj.ne]
    simp
  cases ending with
  | done verdict' => simp [answer, report, render_inj]
  | failed e => simpa [answer, report] using hprinted
  | unfinished => simpa [answer, report] using hprinted

/-- The command and the workflow come to the same verdict on a subject, or to the same error: the
command prints that the rule passed if and only if the subject makes a transition, and prints that
it did not, with its reason, if and only if the subject is rejected where it stands for that
reason. -/
theorem run_foretells {w : Workflow} {record : Json} {idField stateField : String}
    {subject : Subject} (hsettings : loadSettings environment = .ok settings)
    (hread : tree.read name = .ok text) (hsubject : Json.parse subjectText = .ok record)
    (hdata : ((readStore FileTree.disk data).run tree).1 = .ok w.store)
    (hkey : w.subjectKey = settings.subjectKey)
    (haccepted : Subject.ofRecord idField stateField record = .ok subject)
    (hknown : subject.state ∈ w.states.names) (hgoal : subject.state ≠ w.states.terminal)
    (hrule : w.ruleFor subject.state = some <$> Rule.ofFile name text) (diary : Diary)
    (stamp : Stamp) (allowance : Nat) :
    let first := verdict (Rule.ofFile name text) w.store w.subjectKey record allowance
    let printed := answer first
    let moved := w.advance subject diary allowance
    (run ⟨FileTree.disk, environment, stamp⟩ name subjectText data allowance).run tree =
        (printed, tree) ∧
      (∀ rule trip, Rule.ofFile name text = .ok rule → trip.subject = subject →
        (w.judge allowance rule trip).1 = first) ∧
      Foretold subject first moved.1 moved.2 ∧
      ((∃ reason, printed.output = render ⟨true, reason⟩) ↔ 0 < moved.2.transitions) ∧
      (∀ reason, printed.output = render ⟨false, reason⟩ ↔
        moved.1 = .done ⟨subject.id, subject.state, subject.state, .rejected reason, 0⟩) ∧
      ∀ e, moved.1 = .failed e → moved.2.transitions = 0 → printed = ⟨"", some (.ofError e)⟩ := by
  obtain ⟨rfl, -⟩ := Subject.ofRecord_eq_ok_iff.mp haccepted
  intro first printed moved
  have hforetold : Foretold subject first moved.1 moved.2 :=
    Workflow.advance_foretold hknown hgoal hrule diary allowance
  refine ⟨?_, ?_, hforetold, ?_, ?_, ?_⟩
  · have hrun := run_eq hsettings hread hsubject hdata stamp allowance
    rw [← hkey] at hrun
    exact hrun
  · rintro rule trip hfile rfl
    rw [w.judge_ending]
    simp only [first, hfile, verdict]
  · simp only [printed, answer_output_eq_render_iff]
    exact hforetold.passes
  · intro reason
    rw [answer_output_eq_render_iff]
    exact hforetold.rejects reason
  · intro e hfailed hzero
    have hfirst : first = .failed e := (hforetold.fails e).mpr ⟨hfailed, hzero⟩
    simp only [printed, hfirst, answer, report]

end Commands

/-- The file of a rule that lets nobody pass. -/
def shutText : String :=
  "\x7b\"steps\": [\x7b\"id\": \"start\", \"action\": \"stop\", \"reason\": \"Closed\"\x7d]\x7d"

def visitorText : String :=
  "\x7b\"Id\": 1, \"CurrentState\": \" A\"\x7d"

def visitor : Subject :=
  ⟨"1", "A", "CurrentState", [("CurrentState", .string " A"), ("Id", .whole (.ofInt64 1))]⟩

def gateTree (ruleText : String) : FileTree where
  home := ["work"]
  files := [(["work", "gate.json"], ruleText)]
  directories := [["work"]]

/-- All states have the same rule. -/
def gate (ruleText : String) : Workflow where
  states := .standard
  ruleFor _ := some <$> Rule.ofFile "gate.json" ruleText
  store := .empty
  subjectKey := "subject"
  policy := .isolate

/-- The command is given the rule and the subject of the workflow. -/
structure AtGate (ruleText : String) : Prop where
  settings : loadSettings [] = .ok .standard
  read : (gateTree ruleText).read "gate.json" = .ok ruleText
  subject : Json.parse visitorText = .ok visitor.toRecord
  data : ((readStore FileTree.disk none).run (gateTree ruleText)).1 = .ok (gate ruleText).store
  key : (gate ruleText).subjectKey = Settings.standard.subjectKey
  accepted : Subject.ofRecord "Id" "CurrentState" visitor.toRecord = .ok visitor
  known : visitor.state ∈ (gate ruleText).states.names
  goal : visitor.state ≠ (gate ruleText).states.terminal
  rule : (gate ruleText).ruleFor visitor.state = some <$> Rule.ofFile "gate.json" ruleText

set_option maxRecDepth 8000 in
theorem parse_visitorText : Json.parse visitorText = .ok visitor.toRecord := by cbv

theorem atGate (ruleText : String) : AtGate ruleText where
  settings := Batch.loadSettings_nil
  read := rfl
  subject := parse_visitorText
  data := rfl
  key := rfl
  accepted := rfl
  known := show visitor.state ∈ StateOrder.standard.names by decide
  goal := show visitor.state ≠ StateOrder.standard.terminal by decide
  rule := rfl

set_option maxRecDepth 8000 in
theorem verdict_shut : verdict (Rule.ofFile "gate.json" shutText) (gate shutText).store
    (gate shutText).subjectKey visitor.toRecord 0 = .done ⟨false, "Closed"⟩ := by
  have hdocument : Json.parse shutText = .ok (.object [("steps", .array [.object
      [("action", .string "stop"), ("id", .string "start"), ("reason", .string "Closed")]])]) := by
    cbv
  rw [Rule.ofFile_of_parse (by decide) hdocument]
  rfl

theorem verdict_open : verdict (Rule.ofFile "gate.json" Batch.openText) (gate Batch.openText).store
    (gate Batch.openText).subjectKey visitor.toRecord 0 = .done ⟨true, "Stopped by rule"⟩ := by
  rw [Rule.ofFile_of_parse (by decide) Batch.parse_openText]
  rfl

/-- At the one gate the subject is rejected, and through the other one it moves on. -/
theorem run_foretells_gates :
    AtGate shutText ∧
      (run ⟨FileTree.disk, [], ⟨"now", ""⟩⟩ "gate.json" visitorText none 0).run
        (gateTree shutText) = (⟨render ⟨false, "Closed"⟩, none⟩, gateTree shutText) ∧
      ((gate shutText).advance visitor ⟨[], []⟩ 0).1 =
        .done ⟨"1", "A", "A", .rejected "Closed", 0⟩ ∧
      AtGate Batch.openText ∧
      (run ⟨FileTree.disk, [], ⟨"now", ""⟩⟩ "gate.json" visitorText none 0).run
        (gateTree Batch.openText) =
          (⟨render ⟨true, "Stopped by rule"⟩, none⟩, gateTree Batch.openText) ∧
      0 < ((gate Batch.openText).advance visitor ⟨[], []⟩ 0).2.transitions := by
  have hshut := atGate shutText
  obtain ⟨hprintsShut, -, -, -, hrejects, -⟩ :=
    run_foretells hshut.settings hshut.read hshut.subject hshut.data hshut.key hshut.accepted
      hshut.known hshut.goal hshut.rule ⟨[], []⟩ ⟨"now", ""⟩ 0
  rw [verdict_shut] at hprintsShut hrejects
  have hopen := atGate Batch.openText
  obtain ⟨hprintsOpen, -, -, hpasses, -, -⟩ :=
    run_foretells hopen.settings hopen.read hopen.subject hopen.data hopen.key hopen.accepted
      hopen.known hopen.goal hopen.rule ⟨[], []⟩ ⟨"now", ""⟩ 0
  rw [verdict_open] at hprintsOpen hpasses
  exact ⟨hshut, hprintsShut, (hrejects "Closed").mp rfl, hopen, hprintsOpen, hpasses.mp ⟨_, rfl⟩⟩

end Eval
end StageGate
