import StageGate.Proofs.Run.Invariant

/-! What decides the verdict of a run: the stop in which it ends, and without one what its steps
have written last. -/
namespace StageGate

open Effect

/-- The value that has been written last under the name. The latest events come first. -/
def lastWritten (name : String) : List Event → Option Value
  | .wrote other v :: events => if other = name then some v else lastWritten name events
  | _ :: events => lastWritten name events
  | [] => none

/-- Whatever has been written is what a step executed before writes. -/
def Authored (events : List Event) : Prop :=
  ∀ name v earlier, .wrote name v :: earlier <:+ events →
    ∃ step, .executed step ∈ earlier ∧ step.action.Writes name v

/-- No step that has been executed is a stop. -/
def Nonstop (events : List Event) : Prop :=
  ∀ step, .executed step ∈ events → ¬ step.action.IsStop

/-- `step` is the only stop among the events, and no step has been executed after it. -/
def LastStop (step : Step) (events : List Event) : Prop :=
  ∃ later earlier, events = later ++ .executed step :: earlier ∧
    (∀ other, .executed other ∉ later) ∧ Nonstop earlier

section Events

variable {events : List Event} {event : Event} {step : Step} {name : String} {v : Value}

theorem authored_nil : Authored [] := by
  intro name v earlier h
  simpa using h.length_le

theorem authored_cons (h : Authored events)
    (hevent : ∀ name v, event = .wrote name v →
      ∃ step, .executed step ∈ events ∧ step.action.Writes name v) :
    Authored (event :: events) := by
  intro name v earlier hsuffix
  obtain hcons | hsuffix := List.suffix_cons_iff.mp hsuffix
  · obtain ⟨rfl, rfl⟩ := List.cons.inj hcons
    exact hevent name v rfl
  · exact h name v earlier hsuffix

theorem nonstop_cons (h : Nonstop events)
    (hevent : ∀ step, event = .executed step → ¬ step.action.IsStop) :
    Nonstop (event :: events) := by
  intro step hmem
  obtain hstep | hmem := List.mem_cons.mp hmem
  · exact hevent step hstep.symm
  · exact h step hmem

theorem lastStop_executed (h : Nonstop events) : LastStop step (.executed step :: events) :=
  ⟨[], events, rfl, by simp, h⟩

theorem lastStop_cons (h : LastStop step events) (hevent : ∀ other, event ≠ .executed other) :
    LastStop step (event :: events) := by
  obtain ⟨later, earlier, rfl, hlater, hearlier⟩ := h
  refine ⟨event :: later, earlier, rfl, fun other hmem => ?_, hearlier⟩
  obtain hother | hmem := List.mem_cons.mp hmem
  · exact hevent other hother.symm
  · exact hlater other hmem

theorem LastStop.mem (h : LastStop step events) : .executed step ∈ events := by
  obtain ⟨later, earlier, rfl, -, -⟩ := h
  simp

/-- Every stop that has been executed is the last one. -/
theorem LastStop.unique {other : Step} (h : LastStop step events)
    (hmem : .executed other ∈ events) (hother : other.action.IsStop) : other = step := by
  obtain ⟨later, earlier, rfl, hlater, hearlier⟩ := h
  obtain hmem | hmem := List.mem_append.mp hmem
  · exact (hlater other hmem).elim
  · obtain hsame | hmem := List.mem_cons.mp hmem
    · cases hsame
      rfl
    · exact (hearlier other hmem hother).elim

end Events

/-- What variables hold under a name that the engine does not write itself: what has been written
there last, else what `start` holds. -/
def Settled (start : Variables) (s : Session) : Prop :=
  ∀ name ∉ Variables.signalNames,
    s.vars.find? name = (lastWritten name s.events).or (start.find? name)

section Sessions

variable {start : Variables} {s : Session}

theorem settled_push {event : Event} (h : Settled start s)
    (hevent : ∀ name v, event ≠ .wrote name v) : Settled start (s.push event) := by
  intro name hname
  cases event with
  | wrote other v => exact (hevent other v rfl).elim
  | _ => exact h name hname

theorem settled_write (h : Settled start s) (name : String) (v : Value) :
    Settled start (s.write name v) := by
  intro other hother
  simp only [Session.write, Variables.find?_put, lastWritten]
  split
  · rfl
  · exact h other hother

theorem find?_take {name signal : String} (hsignal : signal ∈ Variables.signalNames)
    (hname : name ∉ Variables.signalNames) : (s.take signal).vars.find? name = s.vars.find? name := by
  have hne : signal ≠ name := fun heq => hname (heq ▸ hsignal)
  simp [Session.take, Variables.find?_takeSignal, hne]

theorem settled_take {signal : String} (hsignal : signal ∈ Variables.signalNames)
    (h : Settled start s) : Settled start (s.take signal) :=
  fun name hname => (find?_take hsignal hname).trans (h name hname)

theorem Variables.verdict_congr {vars vars' : Variables}
    (h : ∀ name ∈ [statusName, reasonName], vars.find? name = vars'.find? name) :
    vars.verdict = vars'.verdict := by
  simp only [verdict, h statusName (by simp), h reasonName (by simp)]

theorem notMem_signalNames {name : String}
    (h : name ∈ [Variables.statusName, Variables.reasonName]) : name ∉ Variables.signalNames := by
  revert name
  decide

theorem verdict_take {signal : String} (hsignal : signal ∈ Variables.signalNames) :
    (s.take signal).vars.verdict = s.vars.verdict :=
  Variables.verdict_congr fun _ hname => find?_take hsignal (notMem_signalNames hname)

theorem verdict_stopped (status : Bool) (reason : Option String) :
    (s.stopped status reason).vars.verdict = ⟨status, reason.getD defaultStopReason⟩ := by
  have hne : Variables.reasonName ≠ Variables.statusName := by decide
  simp [Session.stopped, Session.write, Variables.verdict, Variables.find?_put, hne, Value.toText]

end Sessions

/-- A run that no stop has ended yet. -/
structure Underway (start : Variables) (s : Session) : Prop where
  nonstop : Nonstop s.events
  authored : Authored s.events
  settled : Settled start s

/-- A run that has come to a stop. -/
structure Stopped (s : Session) (step : Step) (status : Bool) (reason : Option String) : Prop where
  action : step.action = .stop status reason
  last : LastStop step s.events
  authored : Authored s.events
  verdict : s.vars.verdict = ⟨status, reason.getD defaultStopReason⟩

section Runs

variable {start : Variables} {s : Session} {step : Step} {status : Bool} {reason : Option String}

theorem Underway.push {event : Event} (h : Underway start s)
    (hstop : ∀ step, event = .executed step → ¬ step.action.IsStop)
    (hwrote : ∀ name v, event ≠ .wrote name v) : Underway start (s.push event) where
  nonstop := nonstop_cons h.nonstop hstop
  authored := authored_cons h.authored fun name v heq => (hwrote name v heq).elim
  settled := settled_push h.settled hwrote

theorem Underway.write {name : String} {v : Value} (h : Underway start s)
    (hexecuted : .executed step ∈ s.events) (hwrites : step.action.Writes name v) :
    Underway start (s.write name v) where
  nonstop := nonstop_cons h.nonstop nofun
  authored := authored_cons h.authored fun _ _ heq => by
    cases heq
    exact ⟨step, hexecuted, hwrites⟩
  settled := settled_write h.settled name v

theorem Underway.take {signal : String} (hsignal : signal ∈ Variables.signalNames)
    (h : Underway start s) : Underway start (s.take signal) where
  nonstop := nonstop_cons h.nonstop nofun
  authored := authored_cons h.authored nofun
  settled := settled_take hsignal h.settled

theorem Underway.stop (h : Underway start s) (haction : step.action = .stop status reason) :
    Stopped ((s.push (.executed step)).stopped status reason) step status reason where
  action := haction
  last := lastStop_cons (lastStop_cons (lastStop_executed h.nonstop) nofun) nofun
  authored := by
    have hpush : Authored (.executed step :: s.events) := authored_cons h.authored nofun
    refine authored_cons (authored_cons hpush fun _ _ heq => ?_) fun _ _ heq => ?_
    · cases heq
      exact ⟨step, List.mem_cons_self, haction ▸ .status status reason⟩
    · cases heq
      exact ⟨step, List.mem_cons_of_mem _ List.mem_cons_self, haction ▸ .reason status reason⟩
  verdict := verdict_stopped status reason

theorem Stopped.take {signal : String} (hsignal : signal ∈ Variables.signalNames)
    (h : Stopped s step status reason) : Stopped (s.take signal) step status reason where
  action := h.action
  last := lastStop_cons h.last nofun
  authored := authored_cons h.authored nofun
  verdict := (verdict_take hsignal).trans h.verdict

/-- A run is underway until it comes to a stop; if it fails, or goes too deep, it still is. -/
theorem upholds_stopped (rule : Rule) {store : Store} (start : Variables) :
    Upholds rule store (Underway start) (fun s => ∃ step status reason, Stopped s step status reason)
      (fun _ => Underway start) where
  entered _ _ h := h.push nofun nofun
  bound _ _ _ h := h.push nofun nofun
  take _ _ hsignal h := h.take hsignal
  take_stopped := by
    rintro s signal hsignal ⟨step, status, reason, h⟩
    exact ⟨step, status, reason, h.take hsignal⟩
  executed s step _ hstop h := by
    refine h.push (fun other heq => ?_) nofun
    cases heq
    exact hstop
  stopped _ step _ status reason haction h := ⟨step, status, reason, h.stop haction⟩
  write _ _ _ hexecuted _ _ hwrites _ h := h.write hexecuted hwrites
  say _ _ _ h := ⟨h.nonstop, h.authored, h.settled⟩
  warn _ _ h := ⟨h.nonstop, h.authored, h.settled⟩
  warn_stopped := by
    rintro s message ⟨step, status, reason, h⟩
    exact ⟨step, status, reason, h.action, h.last, h.authored, h.verdict⟩
  raises _ _ _ _ _ _ h := h
  missing _ _ _ _ _ _ _ h := h

end Runs

/-- A stop anywhere in a run is the last step that the run executes, and the verdict of the run is
what it says. Without a stop, a run that ends has the verdict that its variables give, and what these
hold under the names for it was written there last, or stood there from the start. -/
theorem Rule.runWithin_verdict (rule : Rule) (store : Store) (depth : Nat) (vars : Variables)
    (journal : Journal) :
    let run := rule.runWithin store depth ⟨vars, journal, []⟩
    Authored run.2.events ∧
      (∀ step status reason, .executed step ∈ run.2.events → step.action = .stop status reason →
        run.1 = .done ⟨status, reason.getD defaultStopReason⟩ ∧ LastStop step run.2.events) ∧
      ∀ verdict, run.1 = .done verdict → Nonstop run.2.events →
        verdict = run.2.vars.verdict ∧
          ∀ name ∈ [Variables.statusName, Variables.reasonName],
            run.2.vars.find? name = (lastWritten name run.2.events).or (vars.find? name) := by
  have hstart : Underway vars ⟨vars, journal, []⟩ := ⟨nofun, authored_nil, fun _ _ => rfl⟩
  have hrun := (upholds_stopped rule vars).triple_runWithin store (fun _ h => h) depth _ hstart
  generalize rule.runWithin store depth ⟨vars, journal, []⟩ = run at hrun
  obtain ⟨ending, t⟩ := run
  cases ending with
  | done verdict =>
    obtain ⟨rfl, hunderway | ⟨step, status, reason, hstopped⟩⟩ := hrun
    · refine ⟨hunderway.authored, fun step status reason hmem hstop => ?_, ?_⟩
      · exact (hunderway.nonstop step hmem ⟨status, reason, hstop⟩).elim
      · rintro _ ⟨⟩ -
        exact ⟨rfl, fun name hname => hunderway.settled name (notMem_signalNames hname)⟩
    · refine ⟨hstopped.authored, fun other status' reason' hmem hother => ?_, ?_⟩
      · obtain rfl := hstopped.last.unique hmem ⟨_, _, hother⟩
        obtain ⟨rfl, rfl⟩ := Action.stop.inj (hstopped.action.symm.trans hother)
        exact ⟨congrArg Ending.done hstopped.verdict, hstopped.last⟩
      · rintro _ - hnonstop
        exact (hnonstop step hstopped.last.mem ⟨status, reason, hstopped.action⟩).elim
  | failed e =>
    refine ⟨hrun.authored, fun step status reason hmem hstop => ?_, nofun⟩
    exact (hrun.nonstop step hmem ⟨status, reason, hstop⟩).elim
  | unfinished =>
    refine ⟨hrun.authored, fun step status reason hmem hstop => ?_, nofun⟩
    exact (hrun.nonstop step hmem ⟨status, reason, hstop⟩).elim

/-- The branch for the first of the `xs` raises a break, and then stops inside a loop of its own. -/
def stopInside : Rule where
  name := "stopInside"
  steps := [⟨"start", some "after", .loop "xs" "x" ["look"]⟩,
    ⟨"look", none, .branch ⟨"x", "==", .whole (.ofInt64 1)⟩ ["leave", "search"] []⟩,
    ⟨"leave", none, .leaveLoop⟩,
    ⟨"search", none, .loop "xs" "y" ["halt"]⟩,
    ⟨"halt", some "after", .stop true none⟩,
    ⟨"after", none, .assign Variables.statusName (.bool false)⟩]
  distinct := by decide
  starts := by decide

theorem runWithin_verdict_stopInside :
    let run := stopInside.runWithin .empty 6
      ⟨Variables.initial.put "xs" (.list [.int 1, .int 2]), [], []⟩
    let halt : Step := ⟨"halt", some "after", .stop true none⟩
    .executed halt ∈ run.2.events ∧ run.1 = .done ⟨true, "Stopped by rule"⟩ ∧
      LastStop halt run.2.events := by
  intro run halt
  -- two signals looked at after each of three chains, and the two values that the stop writes
  have hmem : .executed halt ∈ run.2.events :=
    List.mem_of_getElem? (rfl : run.2.events[8]? = some (.executed halt))
  exact ⟨hmem, (Rule.runWithin_verdict stopInside .empty 6 _ []).2.1 halt true none hmem rfl⟩

end StageGate
