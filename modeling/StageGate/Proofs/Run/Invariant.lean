import StageGate.Proofs.Run.Faults
import StageGate.Proofs.Run.Moves

/-! Invariants of runs that may be stopped, may fail, or may not come to an end. -/
namespace StageGate

open Effect Exec

/-- What is left after a stop is `S`, after any other signal `I`. -/
def Signal.Leaves (I S : Session → Prop) : Signal → Session → Prop
  | .stop => S
  | _ => I

theorem Signal.Leaves.imp {I I' S : Session → Prop} (hI : ∀ s, I s → I' s) {own : Signal}
    {s : Session} (h : own.Leaves I S s) : own.Leaves I' S s := by
  cases own with
  | stop => exact h
  | proceed => exact hI s h
  | leaveLoop => exact hI s h
  | nextItem => exact hI s h

def Action.IsStop (action : Action) : Prop :=
  ∃ status reason, action = .stop status reason

/-- What loops do around their bodies changes neither `I` nor `S`. -/
structure Steady (I S : Session → Prop) : Prop where
  entered : ∀ s id, I s → I (s.push (.entered id))
  bound : ∀ s name item, I s → I (s.push (.bound name item))
  take : ∀ s, ∀ signal ∈ Variables.signalNames, I s → I (s.take signal)
  take_stopped : ∀ s, ∀ signal ∈ Variables.signalNames, S s → S (s.take signal)

section Actions

variable {I S : Session → Prop} {E : Option Error → Session → Prop}
  {chain : String → Exec Signal}

theorem triple_look {α : Type} {f : Variables → α} :
    Triple I (look f) (fun a s => a = f s.vars ∧ I s) E :=
  fun _ hs => ⟨rfl, hs⟩

theorem triple_assign {name : String} {v : Value} (hwrite : ∀ s, I s → I (s.write name v))
    (hblank : Text.isBlank name = true → ∀ s, I s → E (some (.invalidName name)) s) :
    Triple I (assign name v) (fun _ => I) E := by
  intro s hs
  rw [assign_apply]
  by_cases h : Text.isBlank name = true
  · rw [if_pos h]
    exact hblank h s hs
  · rw [if_neg h]
    exact hwrite s hs

theorem Steady.triple_takeSignal (h : Steady I S) (own : Signal) {signal : String}
    (hsignal : signal ∈ Variables.signalNames) :
    Triple (own.Leaves I S) (takeSignal signal) (fun _ => own.Leaves I S) E := by
  intro s hs
  cases own with
  | stop => exact h.take_stopped s signal hsignal hs
  | proceed => exact h.take s signal hsignal hs
  | leaveLoop => exact h.take s signal hsignal hs
  | nextItem => exact h.take s signal hsignal hs

theorem Signal.leaves_orRaised {own : Signal} {left skipped : Bool} {s : Session}
    (h : own.Leaves I S s) : (own.orRaised left skipped).Leaves I S s := by
  cases own with
  | proceed => cases left <;> cases skipped <;> exact h
  | leaveLoop => exact h
  | nextItem => exact h
  | stop => exact h

theorem triple_runBranch {ids : List String}
    (hchain : ∀ id ∈ ids, Triple I (chain id) (Signal.Leaves I S) E) :
    Triple I (runBranch chain ids) (Signal.Leaves I S) E := by
  induction ids with
  | nil => exact triple_pure fun _ hs => hs
  | cons id ids ih =>
    obtain ⟨hid, hids⟩ := List.forall_mem_cons.mp hchain
    refine hid.bind fun signal => ?_
    cases signal with
    | stop => exact triple_pure fun _ hs => hs
    | proceed => exact ih hids
    | leaveLoop => exact ih hids
    | nextItem => exact ih hids

theorem Steady.triple_runTurn (h : Steady I S) {id : String}
    (hchain : Triple I (chain id) (Signal.Leaves I S) E) :
    Triple I (runTurn chain id) (Signal.Leaves I S) E := by
  refine (triple_update (Q := fun _ => I) fun s hs => h.entered s id hs).bind fun _ => ?_
  refine hchain.bind fun own => ?_
  refine (h.triple_takeSignal own (by decide)).bind fun left => ?_
  refine (h.triple_takeSignal own (by decide)).bind fun skipped => ?_
  exact triple_pure fun s hs => Signal.leaves_orRaised hs

theorem Steady.triple_runBody (h : Steady I S) {ids : List String}
    (hchain : ∀ id ∈ ids, Triple I (chain id) (Signal.Leaves I S) E) :
    Triple I (runBody chain ids) (Signal.Leaves I S) E := by
  induction ids with
  | nil => exact triple_pure fun _ hs => hs
  | cons id ids ih =>
    obtain ⟨hid, hids⟩ := List.forall_mem_cons.mp hchain
    rw [runBody_cons]
    refine (h.triple_runTurn hid).bind fun signal => ?_
    cases signal with
    | proceed => exact ih hids
    | leaveLoop => exact triple_pure fun _ hs => hs
    | nextItem => exact triple_pure fun _ hs => hs
    | stop => exact triple_pure fun _ hs => hs

theorem Steady.triple_runItems (h : Steady I S) {name : String} {body : List String}
    (hassign : ∀ v, Triple I (assign name v) (fun _ => I) E)
    (hchain : ∀ id ∈ body, Triple I (chain id) (Signal.Leaves I S) E) (items : List Value) :
    Triple I (runItems chain name body items) (Signal.Leaves I S) E := by
  induction items with
  | nil => exact triple_pure fun _ hs => hs
  | cons item items ih =>
    rw [runItems_cons]
    refine (hassign item).bind fun _ => ?_
    refine (triple_update (Q := fun _ => I) fun s hs => h.bound s name item hs).bind fun _ => ?_
    refine (h.triple_runBody hchain).bind fun signal => ?_
    cases signal with
    | stop => exact triple_pure fun _ hs => hs
    | leaveLoop => exact triple_pure fun _ hs => hs
    | proceed => exact ih
    | nextItem => exact ih

theorem Steady.triple_runLoop (h : Steady I S) {source name : String} {body : List String}
    (hassign : ∀ v, Triple I (assign name v) (fun _ => I) E)
    (hchain : ∀ id ∈ body, Triple I (chain id) (Signal.Leaves I S) E) :
    Triple I (runLoop chain source name body) (Signal.Leaves I S) E := by
  refine triple_look.bind fun found => ?_
  cases found with
  | list items =>
    exact (h.triple_runItems hassign hchain items).narrow fun _ hs => hs.2
  | _ => exact triple_pure fun s hs => hs.2

/-- An action that is no stop keeps `I`, if what it writes, says and fails with does, and the
chains that it dispatches to do. -/
theorem Steady.triple_runAction (h : Steady I S) (store : Store) {action : Action}
    (hstop : ¬ action.IsStop)
    (hwrite : ∀ s name v, action.Writes name v → I s → I (s.write name v))
    (hsay : ∀ s level message, I s → I (s.say ⟨.rule, level, message⟩))
    (hraises : ∀ s e, action.Raises store s.vars e → I s → E (some e) s)
    (hchain : ∀ id ∈ action.stepIds, Triple I (chain id) (Signal.Leaves I S) E) :
    Triple I (runAction store chain action) (Signal.Leaves I S) E := by
  have target : ∀ name, action.written? = some name → ∀ v,
      Triple I (assign name v) (fun _ => I) E := by
    intro name hname v
    refine triple_assign (fun s => hwrite s name v (.target hname v)) fun hblank s => ?_
    exact hraises s _ (.blankName hname hblank)
  have settles : ∀ name, action.written? = some name →
      (∀ vars, ∃ value, action.value? store vars = some value) →
      Triple I (runAction store chain action) (Signal.Leaves I S) E := by
    intro name hname hvalues s hs
    obtain ⟨value, hvalue⟩ := hvalues s.vars
    rcases runAction_settles hname hvalue with ⟨e, hraised, hrun⟩ | ⟨v, hrun⟩
    · rw [hrun]
      exact hraises s e hraised hs
    · rw [hrun]
      exact hwrite s name v (.target hname v) hs
  cases action with
  | fetch query => exact settles _ rfl fun vars => ⟨_, rfl⟩
  | fetchList query => exact settles _ rfl fun vars => ⟨_, rfl⟩
  | assign name raw => exact settles _ rfl fun vars => ⟨_, rfl⟩
  | measure startDate endDate unit storeAs => exact settles _ rfl fun vars => ⟨_, rfl⟩
  | branch condition yes no =>
    refine triple_look.bind fun test => ?_
    refine (triple_lift (Q := fun _ => I) (fun _ _ s hs => hs.2) fun e he s hs => ?_).bind
      fun holds => ?_
    · rw [hs.1] at he
      exact hraises s e (Condition.raises_of_holds store yes no he) hs.2
    · refine triple_runBranch fun id hid => hchain id ?_
      cases holds with
      | true => exact List.mem_append_left no hid
      | false => exact List.mem_append_right yes hid
  | loop source item body => exact h.triple_runLoop (target item rfl) hchain
  | leaveLoop =>
    refine (triple_assign (fun s => hwrite s _ _ .leaveLoop) nofun).bind fun _ => ?_
    exact triple_pure fun _ hs => hs
  | nextItem =>
    refine (triple_assign (fun s => hwrite s _ _ .nextItem) nofun).bind fun _ => ?_
    exact triple_pure fun _ hs => hs
  | stop status reason => exact (hstop ⟨status, reason, rfl⟩).elim
  | log message level =>
    refine triple_look.bind fun text => ?_
    refine (triple_update (Q := fun _ => I) fun s hs => hsay s _ _ hs.2).bind fun _ => ?_
    exact triple_pure fun _ hs => hs

end Actions

/-- The session after a stop. -/
def Session.stopped (s : Session) (status : Bool) (reason : Option String) : Session :=
  (s.write Variables.statusName (.bool status)).write Variables.reasonName
    (.string (reason.getD defaultStopReason))

theorem runAction_stop (store : Store) (chain : String → Exec Signal) (status : Bool)
    (reason : Option String) (s : Session) :
    runAction store chain (.stop status reason) s = (.done .stop, s.stopped status reason) := rfl

/-- A step with this id can be asked for: there is one, or a step that has been executed refers to
it. -/
def Rule.Reaches (rule : Rule) (id : String) (s : Session) : Prop :=
  (∃ step, rule.step id = .ok step) ∨
    ∃ step ∈ rule.steps, .executed step ∈ s.events ∧ id ∈ step.references

/-- Runs of the rule on the store uphold `I` as long as they go on. A stop leads to `S`, and the
errors of steps that have been executed lead to `E`. -/
structure Upholds (rule : Rule) (store : Store) (I S : Session → Prop)
    (E : Option Error → Session → Prop) : Prop extends Steady I S where
  executed : ∀ s, ∀ step ∈ rule.steps, ¬ step.action.IsStop →
    I s → I (s.push (.executed step))
  stopped : ∀ s, ∀ step ∈ rule.steps, ∀ status reason, step.action = .stop status reason →
    I s → S ((s.push (.executed step)).stopped status reason)
  write : ∀ s, ∀ step ∈ rule.steps, .executed step ∈ s.events → ∀ name v,
    step.action.Writes name v → ¬ step.action.IsStop → I s → I (s.write name v)
  say : ∀ s level message, I s → I (s.say ⟨.rule, level, message⟩)
  warn : ∀ s message, I s → I (s.say ⟨.engine, .warn, message⟩)
  warn_stopped : ∀ s message, S s → S (s.say ⟨.engine, .warn, message⟩)
  raises : ∀ s, ∀ step ∈ rule.steps, .executed step ∈ s.events → ∀ e,
    step.action.Raises store s.vars e → I s → E (some e) s
  missing : ∀ s, ∀ step ∈ rule.steps, .executed step ∈ s.events → ∀ id ∈ step.references,
    rule.step? id = none → I s → E (some (.danglingReference rule.name id)) s

section Chains

variable {rule : Rule} {store : Store} {I S : Session → Prop}
  {E : Option Error → Session → Prop} {id : String} {depth : Nat} {s : Session}

theorem Rule.step_error {e : Error} (h : rule.step id = .error e) :
    rule.step? id = none ∧ e = .danglingReference rule.name id := by
  unfold Rule.step at h
  split at h
  · cases h
  · next hnone =>
    cases h
    exact ⟨hnone, rfl⟩

theorem Rule.exists_step_start (rule : Rule) : ∃ step, rule.step startId = .ok step := by
  obtain ⟨step, hmem, hid⟩ := List.mem_map.mp rule.starts
  cases h : rule.step startId with
  | ok step => exact ⟨step, rfl⟩
  | error e =>
    have hnone := List.find?_eq_none.mp (Rule.step_error h).1 step hmem
    simp [hid] at hnone

/-- `I`, and the step has been executed. -/
def After (I : Session → Prop) (step : Step) (s : Session) : Prop :=
  I s ∧ .executed step ∈ s.events

theorem Upholds.steady_after (h : Upholds rule store I S E) (step : Step) :
    Steady (After I step) S where
  entered s id hs := ⟨h.entered s id hs.1, List.mem_cons_of_mem _ hs.2⟩
  bound s name item hs := ⟨h.bound s name item hs.1, List.mem_cons_of_mem _ hs.2⟩
  take s signal hsignal hs := ⟨h.take s signal hsignal hs.1, List.mem_cons_of_mem _ hs.2⟩
  take_stopped := h.take_stopped

/-- While the action of a step runs, it is known that the step has been executed. -/
theorem Upholds.triple_action (h : Upholds rule store I S E) {chain : String → Exec Signal}
    {step : Step} (hmem : step ∈ rule.steps) (hstop : ¬ step.action.IsStop)
    (hchain : ∀ ref ∈ step.references,
      Triple (After I step) (chain ref) (Signal.Leaves (After I step) S) E) :
    Triple (After I step) (runAction store chain step.action)
      (Signal.Leaves (After I step) S) E := by
  refine (h.steady_after step).triple_runAction store hstop ?_ ?_ ?_ fun ref href =>
    hchain ref (List.mem_append_right _ href)
  · intro s name v hwrites hs
    exact ⟨h.write s step hmem hs.2 name v hwrites hstop hs.1, List.mem_cons_of_mem _ hs.2⟩
  · exact fun s level message hs => ⟨h.say s level message hs.1, hs.2⟩
  · exact fun s e hraises hs => h.raises s step hmem hs.2 e hraises hs.1

/-- What has been executed stays executed, so a chain may start where a step refers to it. -/
theorem triple_reference {step : Step} {ref : String} (hmem : step ∈ rule.steps)
    (href : ref ∈ step.references)
    (hdeeper : Triple (fun s => I s ∧ rule.Reaches ref s) (runChain rule store depth ref)
      (Signal.Leaves I S) E) :
    Triple (After I step) (runChain rule store depth ref) (Signal.Leaves (After I step) S) E := by
  have hkept : ∀ s, .executed step ∈ s.events →
      .executed step ∈ (runChain rule store depth ref s).2.events :=
    fun s hs => ((closed_suffix rule).moves_runChain store depth ref s).subset hs
  refine (hdeeper.frame hkept).weaken ?_ ?_
  · exact fun s hs => ⟨⟨hs.1, Or.inr ⟨step, hmem, hs.2, href⟩⟩, hs.2⟩
  · intro signal s hs
    cases signal with
    | stop => exact hs.1
    | proceed => exact hs
    | leaveLoop => exact hs
    | nextItem => exact hs

/-- One step deeper. -/
theorem Upholds.triple_runChain_succ (h : Upholds rule store I S E)
    (hdeeper : ∀ ref, Triple (fun s => I s ∧ rule.Reaches ref s) (runChain rule store depth ref)
      (Signal.Leaves I S) E) :
    Triple (fun s => I s ∧ rule.Reaches id s) (runChain rule store (depth + 1) id)
      (Signal.Leaves I S) E := by
  rintro s ⟨hs, hreaches⟩
  rw [runChain_succ]
  cases hstep : rule.step id with
  | error e =>
    obtain ⟨hnone, rfl⟩ := Rule.step_error hstep
    -- there is no such step, so one that has been executed asks for it
    obtain ⟨step, hsome⟩ | ⟨step, hmem, hexecuted, href⟩ := hreaches
    · rw [hsome] at hstep
      cases hstep
    · exact h.missing s step hmem hexecuted id href hnone hs
  | ok step =>
    have hmem := Rule.mem_of_step hstep
    rw [lift_ok_bind]
    by_cases hstop : step.action.IsStop
    · obtain ⟨status, reason, haction⟩ := hstop
      simp only [haction, bind_apply, record, update_apply, runAction_stop]
      exact h.stopped s step hmem status reason haction hs
    · have hchain : ∀ ref ∈ step.references, Triple (After I step) (runChain rule store depth ref)
          (Signal.Leaves (After I step) S) E :=
        fun ref href => triple_reference hmem href (hdeeper ref)
      have hbefore : After I step (s.push (.executed step)) :=
        ⟨h.executed s step hmem hstop hs, List.mem_cons_self⟩
      refine ((h.triple_action hmem hstop hchain).bind fun signal => ?_) _ hbefore
      cases signal with
      | proceed =>
        cases hnext : step.next with
        | none => exact triple_pure fun s hs => hs.1
        | some next =>
          have href : next ∈ step.references := by simp [Step.references, hnext]
          exact (hchain next href).weaken (fun _ hs => hs) fun _ _ => .imp fun _ hs => hs.1
      | leaveLoop => exact triple_pure fun s hs => hs.1
      | nextItem => exact triple_pure fun s hs => hs.1
      | stop => exact triple_pure fun s hs => hs

/-- Where a run that goes too deep is allowed for, depth does not matter. -/
theorem Upholds.triple_runChain (h : Upholds rule store I S E)
    (hshort : ∀ s, I s → E none s) (depth : Nat) (id : String) :
    Triple (fun s => I s ∧ rule.Reaches id s) (runChain rule store depth id)
      (Signal.Leaves I S) E := by
  induction depth generalizing id with
  | zero => exact triple_unfinished fun s hs => hshort s hs.1
  | succ depth ih => exact h.triple_runChain_succ ih

/-- What the run of a rule adds to its chain: signals are taken, and a stray one is reported. -/
theorem Upholds.triple_runWithin (store : Store) (h : Upholds rule store I S E)
    (hshort : ∀ s, I s → E none s) (depth : Nat) :
    Triple I (rule.runWithin store depth)
      (fun verdict s => verdict = s.vars.verdict ∧ (I s ∨ S s)) E := by
  have hchain : Triple I (runChain rule store depth startId) (Signal.Leaves I S) E :=
    (h.triple_runChain hshort depth startId).narrow fun s hs =>
      ⟨hs, Or.inl rule.exists_step_start⟩
  refine hchain.bind fun own => ?_
  have hlook : Triple (own.Leaves I S) (look Variables.verdict)
      (fun verdict s => verdict = s.vars.verdict ∧ (I s ∨ S s)) E := by
    intro s hs
    cases own with
    | stop => exact ⟨rfl, Or.inr hs⟩
    | proceed => exact ⟨rfl, Or.inl hs⟩
    | leaveLoop => exact ⟨rfl, Or.inl hs⟩
    | nextItem => exact ⟨rfl, Or.inl hs⟩
  refine (h.triple_takeSignal own (by decide)).bind fun left => ?_
  refine (h.triple_takeSignal own (by decide)).bind fun skipped => ?_
  split
  · refine (triple_update (Q := fun _ => own.Leaves I S) fun s hs => ?_).bind fun _ => hlook
    cases own with
    | stop => exact h.warn_stopped s _ hs
    | proceed => exact h.warn s _ hs
    | leaveLoop => exact h.warn s _ hs
    | nextItem => exact h.warn s _ hs
  · exact hlook

end Chains
end StageGate
