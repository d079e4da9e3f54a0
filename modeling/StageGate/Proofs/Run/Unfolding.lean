import StageGate.Run

/-! What the parts of a run do, one piece after another, and what its actions write. -/
namespace StageGate

open Effect Exec

def Variables.signalNames : List String := [breakName, continueName]

@[simp] theorem Exec.look_apply {α : Type} (f : Variables → α) (s : Session) :
    look f s = (.done (f s.vars), s) := rfl

theorem Exec.assign_apply (name : String) (v : Value) (s : Session) :
    assign name v s =
      if Text.isBlank name then (.failed (.invalidName name), s)
      else (.done (), s.write name v) := by
  by_cases h : Text.isBlank name <;> simp [assign, Variables.set, bind_apply, h]

theorem Exec.eq_write_of_assign {name : String} {v : Value} {s t : Session} {a : Unit}
    (h : assign name v s = (.done a, t)) : t = s.write name v := by
  rw [assign_apply] at h
  split at h
  · cases h
  · cases h
    rfl

theorem Exec.takeSignal_apply (signal : String) (s : Session) :
    takeSignal signal s = (.done (s.vars.isRaised signal), s.take signal) := rfl

theorem runBody_cons (chain : String → Exec Signal) (id : String) (ids : List String) :
    runBody chain (id :: ids) = (runTurn chain id >>= fun signal =>
      if signal = .proceed then runBody chain ids else pure signal) := by
  simp only [runBody]
  congr 1
  funext signal
  cases signal <;> rfl

theorem runItems_cons (chain : String → Exec Signal) (name : String) (body : List String)
    (item : Value) (items : List Value) :
    runItems chain name body (item :: items) =
      (assign name item >>= fun _ => record (.bound name item) >>= fun _ =>
        runBody chain body >>= fun signal =>
        if signal = .stop then pure .stop
        else if signal = .leaveLoop then pure .proceed
        else runItems chain name body items) := by
  simp only [runItems]
  congr 1
  funext _
  congr 1
  funext _
  congr 1
  funext signal
  cases signal <;> rfl

theorem runLoop_apply (chain : String → Exec Signal) (source name : String) (body : List String)
    (s : Session) :
    runLoop chain source name body s =
      match s.vars.resolve source with
      | .list items => runItems chain name body items s
      | _ => (.done .proceed, s) := by
  simp only [runLoop, bind_apply, look_apply]
  cases s.vars.resolve source <;> rfl

theorem runChain_succ (rule : Rule) (store : Store) (depth : Nat) (id : String) :
    runChain rule store (depth + 1) id = (lift (rule.step id) >>= fun step =>
      record (.executed step) >>= fun _ =>
      runAction store (runChain rule store depth) step.action >>= fun signal =>
      if signal = .proceed then
        match step.next with
        | some next => runChain rule store depth next
        | none => pure .proceed
      else pure signal) := by
  simp only [runChain]
  congr 1
  funext step
  congr 1
  funext _
  congr 1
  funext signal
  cases signal <;> rfl

/-- What an action may write, and with which value. -/
inductive Action.Writes : Action → String → Value → Prop
  | target {action : Action} {name : String} (h : action.written? = some name) (v : Value) :
    Writes action name v
  | leaveLoop : Writes .leaveLoop Variables.breakName (.bool true)
  | nextItem : Writes .nextItem Variables.continueName (.bool true)
  | status (passed : Bool) (reason : Option String) :
    Writes (.stop passed reason) Variables.statusName (.bool passed)
  | reason (passed : Bool) (reason : Option String) :
    Writes (.stop passed reason) Variables.reasonName
      (.string (reason.getD defaultStopReason))

/-- The value that goes into the variable of an action that does nothing else. -/
def Action.value? (store : Store) (vars : Variables) : Action → Option (Except Error Value)
  | fetch query => some (store.fetchOne query.entity (query.resolve vars))
  | fetchList query => some (Value.list <$> store.fetchList query.entity (query.resolve vars))
  | assign _ raw => some (.ok (assignedValue raw vars))
  | measure startDate endDate unit _ => some (measuredSpan startDate endDate unit vars)
  | _ => none

/-- What is left once the value has gone there: without a value or a proper name, nothing has. -/
def Session.settle (s : Session) (name : String) (value : Except Error Value) :
    Ending Signal × Session :=
  match value with
  | .error e => (.failed e, s)
  | .ok v => if Text.isBlank name then (.failed (.invalidName name), s)
    else (.done .proceed, s.write name v)

section Values

variable {store : Store} {chain : String → Exec Signal} {action : Action} {name : String}
  {s : Session} {value : Except Error Value} {v : Value}

theorem settle_blank (hname : Text.isBlank name = true) (v : Value) :
    s.settle name (.ok v) = (.failed (.invalidName name), s) :=
  if_pos hname

theorem settle_ok (hname : ¬ Text.isBlank name = true) :
    s.settle name (.ok v) = (.done .proceed, s.write name v) :=
  if_neg hname

theorem assign_proceed (name : String) (v : Value) (s : Session) :
    (assign name v >>= fun _ => pure Signal.proceed) s = s.settle name (.ok v) := by
  rw [bind_apply, assign_apply]
  by_cases hname : Text.isBlank name = true
  · rw [if_pos hname, settle_blank hname]
  · rw [if_neg hname, settle_ok hname]
    rfl

theorem runAction_value (hname : action.written? = some name)
    (hvalue : action.value? store s.vars = some value) :
    runAction store chain action s = s.settle name value := by
  cases action with
  | fetch query =>
    cases hname
    cases hvalue
    simp only [runAction, bind_apply, look_apply]
    cases store.fetchOne query.entity (query.resolve s.vars) with
    | error e => rfl
    | ok found => exact assign_proceed query.storeAs found s
  | fetchList query =>
    cases hname
    cases hvalue
    simp only [runAction, bind_apply, look_apply]
    cases store.fetchList query.entity (query.resolve s.vars) with
    | error e => rfl
    | ok found => exact assign_proceed query.storeAs (.list found) s
  | assign target raw =>
    cases hname
    cases hvalue
    exact assign_proceed name _ s
  | measure startDate endDate unit storeAs =>
    cases hname
    cases hvalue
    simp only [runAction, bind_apply, look_apply]
    cases measuredSpan startDate endDate unit s.vars with
    | error e => rfl
    | ok span => exact assign_proceed name span s
  | _ => cases hvalue

end Values

def Rule.Writes (rule : Rule) (name : String) (v : Value) : Prop :=
  ∃ step ∈ rule.steps, step.action.Writes name v

theorem Rule.step?_of_step {rule : Rule} {id : String} {step : Step}
    (h : rule.step id = .ok step) : rule.step? id = some step := by
  unfold Rule.step at h
  split at h
  · next found hfound =>
    cases h
    exact hfound
  · cases h

theorem Rule.mem_of_step {rule : Rule} {id : String} {step : Step}
    (h : rule.step id = .ok step) : step ∈ rule.steps :=
  List.mem_of_find?_eq_some (step?_of_step h)

theorem Rule.id_of_step {rule : Rule} {id : String} {step : Step}
    (h : rule.step id = .ok step) : step.id = id :=
  beq_iff_eq.mp (List.find?_some (p := fun step : Step => step.id == id) (step?_of_step h))

/-- A chain goes on from a step whose action proceeds. -/
theorem runChain_of_action {rule : Rule} {store : Store} {depth : Nat} {id : String} {step : Step}
    {s t : Session} (hstep : rule.step id = .ok step)
    (h : runAction store (runChain rule store depth) step.action (s.push (.executed step)) =
      (.done .proceed, t)) :
    runChain rule store (depth + 1) id s =
      match step.next with
      | some next => runChain rule store depth next t
      | none => (.done .proceed, t) := by
  rw [runChain_succ, hstep, lift_ok_bind]
  simp only [record, bind_apply, update_apply, h]
  cases step.next <;> rfl

theorem runChain_of_failed {rule : Rule} {store : Store} {depth : Nat} {id : String} {step : Step}
    {s t : Session} {e : Error} (hstep : rule.step id = .ok step)
    (h : runAction store (runChain rule store depth) step.action (s.push (.executed step)) =
      (.failed e, t)) :
    runChain rule store (depth + 1) id s = (.failed e, t) := by
  rw [runChain_succ, hstep, lift_ok_bind]
  simp only [record, bind_apply, update_apply, h]

end StageGate
