import StageGate.Proofs.Run.Invariant

/-! The variables that runs write: only those that the rule names, and a step that only writes its
variable does that or nothing. -/
namespace StageGate

open Effect Exec

/-- The names that actions write without naming them. -/
def Variables.reservedNames : List String := statusName :: reasonName :: signalNames

/-- A step of the rule names the variable, or its name is reserved. -/
def Rule.Touches (rule : Rule) (name : String) : Prop :=
  name ∈ Variables.reservedNames ∨ ∃ step ∈ rule.steps, step.action.written? = some name

instance (rule : Rule) (name : String) : Decidable (rule.Touches name) :=
  inferInstanceAs (Decidable (_ ∨ _))

/-- The variables that the rule does not touch are as they were at the start. -/
def Spares (rule : Rule) (start : Variables) (s : Session) : Prop :=
  ∀ name, ¬ rule.Touches name → s.vars.find? name = start.find? name

section Runs

variable {rule : Rule} {start : Variables} {s : Session} {step : Step} {name : String} {v : Value}

theorem Action.Writes.touches (h : step.action.Writes name v) (hmem : step ∈ rule.steps) :
    rule.Touches name := by
  generalize haction : step.action = action at h
  cases h with
  | target hname v =>
    rw [← haction] at hname
    exact Or.inr ⟨step, hmem, hname⟩
  | leaveLoop => exact Or.inl (by decide)
  | nextItem => exact Or.inl (by decide)
  | status passed reason => exact Or.inl (by decide)
  | reason passed reason => exact Or.inl (by decide)

theorem Spares.write (h : Spares rule start s) (hname : rule.Touches name) (v : Value) :
    Spares rule start (s.write name v) := by
  intro other hother
  have hne : name ≠ other := by
    rintro rfl
    exact hother hname
  rw [Session.write, Variables.find?_put, if_neg hne]
  exact h other hother

theorem Spares.take {signal : String} (h : Spares rule start s)
    (hsignal : signal ∈ Variables.signalNames) : Spares rule start (s.take signal) := by
  intro other hother
  have htouches : rule.Touches signal :=
    Or.inl (List.mem_cons_of_mem _ (List.mem_cons_of_mem _ hsignal))
  have hne : signal ≠ other := by
    rintro rfl
    exact hother htouches
  rw [Session.take, Variables.find?_takeSignal, if_neg fun hboth => hne hboth.2]
  exact h other hother

theorem upholds_spares (rule : Rule) (store : Store) (start : Variables) :
    Upholds rule store (Spares rule start) (Spares rule start) fun _ => Spares rule start where
  entered _ _ h := h
  bound _ _ _ h := h
  take _ _ hsignal h := h.take hsignal
  take_stopped _ _ hsignal h := h.take hsignal
  executed _ _ _ _ h := h
  stopped s step _ status reason _ h := by
    have hpush : Spares rule start (s.push (.executed step)) := h
    exact (hpush.write (Or.inl (by decide)) _).write (Or.inl (by decide)) _
  write _ _ hmem _ _ v hwrites _ h := h.write (hwrites.touches hmem) v
  say _ _ _ h := h
  warn _ _ h := h
  warn_stopped _ _ h := h
  raises _ _ _ _ _ _ h := h
  missing _ _ _ _ _ _ _ h := h

theorem spares_runWithin (rule : Rule) (store : Store) (depth : Nat) (s : Session) :
    Spares rule s.vars (rule.runWithin store depth s).2 := by
  have hrun := (upholds_spares rule store s.vars).triple_runWithin store (fun _ h => h) depth
  have hstart : Spares rule s.vars s := fun name hname => rfl
  have hafter := hrun s hstart
  generalize rule.runWithin store depth s = run at hafter
  obtain ⟨ending, t⟩ := run
  cases ending with
  | done verdict => exact hafter.2.elim id id
  | failed e => exact hafter
  | unfinished => exact hafter

end Runs

def Action.IsLoop (action : Action) : Prop :=
  ∃ source item body, action = .loop source item body

theorem Action.exists_value {action : Action} {name : String} (store : Store) (vars : Variables)
    (hname : action.written? = some name) (hloop : ¬ action.IsLoop) :
    ∃ value, action.value? store vars = some value := by
  cases action with
  | loop source item body => exact (hloop ⟨source, item, body, rfl⟩).elim
  | fetch query => exact ⟨_, rfl⟩
  | fetchList query => exact ⟨_, rfl⟩
  | assign target raw => exact ⟨_, rfl⟩
  | measure startDate endDate unit storeAs => exact ⟨_, rfl⟩
  | _ => cases hname

/-- A run writes only the variables that the rule names and the four that are reserved, however it
ends. A step that is there to write its variable fails and leaves the variables as they are, or has
written that one and no other when the chain goes on. -/
theorem Rule.run_writes_targets :
    (∀ (rule : Rule) (store : Store) (depth : Nat) (s : Session) (name : String),
      ¬ rule.Touches name →
        (rule.runWithin store depth s).2.vars.find? name = s.vars.find? name) ∧
      ∀ (rule : Rule) (store : Store) (depth : Nat) (s : Session) (id : String) (step : Step)
        (name : String),
        rule.step id = .ok step → step.action.written? = some name → ¬ step.action.IsLoop →
          (∃ e, runChain rule store (depth + 1) id s = (.failed e, s.push (.executed step))) ∨
            ∃ v t, t = (s.push (.executed step)).write name v ∧
              (∀ other ≠ name, t.vars.find? other = s.vars.find? other) ∧
              runChain rule store (depth + 1) id s =
                match step.next with
                | some next => runChain rule store depth next t
                | none => (.done .proceed, t) := by
  refine ⟨fun rule store depth s => spares_runWithin rule store depth s, ?_⟩
  intro rule store depth s id step name hstep hname hloop
  obtain ⟨value, hvalue⟩ := Action.exists_value store s.vars hname hloop
  have hpushed : step.action.value? store (s.push (.executed step)).vars = some value := hvalue
  rcases runAction_settles hname hpushed with ⟨e, -, hfailed⟩ | ⟨v, hdone⟩
  · exact Or.inl ⟨e, runChain_of_failed hstep hfailed⟩
  · refine Or.inr ⟨v, (s.push (.executed step)).write name v, rfl, ?_, ?_⟩
    · intro other hother
      exact (Variables.find?_put s.vars name other v).trans (if_neg hother.symm)
    · exact runChain_of_action hstep hdone

/-- Marks the item of its loop, and fails at the second one. -/
def marking : Rule where
  name := "marking"
  steps := [⟨"start", none, .loop "xs" "x" ["mark", "check"]⟩,
    ⟨"mark", none, .assign "last" (.string "@x")⟩,
    ⟨"check", none, .branch ⟨"last", "==", .whole (.ofInt64 2)⟩ ["fail"] []⟩,
    ⟨"fail", none, .assign " " (.bool true)⟩]
  distinct := by decide
  starts := by decide

def twoItems : Session :=
  ⟨(Variables.initial.put "xs" (.list [.int 1, .int 2])).put "kept" (.int 7), [], []⟩

theorem run_writes_targets_marking :
    (marking.runWithin .empty 4 twoItems).1 = .failed (.invalidName " ") ∧
      (marking.runWithin .empty 4 twoItems).2.vars.find? "last" = some (.int 2) ∧
      (marking.runWithin .empty 4 twoItems).2.vars.find? "kept" = some (.int 7) ∧
      ∃ e, runChain marking .empty 1 "fail" twoItems =
        (.failed e, twoItems.push (.executed ⟨"fail", none, .assign " " (.bool true)⟩)) := by
  have hkept := Rule.run_writes_targets.1 marking .empty 4 twoItems "kept" (by decide)
  have hstep := Rule.run_writes_targets.2 marking .empty 0 twoItems "fail"
    ⟨"fail", none, .assign " " (.bool true)⟩ " " rfl rfl (by rintro ⟨_, _, _, ⟨⟩⟩)
  refine ⟨rfl, rfl, hkept, ?_⟩
  rcases hstep with hfailed | ⟨v, t, -, -, hdone⟩
  · exact hfailed
  · cases hdone

end StageGate
