import StageGate.Proofs.Run.Compare

/-! The signals of loops: where they are raised and looked at, and what loops leave of them. -/
namespace StageGate

open Effect Exec

/-- The signal has been raised and not been looked at since. The latest events come first. -/
def Pending (signal : String) (before : Bool) (events : List Event) : Prop :=
  (before = true ∧ .took signal ∉ events) ∨
    ∃ later earlier, events = later ++ .wrote signal (.bool true) :: earlier ∧ .took signal ∉ later

section Flags

variable {signal : String} {before : Bool} {event : Event} {events : List Event} {s t u : Session}

theorem pending_nil : Pending signal before [] ↔ before = true := by
  simp [Pending]

theorem pending_cons :
    Pending signal before (event :: events) ↔
      event ≠ .took signal ∧ (event = .wrote signal (.bool true) ∨
        Pending signal before events) := by
  constructor
  · rintro (⟨hbefore, hmem⟩ | ⟨later, earlier, hsplit, hmem⟩)
    · rw [List.mem_cons, not_or] at hmem
      exact ⟨Ne.symm hmem.1, Or.inr (Or.inl ⟨hbefore, hmem.2⟩)⟩
    · cases later with
      | nil =>
        obtain ⟨rfl, rfl⟩ := List.cons.inj hsplit
        exact ⟨nofun, Or.inl rfl⟩
      | cons head later =>
        obtain ⟨rfl, rfl⟩ := List.cons.inj hsplit
        rw [List.mem_cons, not_or] at hmem
        exact ⟨Ne.symm hmem.1, Or.inr (Or.inr ⟨later, earlier, rfl, hmem.2⟩)⟩
  · rintro ⟨hne, rfl | ⟨hbefore, hmem⟩ | ⟨later, earlier, rfl, hmem⟩⟩
    · exact Or.inr ⟨[], events, rfl, by simp⟩
    · exact Or.inl ⟨hbefore, by simp [Ne.symm hne, hmem]⟩
    · exact Or.inr ⟨event :: later, earlier, rfl, by simp [Ne.symm hne, hmem]⟩

theorem pending_append {before' : Bool} {later earlier : List Event}
    (h : before' = true ↔ Pending signal before earlier) :
    Pending signal before (later ++ earlier) ↔ Pending signal before' later := by
  induction later with
  | nil => rw [List.nil_append, pending_nil, h]
  | cons event later ih => rw [List.cons_append, pending_cons, pending_cons, ih]

/-- From `s` to `t` the signal is as the events tell. -/
def Told (signal : String) (s t : Session) : Prop :=
  ∃ new, t.events = new ++ s.events ∧
    (t.vars.isRaised signal = true ↔ Pending signal (s.vars.isRaised signal) new)

theorem told_trans (hst : Told signal s t) (htu : Told signal t u) : Told signal s u := by
  obtain ⟨new, hevents, hraised⟩ := hst
  obtain ⟨new', hevents', hraised'⟩ := htu
  refine ⟨new' ++ new, by rw [hevents', hevents, List.append_assoc], ?_⟩
  rw [hraised', pending_append hraised]

theorem told_push (s : Session) (htook : event ≠ .took signal)
    (hwrote : event ≠ .wrote signal (.bool true)) : Told signal s (s.push event) := by
  refine ⟨[event], rfl, ?_⟩
  rw [pending_cons, pending_nil]
  simp [htook, hwrote, Session.push]

theorem told_write (s : Session) {name : String} {v : Value}
    (h : name = signal → v = .bool true) : Told signal s (s.write name v) := by
  refine ⟨[.wrote name v], rfl, ?_⟩
  rw [pending_cons, pending_nil]
  simp only [Session.write, Variables.isRaised_put]
  by_cases hname : name = signal
  · subst hname
    simp [h rfl, Value.bool?]
  · simp [hname]

theorem told_take (s : Session) (other : String) : Told signal s (s.take other) := by
  refine ⟨[.took other], rfl, ?_⟩
  rw [pending_cons, pending_nil]
  simp only [Session.take, Variables.isRaised_takeSignal]
  by_cases hother : other = signal
  · simp [hother]
  · simp [hother]

end Flags

def Session.lowered (s : Session) : Session :=
  (s.take Variables.breakName).take Variables.continueName

/-- Neither signal is up. -/
def Session.Quiet (s : Session) : Prop :=
  ∀ signal ∈ Variables.signalNames, s.vars.isRaised signal = false

section Loops

variable {chain : String → Exec Signal} {id name : String} {ids body : List String}
  {items : List Value} {signal : Signal} {s t u : Session}

theorem quiet_lowered (s : Session) : s.lowered.Quiet := by
  intro signal hsignal
  simp only [Session.lowered, Session.take, Variables.isRaised_takeSignal]
  obtain rfl | rfl : signal = Variables.breakName ∨ signal = Variables.continueName := by
    simpa [Variables.signalNames] using hsignal
  · simp
  · simp

theorem isRaised_take_break (s : Session) :
    (s.take Variables.breakName).vars.isRaised Variables.continueName =
      s.vars.isRaised Variables.continueName := by
  rw [Session.take, Variables.isRaised_takeSignal, if_neg (by decide)]

/-- A chain that comes to an end has its signal read off, and the signals in the variables go down
with it. -/
theorem runTurn_of_chain (h : chain id (s.push (.entered id)) = (.done signal, t)) :
    runTurn chain id s =
      (.done (signal.orRaised (t.vars.isRaised Variables.breakName)
        (t.vars.isRaised Variables.continueName)), t.lowered) := by
  simp only [runTurn, record, bind_apply, update_apply, h, takeSignal_apply, isRaised_take_break,
    pure_apply, Session.lowered]

theorem runTurn_done (h : runTurn chain id s = (.done signal, t)) :
    ∃ own u, chain id (s.push (.entered id)) = (.done own, u) ∧
      signal = own.orRaised (u.vars.isRaised Variables.breakName)
        (u.vars.isRaised Variables.continueName) ∧ t = u.lowered := by
  obtain ⟨_, _, hpush, hrest⟩ := bind_eq_done_iff.mp h
  cases hpush
  obtain ⟨own, u, hchain, -⟩ := bind_eq_done_iff.mp hrest
  rw [runTurn_of_chain hchain] at h
  cases h
  exact ⟨own, u, hchain, rfl, rfl⟩

theorem quiet_runBody (hids : ids ≠ []) (h : runBody chain ids s = (.done signal, t)) :
    t.Quiet := by
  induction ids generalizing s with
  | nil => exact (hids rfl).elim
  | cons id ids ih =>
    rw [runBody_cons] at h
    obtain ⟨own, u, hturn, h⟩ := bind_eq_done_iff.mp h
    obtain ⟨_, v, _, _, rfl⟩ := runTurn_done hturn
    split at h
    · cases ids with
      | nil =>
        cases h
        exact quiet_lowered v
      | cons next ids => exact ih (List.cons_ne_nil next ids) h
    · cases h
      exact quiet_lowered v

/-- After a loop that has an item and a body no signal is up, whichever were before. -/
theorem quiet_runItems (hbody : body ≠ []) (hitems : items ≠ [])
    (h : runItems chain name body items s = (.done signal, t)) : t.Quiet := by
  induction items generalizing s with
  | nil => exact (hitems rfl).elim
  | cons item items ih =>
    rw [runItems_cons] at h
    obtain ⟨_, _, _, h⟩ := bind_eq_done_iff.mp h
    obtain ⟨_, _, _, h⟩ := bind_eq_done_iff.mp h
    obtain ⟨own, u, hturns, h⟩ := bind_eq_done_iff.mp h
    have hquiet := quiet_runBody hbody hturns
    split at h
    · cases h
      exact hquiet
    split at h
    · cases h
      exact hquiet
    · cases items with
      | nil =>
        cases h
        exact hquiet
      | cons next items => exact ih (List.cons_ne_nil next items) h

theorem isRaised_assign {flag : String} {v : Value} (hname : name ≠ flag) {a : Unit}
    (h : assign name v s = (.done a, t)) : t.vars.isRaised flag = s.vars.isRaised flag := by
  rw [eq_write_of_assign h, Session.write, Variables.isRaised_put, if_neg hname]

theorem isRaised_runItems_nil {flag : String} (hname : name ≠ flag)
    (h : runItems chain name [] items s = (.done signal, t)) :
    t.vars.isRaised flag = s.vars.isRaised flag := by
  induction items generalizing s with
  | nil =>
    cases h
    rfl
  | cons item items ih =>
    rw [runItems_cons] at h
    obtain ⟨_, u, hassign, h⟩ := bind_eq_done_iff.mp h
    obtain ⟨_, _, hpush, h⟩ := bind_eq_done_iff.mp h
    obtain ⟨_, _, hbody, h⟩ := bind_eq_done_iff.mp h
    cases hpush
    cases hbody
    have hraised := isRaised_assign hname hassign
    exact (ih h).trans hraised

/-- The loop has nothing to run: no item, or no body. -/
def Idle (vars : Variables) (source : String) (body : List String) : Prop :=
  body = [] ∨ ∀ item items, vars.resolve source ≠ .list (item :: items)

/-- A signal that is up when a loop starts is still up after it if the loop is idle, and only
then. -/
theorem isRaised_runLoop {flag source : String} (hflag : flag ∈ Variables.signalNames)
    (hname : name ≠ flag) (h : runLoop chain source name body s = (.done signal, t)) :
    t.vars.isRaised flag = true ↔
      s.vars.isRaised flag = true ∧ Idle s.vars source body := by
  rw [runLoop_apply] at h
  unfold Idle
  cases hfound : s.vars.resolve source with
  | list items =>
    simp only [hfound] at h
    cases items with
    | nil =>
      cases h
      simp
    | cons item items =>
      by_cases hbody : body = []
      · subst hbody
        simp [isRaised_runItems_nil hname h]
      · have hquiet := quiet_runItems hbody (List.cons_ne_nil item items) h
        simp [hquiet flag hflag, hbody]
  | _ =>
    simp only [hfound] at h
    cases h
    simp

end Loops

/-- No signal is looked at from `s` to `t`. -/
def NoneTaken (s t : Session) : Prop :=
  ∃ new, t.events = new ++ s.events ∧ ∀ signal, .took signal ∉ new

section Looks

variable {chain : String → Exec Signal} {s t u : Session}

theorem noneTaken_refl (s : Session) : NoneTaken s s := ⟨[], rfl, by simp⟩

theorem noneTaken_trans (hst : NoneTaken s t) (htu : NoneTaken t u) : NoneTaken s u := by
  obtain ⟨new, hevents, hnone⟩ := hst
  obtain ⟨new', hevents', hnone'⟩ := htu
  refine ⟨new' ++ new, by rw [hevents', hevents, List.append_assoc], fun signal => ?_⟩
  rw [List.mem_append, not_or]
  exact ⟨hnone' signal, hnone signal⟩

theorem moves_runItems_nil (name : String) (items : List Value) :
    Moves NoneTaken (runItems chain name [] items) := by
  have assigned : ∀ v, Moves NoneTaken (assign name v) := by
    intro v s
    rw [assign_apply]
    split
    · exact noneTaken_refl s
    · exact ⟨[.wrote name v], rfl, by simp⟩
  have bound : ∀ v, Moves NoneTaken (record (.bound name v)) :=
    fun v => moves_update fun s => ⟨[.bound name v], rfl, by simp⟩
  induction items with
  | nil => exact moves_pure noneTaken_refl _
  | cons item items ih =>
    rw [runItems_cons]
    refine (assigned item).bind noneTaken_trans fun _ => ?_
    refine (bound item).bind noneTaken_trans fun _ => ?_
    refine (moves_pure noneTaken_refl _).bind noneTaken_trans fun signal => ?_
    split
    · exact moves_pure noneTaken_refl _
    split
    · exact moves_pure noneTaken_refl _
    · exact ih

/-- An idle loop looks at no signal. -/
theorem noneTaken_runLoop {source name : String} {body : List String}
    (h : Idle s.vars source body) : NoneTaken s (runLoop chain source name body s).2 := by
  rw [runLoop_apply]
  split
  · next items hitems =>
    obtain rfl | hlist := h
    · exact moves_runItems_nil name items s
    · cases items with
      | nil => exact noneTaken_refl s
      | cons item items => exact (hlist item items hitems).elim
  · exact noneTaken_refl s

end Looks

/-- The line about a signal that no loop has looked at. -/
def Rule.strayLine (rule : Rule) (keyword : String) : Line :=
  ⟨.engine, .warn, "Rule '" ++ rule.name ++ "': '" ++ keyword ++ "' outside of a loop"⟩

section Ends

variable {rule : Rule} {store : Store} {depth : Nat} {id : String} {s t : Session}
  {signal : Signal}

theorem runBody_of_chain {chain : String → Exec Signal} {ids : List String}
    (h : chain id (s.push (.entered id)) = (.done signal, t)) :
    runBody chain (id :: ids) s =
      match signal.orRaised (t.vars.isRaised Variables.breakName)
        (t.vars.isRaised Variables.continueName) with
      | .proceed => runBody chain ids t.lowered
      | signal => (.done signal, t.lowered) := by
  rw [runBody_cons, bind_apply, runTurn_of_chain h]
  generalize signal.orRaised _ _ = own
  cases own <;> rfl

theorem runWithin_of_chain (h : runChain rule store depth startId s = (.done signal, t)) :
    (rule.runWithin store depth s).2 =
      match strayKeyword signal (t.vars.isRaised Variables.breakName)
        (t.vars.isRaised Variables.continueName) with
      | some keyword => t.lowered.say (rule.strayLine keyword)
      | none => t.lowered := by
  simp only [Rule.runWithin, bind_apply, h, takeSignal_apply, isRaised_take_break]
  cases strayKeyword signal _ _ <;> rfl

end Ends
end StageGate
