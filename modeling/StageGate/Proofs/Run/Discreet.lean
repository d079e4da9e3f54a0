import StageGate.Proofs.Run.Signals

/-! Rules whose steps leave the signals to the loops: who gets to see one, and which ones are lost
on the way. -/
namespace StageGate

open Effect Exec

/-- No step reads or writes a signal by its name. -/
structure Rule.Discreet (rule : Rule) : Prop where
  reads : ∀ step ∈ rule.steps, ∀ path ∈ step.action.paths, ∀ signal ∈ Variables.signalNames,
    (Variables.pathNames path).head? ≠ some signal
  writes : ∀ step ∈ rule.steps, ∀ signal ∈ Variables.signalNames,
    step.action.written? ≠ some signal

theorem Action.Writes.raises {action : Action} {signal : String} {v : Value}
    (h : action.Writes signal v) (hsignal : signal ∈ Variables.signalNames)
    (hwritten : action.written? ≠ some signal) : v = .bool true := by
  cases h with
  | target hname => exact (hwritten hname).elim
  | leaveLoop => rfl
  | nextItem => rfl
  | status => exact absurd hsignal (by decide)
  | reason => exact absurd hsignal (by decide)

section Discreet

variable {rule : Rule} {store : Store} {depth : Nat} {id : String} {own : Signal}
  {s t u : Session}

/-- What raises and lowers the signals of a discreet rule stands in the events. -/
theorem Rule.Discreet.closed_told (h : rule.Discreet) {signal : String}
    (hsignal : signal ∈ Variables.signalNames) : Closed rule (Told signal) where
  refl s := ⟨[], rfl, by rw [pending_nil]⟩
  trans := told_trans
  executed s step _ := told_push s nofun nofun
  bound s name item := told_push s nofun nofun
  entered s id := told_push s nofun nofun
  say s line := ⟨[], rfl, by rw [pending_nil]; rfl⟩
  write s name v := by
    rintro ⟨step, hmem, hwrites⟩
    refine told_write s fun hname => ?_
    subst hname
    exact hwrites.raises hsignal (h.writes step hmem name hsignal)
  take s other := told_take s other

/-- Where the signals are after a chain can be read off the events. -/
theorem Rule.Discreet.pending_iff (h : rule.Discreet)
    (hrun : runChain rule store depth id s = (.done own, t)) :
    ∃ new, t.events = new ++ s.events ∧ ∀ flag ∈ Variables.signalNames,
      (t.vars.isRaised flag = true ↔ Pending flag (s.vars.isRaised flag) new) := by
  have told : ∀ flag ∈ Variables.signalNames, Told flag s t := by
    intro flag hflag
    have hmoves := (h.closed_told hflag).moves_runChain store depth id s
    rwa [hrun] at hmoves
  obtain ⟨new, hnew, -⟩ := told Variables.breakName (by decide)
  refine ⟨new, hnew, fun flag hflag => ?_⟩
  obtain ⟨new', hnew', hraised⟩ := told flag hflag
  rw [hnew, List.append_cancel_right_eq] at hnew'
  exact hnew' ▸ hraised

/-- Nothing but the signals may differ. -/
def Session.SameButSignals (s t : Session) : Prop :=
  (∀ name, name ∉ Variables.signalNames → s.vars.find? name = t.vars.find? name) ∧
    s.events = t.events ∧ s.journal = t.journal

/-- From `s` to `t` the signal is looked at before it has been raised there. -/
def Borrows (signal : String) (s t : Session) : Prop :=
  ∃ later earlier, t.events = later ++ .took signal :: earlier ++ s.events ∧
    .wrote signal (.bool true) ∉ earlier

theorem NoneTaken.not_borrows (h : NoneTaken s t) (signal : String) : ¬Borrows signal s t := by
  rintro ⟨later, earlier, hevents, -⟩
  obtain ⟨new, hnew, hnone⟩ := h
  rw [hevents, List.append_cancel_right_eq] at hnew
  exact hnone signal (hnew ▸ List.mem_append_right _ List.mem_cons_self)

theorem borrows_step {event : Event} {signal : String} (h : Borrows signal s t)
    (hu : u.events = event :: t.events) : Borrows signal s u := by
  obtain ⟨later, earlier, hevents, hwrote⟩ := h
  exact ⟨event :: later, earlier, by rw [hu, hevents]; rfl, hwrote⟩

/-- The sessions differ in nothing but signals that were up in one of `s` and `s'` only, and that
have not been raised since. -/
def Estranged (s s' t t' : Session) : Prop :=
  t.SameButSignals t' ∧ ∃ new, t.events = new ++ s.events ∧
    ∀ signal ∈ Variables.signalNames, t.vars.isRaised signal = t'.vars.isRaised signal ∨
      (s.vars.isRaised signal ≠ s'.vars.isRaised signal ∧ .wrote signal (.bool true) ∉ new)

theorem estranged_push {s' t' : Session} {event : Event} (h : Estranged s s' t t')
    (hevent : ∀ signal, event ≠ .wrote signal (.bool true)) :
    Estranged s s' (t.push event) (t'.push event) := by
  obtain ⟨⟨hvars, hevents, hjournal⟩, new, hnew, hraised⟩ := h
  refine ⟨⟨hvars, by simp [Session.push, hevents], hjournal⟩, event :: new,
    by simp [Session.push, hnew], fun signal hsignal => ?_⟩
  obtain hsame | ⟨hdiffer, hwrote⟩ := hraised signal hsignal
  · exact Or.inl hsame
  · exact Or.inr ⟨hdiffer, by simp [hwrote, Ne.symm (hevent signal)]⟩

theorem estranged_write {s' t' : Session} (h : Estranged s s' t t') (name : String) (v : Value) :
    Estranged s s' (t.write name v) (t'.write name v) := by
  obtain ⟨⟨hvars, hevents, hjournal⟩, new, hnew, hraised⟩ := h
  refine ⟨⟨fun other hother => ?_, by simp [Session.write, hevents], hjournal⟩,
    .wrote name v :: new, by simp [Session.write, hnew], fun signal hsignal => ?_⟩
  · simp only [Session.write, Variables.find?_put, hvars other hother]
  · simp only [Session.write, Variables.isRaised_put]
    by_cases hname : name = signal
    · exact Or.inl (by simp [hname])
    · obtain hsame | ⟨hdiffer, hwrote⟩ := hraised signal hsignal
      · exact Or.inl (by simp [hname, hsame])
      · exact Or.inr ⟨hdiffer, by simp [hwrote, Ne.symm hname]⟩

theorem isRaised_eq_of_same {t' : Session} (h : t.SameButSignals t') {signal : String}
    (hsignal : signal ∉ Variables.signalNames) :
    t.vars.isRaised signal = t'.vars.isRaised signal := by
  unfold Variables.isRaised
  rw [h.1 signal hsignal]

/-- A look at a signal goes the same on both sides, unless it is one that is borrowed. -/
theorem estranged_take {s' t' : Session} (h : Estranged s s' t t') (taken : String) :
    (s.vars.isRaised taken ≠ s'.vars.isRaised taken ∧ Borrows taken s (t.take taken)) ∨
      (t.vars.isRaised taken = t'.vars.isRaised taken ∧
        Estranged s s' (t.take taken) (t'.take taken)) := by
  obtain ⟨hbut, new, hnew, hraised⟩ := h
  have hlook : t.vars.isRaised taken = t'.vars.isRaised taken ∨
      (s.vars.isRaised taken ≠ s'.vars.isRaised taken ∧ .wrote taken (.bool true) ∉ new) := by
    by_cases htaken : taken ∈ Variables.signalNames
    · exact hraised taken htaken
    · exact Or.inl (isRaised_eq_of_same hbut htaken)
  obtain hsame | ⟨hdiffer, hwrote⟩ := hlook
  · obtain ⟨hvars, hevents, hjournal⟩ := hbut
    refine Or.inr ⟨hsame, ⟨fun other hother => ?_, by simp [Session.take, hevents], hjournal⟩,
      .took taken :: new, by simp [Session.take, hnew], fun signal hsignal => ?_⟩
    · simp only [Session.take, Variables.find?_takeSignal, hsame, hvars other hother]
    · simp only [Session.take, Variables.isRaised_takeSignal]
      by_cases hname : taken = signal
      · exact Or.inl (by simp [hname])
      · obtain hsame' | ⟨hdiffer, hwrote⟩ := hraised signal hsignal
        · exact Or.inl (by simp [hname, hsame'])
        · exact Or.inr ⟨hdiffer, by simp [hwrote]⟩
  · exact Or.inl ⟨hdiffer, [], new, by simp [Session.take, hnew], hwrote⟩

/-- Until it borrows one of the signals that tell `s` from `s'`, a discreet rule goes the same way
from both. -/
theorem Rule.Discreet.carried (h : rule.Discreet) (s s' : Session) :
    Carried rule (fun t => ∃ signal, s.vars.isRaised signal ≠ s'.vars.isRaised signal ∧
      Borrows signal s t) (Estranged s s') where
  stop_push t event := fun ⟨signal, hdiffer, hborrows⟩ =>
    ⟨signal, hdiffer, borrows_step hborrows rfl⟩
  stop_say t line hstop := hstop
  stop_write t name v := fun ⟨signal, hdiffer, hborrows⟩ =>
    ⟨signal, hdiffer, borrows_step hborrows rfl⟩
  stop_take t taken := fun ⟨signal, hdiffer, hborrows⟩ =>
    ⟨signal, hdiffer, borrows_step hborrows rfl⟩
  executed t t' step hst := estranged_push hst nofun
  bound t t' name item hst := estranged_push hst nofun
  entered t t' id hst := estranged_push hst nofun
  say t t' line := by
    rintro ⟨⟨hvars, hevents, hjournal⟩, hnew⟩
    exact ⟨⟨hvars, hevents, by simp [Session.say, hjournal]⟩, hnew⟩
  write t t' name v hst := estranged_write hst name v
  take t t' taken hst := (estranged_take hst taken).imp_left fun hborrows => ⟨taken, hborrows⟩
  reads step hmem path hpath t t' := by
    rintro ⟨⟨hvars, -⟩, -⟩
    refine Variables.resolve_congr fun root hroot => hvars root fun hsignal => ?_
    exact h.reads step hmem path hpath root hsignal hroot

/-- Who gets to see the signals in runs of a rule. -/
structure Rule.HeedsSignals (rule : Rule) (store : Store) (depth : Nat) : Prop where
  /-- A signal that is up before a loop is so after it if the loop is idle, and only then. -/
  kept : ∀ step ∈ rule.steps, ∀ source name body, step.action = .loop source name body →
    ∀ s own t, runAction store (runChain rule store depth) step.action s = (.done own, t) →
      ∀ signal ∈ Variables.signalNames,
        (t.vars.isRaised signal = true ↔
          s.vars.isRaised signal = true ∧ Idle s.vars source body)
  /-- An idle loop borrows no signal. -/
  unborrowed : ∀ step ∈ rule.steps, ∀ source name body, step.action = .loop source name body →
    ∀ s, Idle s.vars source body → ∀ signal,
      ¬Borrows signal s (runAction store (runChain rule store depth) step.action s).2
  /-- Signals that a step does not borrow make no difference to it. -/
  blind : ∀ step ∈ rule.steps, ∀ s s', s.SameButSignals s' →
    let run := runAction store (runChain rule store depth) step.action
    (∀ signal, Borrows signal s (run s).2 →
      s.vars.isRaised signal = s'.vars.isRaised signal) →
    (run s).1 = (run s').1 ∧ (run s).2.SameButSignals (run s').2
  /-- After a step of its body, a loop heeds the signals that are pending then, and no others. -/
  heeded : ∀ id ids s t, runChain rule store depth id (s.push (.entered id)) = (.done .proceed, t) →
    ∃ new, t.events = new ++ .entered id :: s.events ∧
      let pending flag := Pending flag (s.vars.isRaised flag) new
      let body := runBody (runChain rule store depth)
      (pending Variables.breakName → body (id :: ids) s = (.done .leaveLoop, t.lowered)) ∧
      (¬pending Variables.breakName → pending Variables.continueName →
        body (id :: ids) s = (.done .nextItem, t.lowered)) ∧
      (¬pending Variables.breakName → ¬pending Variables.continueName →
        body (id :: ids) s = body ids t.lowered)
  /-- A rule reports the signal that it ends with or else the one that is pending then, and no
  other. -/
  reported : ∀ s signal t, runChain rule store depth startId s = (.done signal, t) →
    ∃ new, t.events = new ++ s.events ∧
      let pending flag := Pending flag (s.vars.isRaised flag) new
      let left := signal = .leaveLoop ∨ signal ≠ .nextItem ∧ pending Variables.breakName
      let skipped := signal = .nextItem ∨ pending Variables.continueName
      let after := (rule.runWithin store depth s).2
      (left → after = t.lowered.say (rule.strayLine "break")) ∧
      (¬left → skipped → after = t.lowered.say (rule.strayLine "continue")) ∧
      (¬left → ¬skipped → after = t.lowered)

theorem Rule.Discreet.heedsSignals (h : rule.Discreet) (store : Store) (depth : Nat) :
    rule.HeedsSignals store depth where
  kept step hmem source name body haction s own t hrun signal hsignal := by
    rw [haction] at hrun
    refine isRaised_runLoop hsignal ?_ hrun
    rintro rfl
    exact h.writes step hmem name hsignal (by rw [haction]; rfl)
  unborrowed step hmem source name body haction s hidle := by
    rw [haction]
    exact (noneTaken_runLoop hidle).not_borrows
  blind step hmem s s' hsame := by
    intro run hborrows
    have hchain := (h.carried s s').alike_runChain store depth
    have halike := (h.carried s s').alike_runAction store hchain hmem
    have hstart : Estranged s s' s s' := by
      refine ⟨hsame, [], rfl, fun signal _ => ?_⟩
      by_cases hraised : s.vars.isRaised signal = s'.vars.isRaised signal
      · exact Or.inl hraised
      · exact Or.inr ⟨hraised, List.not_mem_nil⟩
    obtain ⟨signal, hdiffer, hborrowed⟩ | ⟨hending, hsame', -⟩ := halike.related s s' hstart
    · exact (hdiffer (hborrows signal hborrowed)).elim
    · exact ⟨hending, hsame'⟩
  heeded id ids s t hchain := by
    obtain ⟨new, hnew, hpending⟩ := h.pending_iff hchain
    refine ⟨new, hnew, ?_⟩
    have hbreak := hpending Variables.breakName (by decide)
    have hcontinue := hpending Variables.continueName (by decide)
    simp only [Session.push] at hbreak hcontinue
    simp only [runBody_of_chain hchain, ← hbreak, ← hcontinue, Signal.orRaised]
    refine ⟨fun hb => ?_, fun hb hc => ?_, fun hb hc => ?_⟩
    · simp [hb]
    · simp [hb, hc]
    · simp [hb, hc]
  reported s signal t hchain := by
    obtain ⟨new, hnew, hpending⟩ := h.pending_iff hchain
    refine ⟨new, hnew, ?_⟩
    have hbreak := hpending Variables.breakName (by decide)
    have hcontinue := hpending Variables.continueName (by decide)
    simp only [runWithin_of_chain hchain, ← hbreak, ← hcontinue]
    cases signal with
    | leaveLoop => simp [strayKeyword]
    | nextItem => simp [strayKeyword]
    | proceed => refine ⟨fun hb => ?_, fun hb hc => ?_, fun hb hc => ?_⟩ <;> simp_all [strayKeyword]
    | stop => refine ⟨fun hb => ?_, fun hb hc => ?_, fun hb hc => ?_⟩ <;> simp_all [strayKeyword]

end Discreet

/-- For the first of the `xs`, a branch raises a break in front of a loop over the `ys`. -/
def nested : Rule where
  name := "nested"
  steps := [⟨"start", none, .loop "xs" "x" ["check", "after"]⟩,
    ⟨"check", some "inner", .branch ⟨"x", "==", .whole (.ofInt64 1)⟩ ["leave"] []⟩,
    ⟨"leave", none, .leaveLoop⟩,
    ⟨"inner", none, .loop "ys" "y" ["note"]⟩,
    ⟨"note", none, .assign "seen" (.string "@y")⟩,
    ⟨"after", none, .assign "reached" (.string "@x")⟩]
  distinct := by decide
  starts := by decide

def twoByTwo : Variables :=
  (Variables.initial.put "xs" (.list [.int 1, .int 2])).put "ys"
    (.list [.string "a", .string "b"])

/-- In front of the inner loop, with the break up. -/
def leaving : Session := ⟨twoByTwo.put Variables.breakName (.bool true), [], []⟩

theorem nested_discreet : nested.Discreet := ⟨by decide, by decide⟩

theorem heedsSignals_nested :
    nested.Discreet ∧ nested.HeedsSignals .empty nested.size ∧
      ¬Idle leaving.vars "ys" ["note"] :=
  ⟨nested_discreet, nested_discreet.heedsSignals .empty nested.size, by
    rintro (hbody | hlist)
    · cases hbody
    · exact hlist (.string "a") [.string "b"] rfl⟩

/-- The inner loop takes the break away, and the outer one goes on to the second of the `xs`. -/
theorem nested_break_lost :
    nested.Discreet ∧ leaving.vars.isRaised Variables.breakName = true ∧
      (∃ t, runAction .empty (runChain nested .empty nested.size) (.loop "ys" "y" ["note"])
        leaving = (.done .proceed, t) ∧ t.vars.isRaised Variables.breakName = false) ∧
      ((nested.runWithin .empty nested.size ⟨twoByTwo, [], []⟩).2.vars.find? "reached").bind
        Value.int? = some 2 :=
  ⟨nested_discreet, rfl, ⟨_, rfl, rfl⟩, rfl⟩

end StageGate
