import StageGate.Proofs.Run.Signals

/-! What a loop goes through: the items that it binds, and the steps of its body that it runs for
each of them. -/
namespace StageGate

open Effect Exec

/-- `done` is what has been gone through of `full`: all of it in order, unless there is something in
it after which it does not go on. -/
structure Stretch {α β : Type} (key : α → β) (goesOn : α → Prop) (full : List β)
    (done : List α) : Prop where
  initial : done.map key <+: full
  early : ∀ a ∈ done.dropLast, goesOn a
  cut : done.map key ≠ full → ∃ a, done.getLast? = some a ∧ ¬ goesOn a

namespace Stretch

variable {α β : Type} {key : α → β} {goesOn : α → Prop} {full : List β} {done : List α} {a : α}

theorem nil : Stretch key goesOn [] [] where
  initial := List.nil_prefix
  early := nofun
  cut h := (h rfl).elim

theorem single (ha : ¬ goesOn a) (full : List β) : Stretch key goesOn (key a :: full) [a] where
  initial := (List.prefix_cons_inj (key a)).mpr List.nil_prefix
  early := nofun
  cut _ := ⟨a, rfl, ha⟩

theorem cons (h : Stretch key goesOn full done) (ha : goesOn a) :
    Stretch key goesOn (key a :: full) (a :: done) where
  initial := (List.prefix_cons_inj (key a)).mpr h.initial
  early := by
    intro b hb
    cases done with
    | nil => cases hb
    | cons next done =>
      rcases List.mem_cons.mp hb with rfl | hb
      · exact ha
      · exact h.early b hb
  cut := by
    intro hshort
    have hne : done.map key ≠ full := by
      rintro rfl
      exact hshort rfl
    obtain ⟨last, hlast, hstays⟩ := h.cut hne
    refine ⟨last, ?_, hstays⟩
    rw [List.getLast?_cons, hlast]
    rfl

end Stretch

namespace Signal

variable {own : Signal} {left skipped : Bool}

theorem orRaised_eq_proceed_iff :
    own.orRaised left skipped = proceed ↔ own = proceed ∧ left = false ∧ skipped = false := by
  cases own <;> cases left <;> cases skipped <;> simp [orRaised]

theorem orRaised_eq_stop_iff : own.orRaised left skipped = stop ↔ own = stop := by
  cases own <;> cases left <;> cases skipped <;> simp [orRaised]

theorem of_orRaised_eq_leaveLoop (h : own.orRaised left skipped = leaveLoop) :
    own = leaveLoop ∨ left = true := by
  cases own <;> cases left <;> cases skipped <;> simp_all [orRaised]

end Signal

/-- A step of a loop's body, run as a chain: how the chain ended, and the session that it left. -/
structure Turn where
  id : String
  signal : Signal
  after : Session

namespace Turn

/-- What the loop takes the end of the chain for. -/
def reading (turn : Turn) : Signal :=
  turn.signal.orRaised (turn.after.vars.isRaised Variables.breakName)
    (turn.after.vars.isRaised Variables.continueName)

def Proceeds (turn : Turn) : Prop :=
  turn.reading = .proceed

/-- The chain did not just proceed, or has left a signal raised. -/
def Cuts (turn : Turn) : Prop :=
  turn.signal ≠ .proceed ∨
    ∃ signal ∈ Variables.signalNames, turn.after.vars.isRaised signal = true

/-- The chain left the loop or stopped the run, or has left a break raised. -/
def Ends (turn : Turn) : Prop :=
  turn.signal = .leaveLoop ∨ turn.signal = .stop ∨
    turn.after.vars.isRaised Variables.breakName = true

variable {turn : Turn}

theorem cuts_iff : turn.Cuts ↔ ¬ turn.Proceeds := by
  have hraised : (∃ signal ∈ Variables.signalNames, turn.after.vars.isRaised signal = true) ↔
      turn.after.vars.isRaised Variables.breakName = true ∨
        turn.after.vars.isRaised Variables.continueName = true := by
    simp [Variables.signalNames]
  rw [Cuts, hraised, Proceeds, reading, Signal.orRaised_eq_proceed_iff]
  grind

theorem ends_of_reading (h : turn.reading = .leaveLoop ∨ turn.reading = .stop) : turn.Ends := by
  rcases h with h | h
  · rcases Signal.of_orRaised_eq_leaveLoop h with hsignal | hbreak
    · exact Or.inl hsignal
    · exact Or.inr (Or.inr hbreak)
  · exact Or.inr (Or.inl (Signal.orRaised_eq_stop_iff.mp h))

end Turn

/-- An item that a loop has bound, and what it has run for it. -/
structure Visit where
  item : Value
  turns : List Turn

namespace Visit

/-- The reading of the last turn; without a turn, the loop just proceeds. -/
def reading (visit : Visit) : Signal :=
  (visit.turns.getLast?.map Turn.reading).getD .proceed

/-- The loop goes on to the next item, if there is one. -/
def GoesOn (visit : Visit) : Prop :=
  visit.reading ≠ .stop ∧ visit.reading ≠ .leaveLoop

variable {visit : Visit}

theorem exists_turn (h : visit.reading ≠ .proceed) :
    ∃ turn, visit.turns.getLast? = some turn ∧ turn.reading = visit.reading := by
  unfold reading at h ⊢
  cases hlast : visit.turns.getLast? with
  | none =>
    rw [hlast] at h
    exact (h rfl).elim
  | some turn => exact ⟨turn, rfl, rfl⟩

/-- Only a turn that ends the loop keeps it from going on. -/
theorem exists_end (h : ¬ visit.GoesOn) :
    ∃ turn, visit.turns.getLast? = some turn ∧ turn.Ends := by
  have hreading : visit.reading = .leaveLoop ∨ visit.reading = .stop := by
    unfold GoesOn at h
    grind
  have hne : visit.reading ≠ .proceed := by
    rcases hreading with h | h <;> rw [h] <;> nofun
  obtain ⟨turn, hturn, hsame⟩ := exists_turn hne
  rw [← hsame] at hreading
  exact ⟨turn, hturn, Turn.ends_of_reading hreading⟩

end Visit

/-- From `s` to `t` chains have run as in the turns, one after another; after each of them both
signals are lowered. -/
inductive Turns (chain : String → Exec Signal) : Session → List Turn → Session → Prop
  | nil (s : Session) : Turns chain s [] s
  | cons {s t : Session} {turn : Turn} {turns : List Turn}
    (hchain : chain turn.id (s.push (.entered turn.id)) = (.done turn.signal, turn.after))
    (hrest : Turns chain turn.after.lowered turns t) : Turns chain s (turn :: turns) t

/-- From `s` to `t` items have been bound to the name as in the visits, one after another, and for
each of them chains have run as in its turns. -/
inductive Visits (chain : String → Exec Signal) (name : String) :
    Session → List Visit → Session → Prop
  | nil (s : Session) : Visits chain name s [] s
  | cons {s t u : Session} {visit : Visit} {visits : List Visit}
    (hturns : Turns chain ((s.write name visit.item).push (.bound name visit.item)) visit.turns t)
    (hrest : Visits chain name t visits u) : Visits chain name s (visit :: visits) u

/-- How a loop ends that has made these visits. -/
def endAfter (visits : List Visit) : Signal :=
  if visits.getLast?.map Visit.reading = some .stop then .stop else .proceed

theorem endAfter_cons {visit : Visit} (h : visit.GoesOn) (visits : List Visit) :
    endAfter (visit :: visits) = endAfter visits := by
  cases visits with
  | nil => simp [endAfter, h.1]
  | cons next visits => simp [endAfter]

section Runs

variable {chain : String → Exec Signal} {name source : String} {ids body : List String}
  {items : List Value} {signal : Signal} {s t : Session} {turns : List Turn} {visits : List Visit}

theorem Turns.quiet (h : Turns chain s turns t) (hs : s.Quiet) : t.Quiet := by
  induction h with
  | nil s => exact hs
  | cons hchain hrest ih => exact ih (quiet_lowered _)

theorem quiet_bind (hname : name ∉ Variables.signalNames) (item : Value) (hs : s.Quiet) :
    ((s.write name item).push (.bound name item)).Quiet := by
  intro signal hsignal
  have hne : name ≠ signal := by
    rintro rfl
    exact hname hsignal
  have hput := Variables.isRaised_put s.vars name signal item
  rw [if_neg hne, hs signal hsignal] at hput
  exact hput

/-- Visits that start with no signal up end with none up. -/
theorem Visits.quiet (h : Visits chain name s visits t) (hname : name ∉ Variables.signalNames)
    (hs : s.Quiet) : t.Quiet := by
  induction h with
  | nil s => exact hs
  | cons hturns hrest ih =>
    apply ih
    apply hturns.quiet
    exact quiet_bind hname _ hs

/-- What a loop runs for one item. -/
theorem turns_of_runBody (item : Value) (h : runBody chain ids s = (.done signal, t)) :
    ∃ turns, Turns chain s turns t ∧ Stretch Turn.id Turn.Proceeds ids turns ∧
      signal = Visit.reading ⟨item, turns⟩ := by
  induction ids generalizing s with
  | nil =>
    cases h
    exact ⟨[], .nil _, .nil, rfl⟩
  | cons id ids ih =>
    rw [runBody_cons] at h
    obtain ⟨reading, u, hturn, h⟩ := bind_eq_done_iff.mp h
    obtain ⟨own, after, hchain, hreading, rfl⟩ := runTurn_done hturn
    let turn : Turn := ⟨id, own, after⟩
    have hturn : turn.reading = reading := hreading.symm
    split at h
    · next hproceed =>
      obtain ⟨turns, hturns, hstretch, hsignal⟩ := ih h
      refine ⟨turn :: turns, .cons hchain hturns, hstretch.cons (hturn.trans hproceed), ?_⟩
      rw [hsignal]
      cases turns with
      | nil => exact (hturn.trans hproceed).symm
      | cons next turns => simp [Visit.reading]
    · next hproceed =>
      cases h
      have hstays : ¬ turn.Proceeds := by
        rw [Turn.Proceeds, hturn]
        exact hproceed
      exact ⟨[turn], .cons hchain (.nil _), .single hstays ids, hturn.symm⟩

/-- What a loop runs altogether. -/
theorem visits_of_runItems (h : runItems chain name body items s = (.done signal, t)) :
    ∃ visits, Visits chain name s visits t ∧ Stretch Visit.item Visit.GoesOn items visits ∧
      (∀ visit ∈ visits, Stretch Turn.id Turn.Proceeds body visit.turns) ∧
      signal = endAfter visits := by
  induction items generalizing s with
  | nil =>
    cases h
    exact ⟨[], .nil _, .nil, nofun, rfl⟩
  | cons item items ih =>
    rw [runItems_cons] at h
    obtain ⟨_, _, hassign, hbound⟩ := bind_eq_done_iff.mp h
    obtain rfl := eq_write_of_assign hassign
    obtain ⟨_, _, ⟨⟩, hrun⟩ := bind_eq_done_iff.mp hbound
    obtain ⟨reading, u, hbody, hafter⟩ := bind_eq_done_iff.mp hrun
    obtain ⟨turns, hturns, hstretch, hreading⟩ := turns_of_runBody item hbody
    let visit : Visit := ⟨item, turns⟩
    have hvisit : visit.reading = reading := hreading.symm
    have hbodies : ∀ visits : List Visit,
        (∀ other ∈ visits, Stretch Turn.id Turn.Proceeds body other.turns) →
          ∀ other ∈ visit :: visits, Stretch Turn.id Turn.Proceeds body other.turns :=
      fun visits hvisits => List.forall_mem_cons.mpr ⟨hstretch, hvisits⟩
    split at hafter
    · next hstop =>
      cases hafter
      have hstays : ¬ visit.GoesOn := fun hgoes => hgoes.1 (hvisit.trans hstop)
      refine ⟨[visit], .cons hturns (.nil _), .single hstays items, hbodies [] nofun, ?_⟩
      simp [endAfter, hvisit, hstop]
    split at hafter
    · next hstop hleave =>
      cases hafter
      have hstays : ¬ visit.GoesOn := fun hgoes => hgoes.2 (hvisit.trans hleave)
      refine ⟨[visit], .cons hturns (.nil _), .single hstays items, hbodies [] nofun, ?_⟩
      simp [endAfter, hvisit, hstop]
    · next hstop hleave =>
      have hgoes : visit.GoesOn := by
        rw [Visit.GoesOn, hvisit]
        exact ⟨hstop, hleave⟩
      obtain ⟨visits, hvisits, hitems, hturned, hsignal⟩ := ih hafter
      refine ⟨visit :: visits, .cons hturns hvisits, hitems.cons hgoes, hbodies visits hturned, ?_⟩
      rw [endAfter_cons hgoes]
      exact hsignal

theorem mem_dropLast_not_cuts (h : Stretch Turn.id Turn.Proceeds ids turns) :
    ∀ turn ∈ turns.dropLast, ¬ turn.Cuts := by
  intro turn hturn hcuts
  exact Turn.cuts_iff.mp hcuts (h.early turn hturn)

theorem exists_cut (h : Stretch Turn.id Turn.Proceeds ids turns)
    (hshort : turns.map Turn.id ≠ ids) : ∃ turn, turns.getLast? = some turn ∧ turn.Cuts := by
  obtain ⟨turn, hturn, hstays⟩ := h.cut hshort
  exact ⟨turn, hturn, Turn.cuts_iff.mpr hstays⟩

theorem exists_last_end (h : Stretch Visit.item Visit.GoesOn items visits)
    (hshort : visits.map Visit.item ≠ items) :
    ∃ visit turn, visits.getLast? = some visit ∧ visit.turns.getLast? = some turn ∧ turn.Ends := by
  obtain ⟨visit, hvisit, hstays⟩ := h.cut hshort
  obtain ⟨turn, hturn, hends⟩ := Visit.exists_end hstays
  exact ⟨visit, turn, hvisit, hturn, hends⟩

theorem endAfter_eq_stop_iff :
    endAfter visits = .stop ↔ ∃ visit turn, visits.getLast? = some visit ∧
      visit.turns.getLast? = some turn ∧ turn.signal = .stop := by
  have hstop : endAfter visits = .stop ↔
      ∃ visit, visits.getLast? = some visit ∧ visit.reading = .stop := by
    unfold endAfter
    split
    · next h => simpa using h
    · next h => simpa using h
  rw [hstop]
  constructor
  · rintro ⟨visit, hvisit, hreading⟩
    have hne : visit.reading ≠ .proceed := by
      rw [hreading]
      nofun
    obtain ⟨turn, hturn, hsame⟩ := Visit.exists_turn hne
    rw [hreading] at hsame
    exact ⟨visit, turn, hvisit, hturn, Signal.orRaised_eq_stop_iff.mp hsame⟩
  · rintro ⟨visit, turn, hvisit, hturn, hsignal⟩
    refine ⟨visit, hvisit, ?_⟩
    rw [Visit.reading, hturn]
    exact Signal.orRaised_eq_stop_iff.mpr hsignal

/-- A loop that starts with no signal up, and does not bind a signal's name itself, visits the items
that its source has at the start, from the first one on, and runs the steps of its body for each of
them. Only the last turn for an item may cut its body short, and only the last turn of all may end
the loop before its items do; a stop is passed on, and nothing else. In the end no signal is up. -/
theorem runLoop_visits {rule : Rule} {store : Store} {depth : Nat}
    (hname : name ∉ Variables.signalNames) (hsource : s.vars.resolve source = .list items)
    (hquiet : s.Quiet)
    (h : runAction store (runChain rule store depth) (.loop source name body) s =
      (.done signal, t)) :
    ∃ visits : List Visit,
      Visits (runChain rule store depth) name s visits t ∧
      visits.map Visit.item <+: items ∧
      (∀ visit ∈ visits, visit.turns.map Turn.id <+: body ∧
        (∀ turn ∈ visit.turns.dropLast, ¬ turn.Cuts) ∧
        (visit.turns.map Turn.id ≠ body →
          ∃ turn, visit.turns.getLast? = some turn ∧ turn.Cuts)) ∧
      (visits.map Visit.item ≠ items →
        ∃ visit turn, visits.getLast? = some visit ∧ visit.turns.getLast? = some turn ∧
          turn.Ends) ∧
      (signal = .proceed ∨ signal = .stop) ∧
      (signal = .stop ↔
        ∃ visit turn, visits.getLast? = some visit ∧ visit.turns.getLast? = some turn ∧
          turn.signal = .stop) ∧
      t.Quiet := by
  have hitems : runItems (runChain rule store depth) name body items s = (.done signal, t) := by
    have hloop : runLoop (runChain rule store depth) source name body s = (.done signal, t) := h
    rwa [runLoop_apply, hsource] at hloop
  obtain ⟨visits, hvisits, hstretch, hbodies, rfl⟩ := visits_of_runItems hitems
  have hturns : ∀ visit ∈ visits, visit.turns.map Turn.id <+: body ∧
      (∀ turn ∈ visit.turns.dropLast, ¬ turn.Cuts) ∧
      (visit.turns.map Turn.id ≠ body →
        ∃ turn, visit.turns.getLast? = some turn ∧ turn.Cuts) := by
    intro visit hvisit
    have hbody := hbodies visit hvisit
    exact ⟨hbody.initial, mem_dropLast_not_cuts hbody, exists_cut hbody⟩
  have hsignal : endAfter visits = .proceed ∨ endAfter visits = .stop := by
    unfold endAfter
    split
    · exact Or.inr rfl
    · exact Or.inl rfl
  exact ⟨visits, hvisits, hstretch.initial, hturns, exists_last_end hstretch, hsignal,
    endAfter_eq_stop_iff, hvisits.quiet hname hquiet⟩

end Runs

/-- The body takes the items away from the source, and leaves the loop at its second item. -/
def selfEmptying : Rule where
  name := "selfEmptying"
  steps := [⟨"start", none, .loop "xs" "x" ["empty", "check", "note"]⟩,
    ⟨"empty", none, .assign "xs" (.string "none")⟩,
    ⟨"check", none, .branch ⟨"x", "==", .whole (.ofInt64 2)⟩ ["leave"] []⟩,
    ⟨"leave", none, .leaveLoop⟩,
    ⟨"note", none, .assign "seen" (.string "@x")⟩]
  distinct := by decide
  starts := by decide

def threeItems : Session :=
  ⟨Variables.initial.put "xs" (.list [.int 1, .int 2, .int 3]), [], []⟩

theorem runLoop_visits_selfEmptying :
    ∃ (t : Session) (visits : List Visit),
      runAction .empty (runChain selfEmptying .empty 4)
        (.loop "xs" "x" ["empty", "check", "note"]) threeItems = (.done .proceed, t) ∧
      Visits (runChain selfEmptying .empty 4) "x" threeItems visits t ∧
      visits.map Visit.item <+: [.int 1, .int 2, .int 3] ∧ t.Quiet := by
  have hquiet : threeItems.Quiet := by
    unfold Session.Quiet
    decide
  let after := (runAction .empty (runChain selfEmptying .empty 4)
    (.loop "xs" "x" ["empty", "check", "note"]) threeItems).2
  have hrun : runAction .empty (runChain selfEmptying .empty 4)
      (.loop "xs" "x" ["empty", "check", "note"]) threeItems = (.done .proceed, after) := rfl
  obtain ⟨visits, hvisits, hitems, -, -, -, -, hafter⟩ :=
    runLoop_visits (by decide) rfl hquiet hrun
  exact ⟨after, visits, hrun, hvisits, hitems, hafter⟩

end StageGate
