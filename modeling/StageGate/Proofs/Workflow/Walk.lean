import StageGate.Proofs.Run.Depth
import StageGate.Proofs.Run.Journal
import StageGate.Proofs.StateOrder
import StageGate.Proofs.Workflow.Batch

/-! The way of one subject, state by state: where it leads, what it asks for, what is written down
about it, and how it ends. -/
namespace StageGate

open Effect

namespace Workflow

open Travel

/-- The line about a transition. -/
def transitionLine (id : String) : String × String → Line
  | (state, next) => ⟨.engine, .success,
      "Transitioning subject " ++ id ++ " from state " ++ state ++ " to " ++ next⟩

/-- On its way from where it was in the beginning, the subject has come here by `n` transitions,
and the rules of so many states have been asked for. -/
structure Stands (w : Workflow) (subject : Subject) (before : Diary) (here : Subject)
    (n lookups : Nat) (trip : Trip) : Prop where
  subject_eq : trip.subject = here
  transitions_eq : trip.transitions = n
  place : (w.states.road subject.state)[n]? = some here.state
  id_eq : here.id = subject.id
  asked : trip.diary.asked = before.asked ++ (w.states.road subject.state).take lookups
  journal : ∃ lines, trip.diary.journal = before.journal ++ lines ∧
    lines.filter Line.isSuccess =
      ((w.states.hops subject.state).take n).map (transitionLine subject.id)

/-- What is true of a way however it ends. -/
structure Ended (w : Workflow) (subject : Subject) (before : Diary) (ending : Ending Halt)
    (trip : Trip) : Prop where
  place : w.states.names[w.states.names.idxOf subject.state + trip.transitions]? =
    some trip.subject.state
  asked : ending ≠ .done .terminal → trip.diary.asked =
    before.asked ++ (w.states.road subject.state).take (trip.transitions + 1)
  asked_terminal : ending = .done .terminal → trip.diary.asked =
    before.asked ++ (w.states.road subject.state).take trip.transitions
  journal : ∃ lines, trip.diary.journal = before.journal ++ lines ∧
    lines.filter Line.isSuccess =
      ((w.states.hops subject.state).take trip.transitions).map (transitionLine subject.id)
  terminal : ending = .done .terminal ↔ trip.subject.state = w.states.terminal
  successor : ending ≠ .done .noSuccessor
  known : ∀ name, ending = .failed (.unknownState name) →
    w.ruleFor trip.subject.state = .error (.unknownState name)

section Walks

variable {w : Workflow} {allowance : Nat} {subject here : Subject} {before : Diary}
  {n lookups : Nat} {trip : Trip} {E : Option Error → Trip → Prop}

theorem road_start (hknown : subject.state ∈ w.states.names) :
    w.states.road subject.state = w.states.names.drop (w.states.names.idxOf subject.state) :=
  StateOrder.road_eq_drop (List.getElem?_eq_some_iff.mpr
    ⟨List.idxOf_lt_length_of_mem hknown, List.getElem_idxOf _⟩)

theorem Stands.position (h : Stands w subject before here n lookups trip)
    (hknown : subject.state ∈ w.states.names) :
    w.states.names[w.states.names.idxOf subject.state + n]? = some here.state := by
  rw [← h.place, road_start hknown, List.getElem?_drop]

/-- Before the last state, ways end in any manner but at the goal. -/
theorem Stands.ended {ending : Ending Halt} (h : Stands w subject before here n (n + 1) trip)
    (hknown : subject.state ∈ w.states.names) (hgoal : here.state ≠ w.states.terminal)
    (hending : ending ≠ .done .terminal ∧ ending ≠ .done .noSuccessor)
    (hunknown : ∀ name, ending = .failed (.unknownState name) →
      w.ruleFor here.state = .error (.unknownState name)) :
    Ended w subject before ending trip := by
  obtain ⟨rfl, rfl, -, -, hasked, hjournal⟩ := id h
  exact {
    place := h.position hknown
    asked := fun _ => hasked
    asked_terminal := fun heq => (hending.1 heq).elim
    journal := hjournal
    terminal := iff_of_false hending.1 hgoal
    successor := hending.2
    known := hunknown }

/-- At the last state there is nothing more to ask. -/
theorem Stands.arrived (h : Stands w subject before here n n trip)
    (hknown : subject.state ∈ w.states.names) (hgoal : here.state = w.states.terminal) :
    Ended w subject before (.done .terminal) trip := by
  obtain ⟨rfl, rfl, -, -, hasked, hjournal⟩ := id h
  exact {
    place := h.position hknown
    asked := fun hne => (hne rfl).elim
    asked_terminal := fun _ => hasked
    journal := hjournal
    terminal := iff_of_true rfl hgoal
    successor := nofun
    known := nofun }

theorem triple_traveller :
    Triple (Stands w subject before here n lookups) traveller
      (fun a t => a = here ∧ Stands w subject before here n lookups t) E :=
  fun _ h => ⟨h.subject_eq, h⟩

theorem triple_say {level : Level} {message : String} (hlevel : level ≠ .success) :
    Triple (Stands w subject before here n lookups) (say level message)
      (fun _ => Stands w subject before here n lookups) E := by
  refine triple_update fun trip h => { h with journal := ?_ }
  obtain ⟨lines, hjournal, hlines⟩ := h.journal
  refine ⟨lines ++ [⟨.engine, level, message⟩], by simp [Diary.say, hjournal], ?_⟩
  simp [hlines, Line.isSuccess, hlevel]

theorem triple_ask :
    Triple (Stands w subject before here n n) (ask here.state)
      (fun _ => Stands w subject before here n (n + 1)) E := by
  refine triple_update fun trip h => { h with asked := ?_ }
  simp [h.asked, List.take_add_one, h.place]

/-- A rule may take its time, and may fail, but not for want of a state. -/
theorem triple_judge {rule : Rule}
    (herror : ∀ e, (∀ name, e ≠ .unknownState name) → ∀ t,
      Stands w subject before here n lookups t → E (some e) t)
    (hunfinished : (rule.runWith w.store w.subjectKey here.project [] allowance).1 = .unfinished →
      ∀ t, Stands w subject before here n lookups t → E none t) :
    Triple (Stands w subject before here n lookups) (w.judge allowance rule)
      (fun _ => Stands w subject before here n lookups) E := by
  intro trip h
  obtain rfl := h.subject_eq
  have hplain := runWith_plain rule w.store w.subjectKey trip.subject.project trip.diary.journal
    allowance
  have hending := (rule.runWith_journal w.store w.subjectKey trip.subject.project
    trip.diary.journal [] allowance).1
  unfold judge
  generalize rule.runWith w.store w.subjectKey trip.subject.project trip.diary.journal allowance = run
    at hplain hending
  obtain ⟨ending, s⟩ := run
  obtain ⟨hknown, new, hnew, hplain⟩ := hplain
  have hstands : Stands w subject before trip.subject n lookups
      { trip with diary := { trip.diary with journal := s.journal } } := by
    obtain ⟨lines, hjournal, hlines⟩ := h.journal
    refine { h with journal := ⟨lines ++ new, ?_, ?_⟩ }
    · rw [← List.append_assoc, ← hjournal]
      exact hnew
    · simp [hlines, hplain]
  cases ending with
  | done verdict => exact hstands
  | failed e => exact herror e (fun name heq => hknown name (congrArg Ending.failed heq)) _ hstands
  | unfinished => exact hunfinished hending.symm _ hstands

/-- A transition: the line about it, and then the state. -/
theorem triple_promote {next : String} (hnext : (w.states.road subject.state)[n + 1]? = some next)
    (hsuccessor : w.states.successor here.state = .ok (some next)) :
    Triple (Stands w subject before here n (n + 1)) (w.promote here)
      (fun halt t => halt = none ∧
        Stands w subject before (here.moveTo next) (n + 1) (n + 1) t) E := by
  intro trip h
  obtain rfl := h.subject_eq
  obtain rfl := h.transitions_eq
  have hhop := StateOrder.hops_eq h.place hnext
  have hjournal : ∃ lines,
      trip.diary.journal ++ [transitionLine trip.subject.id (trip.subject.state, next)] =
        before.journal ++ lines ∧
      lines.filter Line.isSuccess =
        ((w.states.hops subject.state).take (trip.transitions + 1)).map
          (transitionLine subject.id) := by
    obtain ⟨lines, hjournal, hlines⟩ := h.journal
    refine ⟨lines ++ [transitionLine trip.subject.id (trip.subject.state, next)], ?_, ?_⟩
    · rw [hjournal, List.append_assoc]
    · rw [List.filter_append, hlines, List.take_add_one, hhop, List.map_append, h.id_eq]
      rfl
  simp only [promote, hsuccessor]
  exact ⟨rfl, rfl, rfl, hnext, h.id_eq, h.asked, hjournal⟩

/-- The rule of the state where the subject stands does not come to an end within the allowance. -/
def Stuck (w : Workflow) (allowance : Nat) (subject : Subject) : Prop :=
  ∃ rule, w.ruleFor subject.state = .ok (some rule) ∧
    (rule.runWith w.store w.subjectKey subject.project [] allowance).1 = .unfinished

/-- What is true of a way at its end, whether it ends or gets stuck in a rule. -/
def Settles (w : Workflow) (allowance : Nat) (subject : Subject) (before : Diary)
    (ending : Ending Halt) (trip : Trip) : Prop :=
  Ended w subject before ending trip ∧ (ending = .unfinished → w.Stuck allowance trip.subject)

/-- After a round the subject is one state further, or the way is at its end. -/
def Onward (w : Workflow) (allowance : Nat) (subject : Subject) (before : Diary) (here : Subject)
    (n : Nat) : Option Halt → Trip → Prop
  | none, trip => ∃ next, Stands w subject before (here.moveTo next) (n + 1) (n + 1) trip
  | some halt, trip => Settles w allowance subject before (.done halt) trip

theorem triple_hear {rule : Rule} (hknown : subject.state ∈ w.states.names)
    (hposition : w.states.names[w.states.names.idxOf subject.state + n]? = some here.state)
    (hgoal : here.state ≠ w.states.terminal) (hrule : w.ruleFor here.state = .ok (some rule)) :
    Triple (Stands w subject before here n (n + 1)) (w.hear allowance here rule)
      (Onward w allowance subject before here n)
      (fun e => Settles w allowance subject before (e.elim .unfinished .failed)) := by
  refine (triple_say (by decide)).bind fun _ => ?_
  refine (triple_judge (fun e he t ht => ?_) fun hrun t ht => ?_).bind fun verdict => ?_
  · refine ⟨ht.ended hknown hgoal ⟨nofun, nofun⟩ fun name heq => ?_, nofun⟩
    exact (he name (Ending.failed.inj heq)).elim
  · refine ⟨ht.ended hknown hgoal ⟨nofun, nofun⟩ nofun, fun _ => ?_⟩
    rw [ht.subject_eq]
    exact ⟨rule, hrule, hrun⟩
  refine (triple_say (by decide)).bind fun _ => ?_
  split
  · have hlength := (List.getElem?_eq_some_iff.mp hposition).1
    have hlast := mt (StateOrder.eq_terminal_iff hposition).mpr hgoal
    obtain ⟨next, hnext⟩ : ∃ next,
        w.states.names[w.states.names.idxOf subject.state + n + 1]? = some next :=
      ⟨_, List.getElem?_eq_getElem (by omega)⟩
    have hroad : (w.states.road subject.state)[n + 1]? = some next := by
      rw [road_start hknown, List.getElem?_drop, ← hnext, Nat.add_assoc]
    have hsuccessor := (StateOrder.successor_eq hposition).trans (congrArg Except.ok hnext)
    refine (triple_promote hroad hsuccessor).weaken (fun _ ht => ht) ?_
    rintro _ t ⟨rfl, ht⟩
    exact ⟨next, ht⟩
  · refine (triple_say (by decide)).bind fun _ => triple_pure fun t ht => ?_
    exact ⟨ht.ended hknown hgoal ⟨nofun, nofun⟩ nofun, nofun⟩

/-- A round either makes one transition or brings the way to its end. -/
theorem triple_round (hknown : subject.state ∈ w.states.names) :
    Triple (Stands w subject before here n n) (w.round allowance)
      (Onward w allowance subject before here n)
      (fun e => Settles w allowance subject before (e.elim .unfinished .failed)) := by
  refine triple_of_imp (fun _ hstands => hstands.position hknown) fun hposition => ?_
  refine triple_traveller.bind fun _ => triple_of_fact ?_
  rintro rfl
  rw [StateOrder.isTerminal_eq hposition, lift_ok_bind]
  have hgoal := StateOrder.eq_terminal_iff hposition
  split
  · next hlast =>
    refine (triple_say (by decide)).bind fun _ => triple_pure fun t ht => ⟨?_, nofun⟩
    exact ht.arrived hknown (hgoal.mpr (of_decide_eq_true hlast))
  · next hlast =>
    have hgoal := mt hgoal.mp fun heq => hlast (decide_eq_true heq)
    refine triple_ask.bind fun _ => ?_
    cases hrule : w.ruleFor _ with
    | error e =>
      refine triple_fail fun t ht => ⟨ht.ended hknown hgoal ⟨nofun, nofun⟩ fun name heq => ?_, nofun⟩
      rw [hrule, Ending.failed.inj heq]
    | ok found =>
      rw [lift_ok_bind]
      cases found with
      | none =>
        refine (triple_say (by decide)).bind fun _ => triple_pure fun t ht => ?_
        exact ⟨ht.ended hknown hgoal ⟨nofun, nofun⟩ nofun, nofun⟩
      | some rule => exact triple_hear hknown hposition hgoal hrule

/-- There are enough rounds for all states that are left. -/
theorem triple_walk (hknown : subject.state ∈ w.states.names) {rounds : Nat}
    (hrounds : w.states.names.length ≤ w.states.names.idxOf subject.state + n + rounds) :
    Triple (Stands w subject before here n n) (w.walk allowance rounds)
      (fun halt => Settles w allowance subject before (.done halt))
      (fun e => Settles w allowance subject before (e.elim .unfinished .failed)) := by
  induction rounds generalizing here n with
  | zero =>
    -- no round is left only where no state is left, and there nobody stands
    intro trip hstands
    have hlength := (List.getElem?_eq_some_iff.mp (hstands.position hknown)).1
    omega
  | succ rounds ih =>
    refine (triple_round hknown).bind fun halt => ?_
    cases halt with
    | none =>
      rintro trip ⟨next, hstands⟩
      exact ih (by omega) trip hstands
    | some halt => exact triple_pure fun _ h => h

theorem travel_settles (w : Workflow) (before : Diary) (allowance : Nat)
    (hknown : subject.state ∈ w.states.names) :
    let run := w.travel subject before allowance
    Settles w allowance subject before run.1 run.2 := by
  have hstart : Stands w subject before subject 0 0 ⟨subject, 0, before⟩ := {
    subject_eq := rfl
    transitions_eq := rfl
    place := by
      rw [road_start hknown, List.getElem?_drop]
      exact List.getElem?_eq_some_iff.mpr
        ⟨List.idxOf_lt_length_of_mem hknown, List.getElem_idxOf _⟩
    id_eq := rfl
    asked := by simp
    journal := ⟨[], by simp, by simp⟩ }
  exact (triple_walk hknown (Nat.le_add_left _ _)).outcome
    (F := fun ending trip => Settles w allowance subject before ending trip) hstart

theorem travel_unknown (w : Workflow) (before : Diary) (allowance : Nat)
    (hunknown : subject.state ∉ w.states.names) :
    w.travel subject before allowance =
      (.failed (.unknownState subject.state), ⟨subject, 0, before⟩) := by
  obtain ⟨rounds, hrounds⟩ : ∃ rounds, w.states.names.length = rounds + 1 :=
    Nat.exists_eq_succ_of_ne_zero (mt List.length_eq_zero_iff.mp w.states.nonempty)
  simp only [travel, hrounds, walk, round, traveller, bind_apply, state_apply, pure_apply,
    StateOrder.isTerminal_unknown hunknown]
  rfl

end Walks

section Allowances

variable {w : Workflow} {allowance allowance' : Nat}

theorem extends_judge (h : allowance ≤ allowance') (rule : Rule) :
    Extends (w.judge allowance rule) (w.judge allowance' rule) := by
  intro trip
  by_cases hends : (rule.runWith w.store w.subjectKey trip.subject.project trip.diary.journal
      allowance).1 = .unfinished
  · exact Or.inl hends
  · refine Or.inr ?_
    simp only [judge, runWith_of_le rule w.store h hends]

theorem along_extends (w : Workflow) (h : allowance ≤ allowance') :
    Along w allowance allowance' Extends where
  rel_pure _ := extends_refl _
  rel_bind := Extends.bind
  rel_lift _ := extends_refl _
  rel_unfinished := extends_refl _
  rel_traveller := extends_refl _
  rel_say _ _ := extends_refl _
  rel_ask _ := extends_refl _
  rel_moveTo _ := extends_refl _
  rel_judge := extends_judge h

/-- The run of the rule on the subject comes to an end, if only it may go deep enough. -/
def Decides (w : Workflow) (rule : Rule) (subject : Subject) : Prop :=
  ∃ allowance, (rule.runWith w.store w.subjectKey subject.project [] allowance).1 ≠ .unfinished

/-- Whatever can be decided at all about one of the subjects is decided within a common
allowance. -/
theorem exists_allowance (w : Workflow) (subjects : List Subject) :
    ∃ enough, ∀ subject ∈ subjects, ∀ rule, w.ruleFor subject.state = .ok (some rule) →
      w.Decides rule subject →
        (rule.runWith w.store w.subjectKey subject.project [] enough).1 ≠ .unfinished := by
  induction subjects with
  | nil => exact ⟨0, nofun⟩
  | cons subject subjects ih =>
    obtain ⟨enough, henough⟩ := ih
    by_cases hdecides : ∃ rule, w.ruleFor subject.state = .ok (some rule) ∧ w.Decides rule subject
    · obtain ⟨rule, hrule, allowance, hends⟩ := hdecides
      refine ⟨max allowance enough, fun other hmem other' hrule' hdecides' => ?_⟩
      obtain rfl | hmem := List.mem_cons.mp hmem
      · cases hrule.symm.trans hrule'
        exact runWith_ends_of_le rule w.store (Nat.le_max_left _ _) hends
      · have hends' := henough other hmem other' hrule' hdecides'
        exact runWith_ends_of_le other' w.store (Nat.le_max_right _ _) hends'
    · refine ⟨enough, fun other hmem rule hrule hends => ?_⟩
      obtain rfl | hmem := List.mem_cons.mp hmem
      · exact (hdecides ⟨rule, hrule, hends⟩).elim
      · exact henough other hmem rule hrule hends

end Allowances

/-- Whatever rule the subject meets on its way, short of the terminal state, comes to an end. -/
def RulesEnd (w : Workflow) (subject : Subject) (before : Diary) : Prop :=
  ∀ allowance rule, let visitor := (w.travel subject before allowance).2.subject
    visitor.state ≠ w.states.terminal → w.ruleFor visitor.state = .ok (some rule) →
      w.Decides rule visitor

/-- A subject in a state that is not known goes nowhere. Any other one passes through the states one
by one, as far as the rules that it meets allow, and comes to an end if they do. -/
theorem travel_ends (w : Workflow) (subject : Subject) (before : Diary) :
    (∀ allowance,
      (subject.state ∉ w.states.names →
        w.travel subject before allowance =
          (.failed (.unknownState subject.state), ⟨subject, 0, before⟩)) ∧
      (subject.state ∈ w.states.names →
        Ended w subject before (w.travel subject before allowance).1
          (w.travel subject before allowance).2)) ∧
      (w.RulesEnd subject before →
        ∃ enough, (w.travel subject before enough).1 ≠ .unfinished ∧
          ∀ allowance, enough ≤ allowance →
            w.travel subject before allowance = w.travel subject before enough) := by
  refine ⟨fun allowance => ⟨travel_unknown w before allowance, fun hknown =>
    (travel_settles w before allowance hknown).1⟩, fun hrules => ?_⟩
  by_cases hknown : subject.state ∈ w.states.names
  · obtain ⟨enough, henough⟩ :=
      exists_allowance w (subject :: w.states.names.map subject.moveTo)
    have hends : (w.travel subject before enough).1 ≠ .unfinished := by
      intro hunfinished
      obtain ⟨hended, hstuck⟩ := travel_settles w before enough hknown
      -- the rule that it is stuck in could be decided, and so it was, within `enough`
      obtain ⟨rule, hrule, hrun⟩ := hstuck hunfinished
      have hgoal := mt hended.terminal.mpr fun heq => nomatch hunfinished.symm.trans heq
      refine henough _ ?_ rule hrule (hrules enough rule hgoal hrule) hrun
      obtain ⟨hsubject, -⟩ | ⟨hsubject, -⟩ := travel_leads w subject before enough
      · rw [hsubject]
        exact List.mem_cons_self
      · rw [hsubject]
        refine List.mem_cons_of_mem _ (List.mem_map_of_mem ?_)
        exact List.mem_of_getElem? hended.place
    exact ⟨enough, hends, fun allowance hle => ((along_extends w hle).rel_walk _).eq_of_ends hends⟩
  · refine ⟨0, ?_, fun allowance _ => ?_⟩
    · simp [travel_unknown w before 0 hknown]
    · rw [travel_unknown w before 0 hknown, travel_unknown w before allowance hknown]

theorem travel_ends_gateAtA :
    gateAtA.RulesEnd (atA "Ana") ⟨[], []⟩ ∧
      ∃ enough, (gateAtA.travel (atA "Ana") ⟨[], []⟩ enough).1 ≠ .unfinished := by
  have hrules : gateAtA.RulesEnd (atA "Ana") ⟨[], []⟩ := by
    intro allowance rule visitor _ hrule
    have hfound : (if visitor.state = "A" then some benFails else none) = some rule :=
      Except.ok.inj hrule
    split at hfound
    · next hstate =>
      cases hfound
      have hvisitor : visitor.project = (atA "Ana").project := by
        obtain ⟨hsubject, -⟩ | ⟨hsubject, -⟩ := travel_leads gateAtA (atA "Ana") ⟨[], []⟩ allowance
        · exact congrArg Subject.project hsubject
        · have hmoved : visitor = (atA "Ana").moveTo visitor.state := hsubject
          rw [hmoved, hstate]
          rfl
      refine ⟨0, ?_⟩
      rw [hvisitor]
      nofun
    · cases hfound
  obtain ⟨enough, hends, -⟩ := (travel_ends gateAtA (atA "Ana") ⟨[], []⟩).2 hrules
  exact ⟨hrules, enough, hends⟩

end Workflow
end StageGate
