import StageGate.Proofs.Workflow.Records
import StageGate.Proofs.Workflow.Walk

/-! What the way of a subject leaves as it is: its id, and all of its record but the state, whatever
the rules on the way do. -/
namespace StageGate

namespace Subject

variable {idField stateField state : String} {record : Json} {subject : Subject}

/-- A record that is loaded is kept whole; the subject's state is that of the record without the
blanks around it. -/
theorem ofRecord_eq_ok_iff :
    ofRecord idField stateField record = .ok subject ↔
      record = subject.toRecord ∧ subject.stateField = stateField ∧
        (∃ raw, Fields.find? subject.record idField = some raw ∧ raw ≠ .null ∧
          subject.id = (Value.ofJson raw).toText) ∧
        ∃ stored, Fields.find? subject.record stateField = some (.string stored) ∧
          subject.state = Text.trim stored := by
  constructor
  · intro h
    unfold ofRecord at h
    split at h
    case h_2 => cases h
    split at h
    · cases h
    · cases h
    · next raw hnull hraw =>
      split at h
      · next stored hstored =>
        cases h
        exact ⟨rfl, rfl, ⟨raw, hraw, hnull, rfl⟩, stored, hstored, rfl⟩
      · cases h
  · obtain ⟨id, state, field, fields⟩ := subject
    rintro ⟨rfl, rfl, ⟨raw, hraw, hnull, hid⟩, stored, hstored, hstate⟩
    dsimp only at hraw hid hstored hstate
    subst hid hstate
    cases raw with
    | null => exact (hnull rfl).elim
    | _ => simp only [ofRecord, toRecord, hraw, hstored]

theorem ofRecord_toRecord (h : ofRecord idField stateField record = .ok subject) :
    ofRecord idField stateField subject.toRecord = .ok subject := by
  rw [← (ofRecord_eq_ok_iff.mp h).1]
  exact h

/-- After a move the record is that of the subject again, if the new state has no blanks around
it. -/
theorem ofRecord_moveTo (hfields : idField ≠ stateField)
    (h : ofRecord idField stateField record = .ok subject) (hstate : Text.trim state = state) :
    ofRecord idField stateField (subject.moveTo state).toRecord = .ok (subject.moveTo state) := by
  obtain ⟨-, rfl, ⟨raw, hraw, hnull, hid⟩, -⟩ := ofRecord_eq_ok_iff.mp h
  refine ofRecord_eq_ok_iff.mpr ⟨rfl, rfl, ⟨raw, ?_, hnull, hid⟩, state, ?_, hstate.symm⟩
  · simp only [moveTo, Fields.find?_insert, if_neg hfields.symm, hraw]
  · simp only [moveTo, Fields.find?_insert, if_pos]

end Subject

namespace Workflow

/-- Who has made a transition stands in a state of the workflow. -/
theorem travel_known (w : Workflow) (subject : Subject) (diary : Diary) (allowance : Nat)
    (h : 0 < (w.travel subject diary allowance).2.transitions) :
    (w.travel subject diary allowance).2.subject.state ∈ w.states.names := by
  by_cases hknown : subject.state ∈ w.states.names
  · exact List.mem_of_getElem? (travel_settles w diary allowance hknown).1.place
  · rw [travel_unknown w diary allowance hknown] at h
    exact absurd h (Nat.lt_irrefl 0)

theorem advance_journey (w : Workflow) (subject : Subject) (diary : Diary) (allowance : Nat)
    (made : Journey) (h : (w.advance subject diary allowance).1 = .done made) :
    made.subjectId = subject.id ∧
      made.finish = (w.advance subject diary allowance).2.subject.state ∧
      made.transitions = (w.advance subject diary allowance).2.transitions := by
  unfold advance at h ⊢
  generalize w.travel subject diary allowance = after at h ⊢
  obtain ⟨ending, trip⟩ := after
  cases ending with
  | done halt =>
    cases h
    exact ⟨rfl, rfl, rfl⟩
  | failed e => cases h
  | unfinished => cases h

/-- However its way ends, and whatever the rules on it write, a subject has its id and its record
afterwards. In the record nothing but the state has changed, and that only if there was a
transition: then it is the state where the subject stands. The record is that of the same subject
when it is loaded again. -/
theorem advance_frame (w : Workflow) (idField stateField : String) (states : List String)
    (record : Json) (subject : Subject) (diary : Diary) (allowance : Nat)
    (hfields : idField ≠ stateField) (hstates : StateOrder.ofList states = .ok w.states)
    (hload : Subject.ofRecord idField stateField record = .ok subject) :
    let (ending, trip) := w.advance subject diary allowance
    (trip.transitions = 0 → trip.subject = subject ∧ trip.subject.toRecord = record) ∧
      (0 < trip.transitions → trip.subject.state ∈ w.states.names ∧
        trip.subject.toRecord.field? stateField = some (.string trip.subject.state) ∧
        ∃ fields, record = .object fields ∧ trip.subject.toRecord =
          .object (Fields.insert fields stateField (.string trip.subject.state))) ∧
      (∀ name, name ≠ stateField → trip.subject.toRecord.field? name = record.field? name) ∧
      trip.subject.id = subject.id ∧
      Subject.ofRecord idField stateField trip.subject.toRecord = .ok trip.subject ∧
      ∀ made, ending = .done made → made.subjectId = subject.id ∧
        made.finish = trip.subject.state ∧ made.transitions = trip.transitions := by
  have hjourney := advance_journey w subject diary allowance
  have hleads := travel_leads w subject diary allowance
  have hknown := travel_known w subject diary allowance
  rw [← advance_trip] at hleads hknown
  obtain ⟨hrecord, hfield, -, -⟩ := Subject.ofRecord_eq_ok_iff.mp hload
  generalize w.advance subject diary allowance = after at hjourney hleads hknown
  obtain ⟨ending, trip⟩ := after
  dsimp only at hjourney hleads hknown ⊢
  obtain ⟨hsame, hn⟩ | ⟨hmoved, hn⟩ := hleads
  · dsimp only at hsame hn
    have hnone : ¬0 < trip.transitions := by omega
    rw [hsame] at hjourney ⊢
    refine ⟨fun _ => ⟨rfl, hrecord.symm⟩, fun h => (hnone h).elim, fun _ _ => ?_, rfl,
      Subject.ofRecord_toRecord hload, hjourney⟩
    rw [hrecord]
  · have hmem := hknown hn
    dsimp only at hmoved hn
    have hlook : ∀ name, (subject.moveTo trip.subject.state).toRecord.field? name =
        if stateField = name then some (.string trip.subject.state) else record.field? name := by
      intro name
      rw [hrecord, ← hfield]
      exact Fields.find?_insert subject.record subject.stateField name _
    have hloaded := Subject.ofRecord_moveTo hfields hload (StateOrder.trim_name hstates hmem)
    refine ⟨fun h => (Nat.ne_of_gt hn h).elim, fun _ => ⟨hmem, ?_, subject.record, hrecord, ?_⟩,
      fun name hne => ?_, ?_, ?_, hjourney⟩
    · rw [hmoved]
      exact (hlook stateField).trans (if_pos rfl)
    · rw [hmoved, ← hfield]
      rfl
    · rw [hmoved]
      exact (hlook name).trans (if_neg hne.symm)
    · rw [hmoved]
      rfl
    · rw [hmoved]
      exact hloaded

/-- Ana's record, in which the state stands between blanks. -/
def looseAtA : Json :=
  .object [("CurrentState", .string " A "), ("Name", .string "Ana")]

theorem advance_frame_looseAtA :
    ∃ subject, Subject.ofRecord "Name" "CurrentState" looseAtA = .ok subject ∧
      (gateAtA.advance subject ⟨[], []⟩ 0).2.subject.toRecord =
        .object [("CurrentState", .string "B"), ("Name", .string "Ana")] ∧
      Subject.ofRecord "Name" "CurrentState"
        (gateAtA.advance subject ⟨[], []⟩ 0).2.subject.toRecord =
          .ok (gateAtA.advance subject ⟨[], []⟩ 0).2.subject := by
  obtain ⟨-, -, -, -, hloaded, -⟩ := advance_frame gateAtA "Name" "CurrentState" ["A", "B", "Final"]
    looseAtA _ ⟨[], []⟩ 0 (by decide) rfl rfl
  exact ⟨_, rfl, rfl, hloaded⟩

end Workflow
end StageGate
