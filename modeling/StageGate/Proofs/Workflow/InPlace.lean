import StageGate.Proofs.Roster
import StageGate.Proofs.Workflow.Batch

/-! Batches on a store that is changed in place, write by write. Whatever can fail does so before
the first write. -/
namespace StageGate

open Effect

/-- A store that is worked on in place, and the diary of the work. -/
structure Desk where
  store : Store
  diary : Diary

abbrev Deskwork := Effect Desk

namespace Deskwork

/-- The records of a kind are made anew from those that are there. -/
def amend (name : String) (f : List Json → List Json) : Deskwork Unit :=
  update fun desk =>
    { desk with store :=
      ⟨Fields.insert desk.store.tables name (f ((Fields.find? desk.store.tables name).getD []))⟩ }

def note (diary : Diary) : Deskwork Unit :=
  update fun desk => { desk with diary }

end Deskwork

open Deskwork

namespace Roster

variable {roster : Roster} {name : String} {subjects : List Subject} {desk : Desk}

/-- One write for each subject. -/
def writeAll (roster : Roster) (name : String) : List Subject → Deskwork Unit
  | [] => return ()
  | subject :: subjects => do
    amend name (roster.upsert subject)
    roster.writeAll name subjects

/-- The kind is looked up; its records are opened, if only as an empty list; the subjects are
written one by one. -/
def commitInPlace (roster : Roster) (subjects : List Subject) : Deskwork Unit := do
  match (← state).store.spelling? roster.kind with
  | none => fail (.entityNotFound roster.kind)
  | some name =>
    amend name id
    roster.writeAll name subjects

/-- Writes do not fail, and after some of them on opened records only the last of these counts. -/
theorem writeAll_apply (records : List Json) :
    roster.writeAll name subjects
        { desk with store := ⟨Fields.insert desk.store.tables name records⟩ } =
      (.done (), { desk with store :=
        ⟨Fields.insert desk.store.tables name (roster.upsertAll subjects records)⟩ }) := by
  induction subjects generalizing records with
  | nil => rfl
  | cons subject subjects ih =>
    unfold writeAll
    rw [bind_apply, amend, update_apply]
    simp only [Fields.find?_insert, if_true, Option.getD_some, Fields.insert_insert]
    exact ih (roster.upsert subject records)

/-- A commit in place fails before its first write, or not at all. -/
theorem commitInPlace_apply :
    roster.commitInPlace subjects desk =
      match roster.commit subjects desk.store with
      | .ok store => (.done (), { desk with store })
      | .error e => (.failed e, desk) := by
  unfold commitInPlace commit
  rw [bind_apply, state_apply]
  dsimp only
  cases desk.store.spelling? roster.kind with
  | none => rfl
  | some name => exact writeAll_apply _

end Roster

namespace Workflow

variable {w : Workflow} {roster : Roster} {subject : Subject} {subjects : List Subject}
  {diary : Diary} {allowance : Nat}

/-- One subject of a batch: how it fared, and how it comes back. The rules on its way ask the store
as it stands. -/
def turn (w : Workflow) (allowance : Nat) (subject : Subject) : Deskwork (Journey × Subject) := do
  let desk ← state
  let (ending, trip) := { w with store := desk.store }.travel subject (opened subject desk.diary)
    allowance
  note trip.diary
  match ending with
  | .done halt => return (journey subject trip halt, trip.subject)
  | .failed e =>
    note (failureNoted subject trip e)
    match w.policy with
    | .failFast => fail e
    | .isolate => return (journey subject trip (.failed e.message), trip.subject)
  | .unfinished => unfinished

def turns (w : Workflow) (allowance : Nat) :
    List Subject → Deskwork (List Journey × List Subject)
  | [] => return ([], [])
  | subject :: rest => do
    let (made, arrived) ← w.turn allowance subject
    let (journeys, arrivals) ← w.turns allowance rest
    return (made :: journeys, arrived :: arrivals)

/-- The whole batch in place: subjects are loaded, take their turns and are committed. -/
def runInPlace (w : Workflow) (roster : Roster) (allowance : Nat) : Deskwork Report := do
  let subjects ← lift (roster.load (← state).store)
  let (journeys, arrivals) ← w.turns allowance subjects
  roster.commitInPlace arrivals
  note ((← state).diary.say .success "Workflow engine run completed and changes saved.")
  return ⟨journeys⟩

/-- What a batch in memory leaves behind, as turns in place leave it. -/
def BatchRun.onDesk (run : BatchRun) (store : Store) :
    Ending (List Journey × List Subject) × Desk :=
  (match run.ending with
    | .done journeys => .done (journeys, run.subjects)
    | .failed e => .failed e
    | .unfinished => .unfinished,
   ⟨store, run.diary⟩)

/-- A turn leaves the store as it is, however it ends. -/
theorem turn_apply (w : Workflow) (allowance : Nat) (subject : Subject) (diary : Diary) :
    w.turn allowance subject ⟨w.store, diary⟩ =
      match w.travel subject (opened subject diary) allowance with
      | (.done halt, trip) =>
        (.done (journey subject trip halt, trip.subject), ⟨w.store, trip.diary⟩)
      | (.failed e, trip) =>
        (match w.policy with
          | .failFast => .failed e
          | .isolate => .done (journey subject trip (.failed e.message), trip.subject),
         ⟨w.store, failureNoted subject trip e⟩)
      | (.unfinished, trip) => (.unfinished, ⟨w.store, trip.diary⟩) := by
  unfold turn
  rw [bind_apply, state_apply]
  dsimp only
  generalize w.travel subject (opened subject diary) allowance = after
  obtain ⟨ending, trip⟩ := after
  cases ending with
  | done halt => rfl
  | failed e => cases w.policy <;> rfl
  | unfinished => rfl

theorem turns_apply (w : Workflow) (allowance : Nat) (subjects : List Subject) (diary : Diary) :
    w.turns allowance subjects ⟨w.store, diary⟩ =
      (w.runSubjects subjects diary allowance).onDesk w.store := by
  induction subjects generalizing diary with
  | nil => rfl
  | cons subject rest ih =>
    -- once the first has had its turn, the others go on from its diary and the same store
    have onwards : ∀ made arrived diary,
        (do
          let (journeys, arrivals) ← w.turns allowance rest
          return (made :: journeys, arrived :: arrivals)) (⟨w.store, diary⟩ : Desk) =
        ((w.runSubjects rest diary allowance).after made arrived).onDesk w.store := by
      intro made arrived diary
      rw [bind_apply, ih]
      generalize w.runSubjects rest diary allowance = run
      obtain ⟨ending, arrivals, diary⟩ := run
      cases ending <;> rfl
    unfold turns
    rw [bind_apply, turn_apply]
    rcases htravel : w.travel subject (opened subject diary) allowance with ⟨ending, trip⟩
    cases ending with
    | done halt =>
      rw [runSubjects_cons_done htravel]
      exact onwards _ _ _
    | failed e =>
      cases hpolicy : w.policy with
      | failFast =>
        rw [runSubjects_cons_failFast hpolicy htravel]
        rfl
      | isolate =>
        rw [runSubjects_cons_isolate hpolicy htravel]
        exact onwards _ _ _
    | unfinished =>
      rw [runSubjects_cons_unfinished htravel]
      rfl

/-- In place or not, a batch ends alike and leaves the same store and the same diary. -/
theorem runInPlace_apply (w : Workflow) (roster : Roster) (diary : Diary) (allowance : Nat) :
    w.runInPlace roster allowance ⟨w.store, diary⟩ =
      let (ending, store, diary) := w.runRoster roster diary allowance
      (ending, ⟨store, diary⟩) := by
  unfold runInPlace runRoster
  rw [bind_apply, state_apply]
  dsimp only
  cases roster.load w.store with
  | error e => rfl
  | ok subjects =>
    rw [lift_ok_bind, bind_apply, turns_apply]
    dsimp only
    generalize w.runSubjects subjects diary allowance = run
    obtain ⟨ending, arrivals, diary⟩ := run
    cases ending with
    | failed e => rfl
    | unfinished => rfl
    | done journeys =>
      dsimp only [BatchRun.onDesk]
      rw [bind_apply, Roster.commitInPlace_apply]
      cases roster.commit arrivals w.store <;> rfl

/-- Of the subjects, each alone, the first that does not get through fails with this error. -/
inductive FailsFirst (w : Workflow) (alone : Diary) (allowance : Nat) (e : Error) :
    List Subject → Prop
  | here {subject : Subject} {rest : List Subject} :
    (w.advance subject alone allowance).1 = .failed e →
      FailsFirst w alone allowance e (subject :: rest)
  | behind {subject : Subject} {made : Journey} {rest : List Subject} :
    (w.advance subject alone allowance).1 = .done made → FailsFirst w alone allowance e rest →
      FailsFirst w alone allowance e (subject :: rest)

theorem failsFirst_cons_done {alone : Diary} {e : Error} {made : Journey} {rest : List Subject}
    (h : (w.advance subject alone allowance).1 = .done made) :
    w.FailsFirst alone allowance e (subject :: rest) ↔ w.FailsFirst alone allowance e rest := by
  refine ⟨fun hfails => ?_, .behind h⟩
  cases hfails with
  | here hfailed => cases h.symm.trans hfailed
  | behind _ hrest => exact hrest

theorem after_ending_eq_failed_iff {run : BatchRun} {made : Journey} {arrived : Subject}
    {e : Error} : (run.after made arrived).ending = .failed e ↔ run.ending = .failed e := by
  unfold BatchRun.after
  cases run.ending <;> simp

/-- What fails a batch is a subject that would fail alone, and it does so under one policy only. -/
theorem runSubjects_failed_iff (alone : Diary) {e : Error} :
    (w.runSubjects subjects diary allowance).ending = .failed e ↔
      w.policy = .failFast ∧ w.FailsFirst alone allowance e subjects := by
  induction subjects generalizing diary with
  | nil => exact ⟨nofun, fun h => nomatch h.2⟩
  | cons subject rest ih =>
    rcases htravel : w.travel subject (opened subject diary) allowance with ⟨ending, trip⟩
    cases ending with
    | done halt =>
      rw [runSubjects_cons_done htravel, after_ending_eq_failed_iff, ih,
        failsFirst_cons_done (advance_of_done htravel alone).1]
    | failed e' =>
      have hfailed := (advance_of_failed htravel alone).1
      cases hpolicy : w.policy with
      | failFast =>
        rw [runSubjects_cons_failFast hpolicy htravel]
        constructor
        · intro h
          cases h
          exact ⟨rfl, .here hfailed⟩
        · rintro ⟨-, hfails⟩
          cases hfails with
          | here h =>
            cases hfailed.symm.trans h
            rfl
          | behind h _ => cases hfailed.symm.trans h
      | isolate =>
        rw [runSubjects_cons_isolate hpolicy htravel, after_ending_eq_failed_iff, ih, hpolicy]
        simp
    | unfinished =>
      have hunfinished := advance_of_unfinished htravel alone
      rw [runSubjects_cons_unfinished htravel]
      refine ⟨nofun, fun ⟨_, hfails⟩ => ?_⟩
      cases hfails with
      | here h => cases hunfinished.symm.trans h
      | behind h _ => cases hunfinished.symm.trans h

theorem runRoster_failed_iff (w : Workflow) (roster : Roster) (diary alone : Diary)
    (allowance : Nat) (e : Error) :
    (w.runRoster roster diary allowance).1 = .failed e ↔
      roster.load w.store = .error e ∨
        w.policy = .failFast ∧ ∃ subjects, roster.load w.store = .ok subjects ∧
          w.FailsFirst alone allowance e subjects := by
  unfold runRoster
  cases hload : roster.load w.store with
  | error e' => simp [eq_comm]
  | ok subjects =>
    obtain ⟨store, hcommit⟩ := Roster.commit_of_load hload
      (w.runSubjects subjects diary allowance).subjects
    have hfailed := @runSubjects_failed_iff w subjects diary allowance alone e
    dsimp only
    rw [hcommit]
    cases hending : (w.runSubjects subjects diary allowance).ending <;> simp_all

theorem runRoster_store_of_failed (w : Workflow) (roster : Roster) (diary : Diary)
    (allowance : Nat) (e : Error) (h : (w.runRoster roster diary allowance).1 = .failed e) :
    (w.runRoster roster diary allowance).2.1 = w.store := by
  unfold runRoster at h ⊢
  cases hload : roster.load w.store with
  | error e => rfl
  | ok subjects =>
    rw [hload] at h
    dsimp only at h ⊢
    generalize w.runSubjects subjects diary allowance = run at h ⊢
    cases hending : run.ending with
    | failed e => rfl
    | unfinished => rfl
    | done journeys =>
      rw [hending] at h
      cases hcommit : roster.commit run.subjects w.store with
      | error e => rfl
      | ok store =>
        rw [hcommit] at h
        cases h

end Workflow
end StageGate
