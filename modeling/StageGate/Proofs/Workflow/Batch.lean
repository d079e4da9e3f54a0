import Mathlib.Data.List.Forall2
import StageGate.Proofs.Workflow.Travel

/-! Batches: every subject fares as it would alone, and the two policies differ only in what they
make of the first failure. -/
namespace StageGate.Workflow

variable {w : Workflow} {subject : Subject} {diary : Diary} {allowance : Nat}

/-- What a report says of a subject that goes alone; an error stands there with its text. -/
def reported? (w : Workflow) (subject : Subject) (diary : Diary) (allowance : Nat) :
    Option Journey :=
  match w.advance subject diary allowance with
  | (.done journey, _) => some journey
  | (.failed e, trip) => some (journey subject trip (.failed e.message))
  | (.unfinished, _) => none

/-- The subject as it comes back from going alone. -/
def arrival (w : Workflow) (subject : Subject) (diary : Diary) (allowance : Nat) : Subject :=
  (w.advance subject diary allowance).2.subject

section Alone

variable {trip : Trip} {halt : Halt} {e : Error}

theorem journey_congr {trip trip' : Trip} (hsubject : trip.subject = trip'.subject)
    (htransitions : trip.transitions = trip'.transitions) (halt : Halt) :
    journey subject trip halt = journey subject trip' halt := by
  simp only [journey, hsubject, htransitions]

theorem advance_of_done (h : w.travel subject diary allowance = (.done halt, trip))
    (alone : Diary) :
    (w.advance subject alone allowance).1 = .done (journey subject trip halt) ∧
      w.arrival subject alone allowance = trip.subject := by
  obtain ⟨hending, hsubject, htransitions, _⟩ := w.travel_diary subject diary alone allowance
  rw [h] at hending hsubject htransitions
  unfold arrival advance
  generalize w.travel subject alone allowance = after at hending hsubject htransitions
  obtain ⟨ending, trip'⟩ := after
  cases hending
  exact ⟨congrArg Ending.done (journey_congr hsubject.symm htransitions.symm halt), hsubject.symm⟩

theorem advance_of_failed (h : w.travel subject diary allowance = (.failed e, trip))
    (alone : Diary) :
    (w.advance subject alone allowance).1 = .failed e ∧
      w.reported? subject alone allowance = some (journey subject trip (.failed e.message)) ∧
      w.arrival subject alone allowance = trip.subject := by
  obtain ⟨hending, hsubject, htransitions, _⟩ := w.travel_diary subject diary alone allowance
  rw [h] at hending hsubject htransitions
  unfold reported? arrival advance
  generalize w.travel subject alone allowance = after at hending hsubject htransitions
  obtain ⟨ending, trip'⟩ := after
  cases hending
  exact ⟨rfl, congrArg some (journey_congr hsubject.symm htransitions.symm _), hsubject.symm⟩

theorem advance_of_unfinished (h : w.travel subject diary allowance = (.unfinished, trip))
    (alone : Diary) : (w.advance subject alone allowance).1 = .unfinished := by
  have hending := (w.travel_diary subject diary alone allowance).1
  rw [h] at hending
  unfold advance
  generalize w.travel subject alone allowance = after at hending
  obtain ⟨ending, trip'⟩ := after
  cases hending
  rfl

theorem reported?_of_done {made : Journey}
    (h : (w.advance subject diary allowance).1 = .done made) :
    w.reported? subject diary allowance = some made := by
  unfold reported?
  generalize w.advance subject diary allowance = after at h
  obtain ⟨ending, trip⟩ := after
  cases h
  rfl

/-- Alone, a journey is done without a failure in it. -/
theorem advance_not_failed {made : Journey}
    (h : (w.advance subject diary allowance).1 = .done made) : made.halt.isFailed = false := by
  unfold advance at h
  cases htravel : w.travel subject diary allowance with
  | mk ending trip =>
    rw [htravel] at h
    cases ending with
    | done halt =>
      cases h
      exact travel_not_failed (congrArg Prod.fst htravel)
    | failed e => cases h
    | unfinished => cases h

theorem advance_policy (w : Workflow) (policy : Policy) (subject : Subject) (diary : Diary)
    (allowance : Nat) :
    { w with policy }.advance subject diary allowance = w.advance subject diary allowance := by
  simp only [advance, travel_policy]

theorem reported?_policy (w : Workflow) (policy : Policy) (subject : Subject) (diary : Diary)
    (allowance : Nat) :
    { w with policy }.reported? subject diary allowance = w.reported? subject diary allowance := by
  simp only [reported?, advance_policy]

theorem arrival_policy (w : Workflow) (policy : Policy) (subject : Subject) (diary : Diary)
    (allowance : Nat) :
    { w with policy }.arrival subject diary allowance = w.arrival subject diary allowance := by
  simp only [arrival, advance_policy]

end Alone

section Runs

variable {subjects rest : List Subject} {journeys : List Journey} {trip : Trip} {halt : Halt}
  {e : Error}

/-- As a subject is sent on its way, the diary says so. -/
def opened (subject : Subject) (diary : Diary) : Diary :=
  diary.say .info
    ("Starting workflow for subject " ++ subject.id ++ ", initial state: " ++ subject.state)

/-- The diary after a failure. -/
def failureNoted (subject : Subject) (trip : Trip) (e : Error) : Diary :=
  trip.diary.say .error ("Rule execution failed for subject " ++ subject.id ++ " at state " ++
    trip.subject.state ++ ": " ++ e.message)

theorem runSubjects_cons_done
    (h : w.travel subject (opened subject diary) allowance = (.done halt, trip)) :
    w.runSubjects (subject :: rest) diary allowance =
      (w.runSubjects rest trip.diary allowance).after (journey subject trip halt)
        trip.subject := by
  simp only [opened] at h
  simp only [runSubjects, h]

theorem runSubjects_cons_isolate (hpolicy : w.policy = .isolate)
    (h : w.travel subject (opened subject diary) allowance = (.failed e, trip)) :
    w.runSubjects (subject :: rest) diary allowance =
      (w.runSubjects rest (failureNoted subject trip e) allowance).after
        (journey subject trip (.failed e.message)) trip.subject := by
  simp only [opened] at h
  simp only [runSubjects, h, hpolicy, failureNoted]

theorem runSubjects_cons_failFast (hpolicy : w.policy = .failFast)
    (h : w.travel subject (opened subject diary) allowance = (.failed e, trip)) :
    w.runSubjects (subject :: rest) diary allowance =
      ⟨.failed e, trip.subject :: rest, failureNoted subject trip e⟩ := by
  simp only [opened] at h
  simp only [runSubjects, h, hpolicy, failureNoted]

theorem runSubjects_cons_unfinished
    (h : w.travel subject (opened subject diary) allowance = (.unfinished, trip)) :
    w.runSubjects (subject :: rest) diary allowance =
      ⟨.unfinished, trip.subject :: rest, trip.diary⟩ := by
  simp only [opened] at h
  simp only [runSubjects, h]

theorem after_ending_eq_done_iff {run : BatchRun} {made : Journey} {arrived : Subject} :
    (run.after made arrived).ending = .done journeys ↔
      ∃ others, run.ending = .done others ∧ journeys = made :: others := by
  unfold BatchRun.after
  cases run.ending with
  | done others => simp [eq_comm]
  | failed e => simp
  | unfinished => simp

/-- Whatever the policy, a batch that comes through has an entry for each subject, and each subject
comes back as it would from going alone. -/
theorem runSubjects_done (alone : Diary)
    (h : (w.runSubjects subjects diary allowance).ending = .done journeys) :
    List.Forall₂ (fun subject journey => w.reported? subject alone allowance = some journey)
        subjects journeys ∧
      (w.runSubjects subjects diary allowance).subjects =
        subjects.map (w.arrival · alone allowance) := by
  induction subjects generalizing diary journeys with
  | nil =>
    cases h
    exact ⟨.nil, rfl⟩
  | cons subject rest ih =>
    rcases htravel : w.travel subject (opened subject diary) allowance with ⟨ending, trip⟩
    cases ending with
    | done halt =>
      rw [runSubjects_cons_done htravel] at h ⊢
      obtain ⟨hjourney, harrival⟩ := advance_of_done htravel alone
      obtain ⟨others, hothers, rfl⟩ := after_ending_eq_done_iff.mp h
      obtain ⟨hentries, hsubjects⟩ := ih hothers
      exact ⟨.cons (reported?_of_done hjourney) hentries, by
        simp [BatchRun.after, hsubjects, harrival]⟩
    | failed e =>
      obtain ⟨-, hentry, harrival⟩ := advance_of_failed htravel alone
      cases hpolicy : w.policy with
      | failFast =>
        rw [runSubjects_cons_failFast hpolicy htravel] at h
        cases h
      | isolate =>
        rw [runSubjects_cons_isolate hpolicy htravel] at h ⊢
        obtain ⟨others, hothers, rfl⟩ := after_ending_eq_done_iff.mp h
        obtain ⟨hentries, hsubjects⟩ := ih hothers
        exact ⟨.cons hentry hentries, by simp [BatchRun.after, hsubjects, harrival]⟩
    | unfinished =>
      rw [runSubjects_cons_unfinished htravel] at h
      cases h

theorem runSubjects_isolate (hpolicy : w.policy = .isolate) {alone : Diary}
    (hends : ∀ subject ∈ subjects, (w.advance subject alone allowance).1 ≠ .unfinished) :
    ∃ journeys, (w.runSubjects subjects diary allowance).ending = .done journeys := by
  induction subjects generalizing diary with
  | nil => exact ⟨[], rfl⟩
  | cons subject rest ih =>
    have hrest := fun diary => @ih diary fun other hother =>
      hends other (List.mem_cons_of_mem subject hother)
    rcases htravel : w.travel subject (opened subject diary) allowance with ⟨ending, trip⟩
    cases ending with
    | done halt =>
      obtain ⟨others, hothers⟩ := hrest trip.diary
      rw [runSubjects_cons_done htravel]
      exact ⟨_, after_ending_eq_done_iff.mpr ⟨others, hothers, rfl⟩⟩
    | failed e =>
      obtain ⟨others, hothers⟩ := hrest (failureNoted subject trip e)
      rw [runSubjects_cons_isolate hpolicy htravel]
      exact ⟨_, after_ending_eq_done_iff.mpr ⟨others, hothers, rfl⟩⟩
    | unfinished =>
      exact (hends subject List.mem_cons_self (advance_of_unfinished htravel alone)).elim

/-- The batch ends with the error of the first subject that fails alone: those in front of it come
back as they would alone, and so does it, and those behind it stay where they are. -/
def StopsAtFailure (w : Workflow) (alone : Diary) (allowance : Nat) (subjects : List Subject)
    (run : BatchRun) : Prop :=
  ∃ before subject behind e, subjects = before ++ subject :: behind ∧
    (∀ other ∈ before, ∃ made, (w.advance other alone allowance).1 = .done made) ∧
    (w.advance subject alone allowance).1 = .failed e ∧ run.ending = .failed e ∧
    run.subjects =
      before.map (w.arrival · alone allowance) ++ w.arrival subject alone allowance :: behind

theorem runSubjects_failFast (hpolicy : w.policy = .failFast) {alone : Diary}
    (hends : ∀ subject ∈ subjects, (w.advance subject alone allowance).1 ≠ .unfinished) :
    ((∀ subject ∈ subjects, ∃ made, (w.advance subject alone allowance).1 = .done made) ∧
      ∃ journeys, (w.runSubjects subjects diary allowance).ending = .done journeys) ∨
    w.StopsAtFailure alone allowance subjects (w.runSubjects subjects diary allowance) := by
  induction subjects generalizing diary with
  | nil => exact Or.inl ⟨by simp, [], rfl⟩
  | cons subject rest ih =>
    rcases htravel : w.travel subject (opened subject diary) allowance with ⟨ending, trip⟩
    cases ending with
    | done halt =>
      obtain ⟨hjourney, harrival⟩ := advance_of_done htravel alone
      rw [runSubjects_cons_done htravel]
      obtain ⟨hall, others, hothers⟩ | ⟨before, stuck, behind, e, hsplit, hbefore, hstuck, hending,
          hsubjects⟩ := @ih trip.diary fun other hother =>
        hends other (List.mem_cons_of_mem subject hother)
      · refine Or.inl ⟨?_, _, after_ending_eq_done_iff.mpr ⟨others, hothers, rfl⟩⟩
        exact List.forall_mem_cons.mpr ⟨⟨_, hjourney⟩, hall⟩
      · refine Or.inr ⟨subject :: before, stuck, behind, e, by simp [hsplit], ?_, hstuck, ?_, ?_⟩
        · exact List.forall_mem_cons.mpr ⟨⟨_, hjourney⟩, hbefore⟩
        · simp [BatchRun.after, hending]
        · simp [BatchRun.after, hsubjects, harrival]
    | failed e =>
      obtain ⟨hfailed, -, harrival⟩ := advance_of_failed htravel alone
      rw [runSubjects_cons_failFast hpolicy htravel]
      exact Or.inr ⟨[], subject, rest, e, rfl, by simp, hfailed, rfl, by simp [harrival]⟩
    | unfinished =>
      exact (hends subject List.mem_cons_self (advance_of_unfinished htravel alone)).elim

/-- A report on subjects that all get through alone has no failure in it. -/
theorem entries_not_failed {alone : Diary}
    (hall : ∀ subject ∈ subjects, ∃ made, (w.advance subject alone allowance).1 = .done made)
    (hentries : List.Forall₂ (fun subject journey =>
      w.reported? subject alone allowance = some journey) subjects journeys) :
    ∀ journey ∈ journeys, journey.halt.isFailed = false := by
  induction hentries with
  | nil => simp
  | cons hentry _ ih =>
    obtain ⟨⟨made, hmade⟩, hrest⟩ := List.forall_mem_cons.mp hall
    rw [reported?_of_done hmade] at hentry
    cases hentry
    exact List.forall_mem_cons.mpr ⟨advance_not_failed hmade, ih hrest⟩

theorem entries_failed {alone : Diary} (hmem : subject ∈ subjects)
    (hfailed : (w.advance subject alone allowance).1 = .failed e)
    (hentries : List.Forall₂ (fun subject journey =>
      w.reported? subject alone allowance = some journey) subjects journeys) :
    ∃ journey ∈ journeys, journey.halt.isFailed = true := by
  induction hentries with
  | nil => cases hmem
  | @cons other entry _ _ hentry _ ih =>
    obtain rfl | hmem := List.mem_cons.mp hmem
    · refine ⟨entry, List.mem_cons_self, ?_⟩
      unfold reported? at hentry
      generalize w.advance subject alone allowance = after at hfailed hentry
      obtain ⟨ending, trip⟩ := after
      cases hfailed
      cases hentry
      rfl
    · obtain ⟨journey, hjourney, hhalt⟩ := ih hmem
      exact ⟨journey, List.mem_cons_of_mem entry hjourney, hhalt⟩

theorem entries_unique {alone : Diary} {journeys' : List Journey}
    (h : List.Forall₂ (fun subject journey => w.reported? subject alone allowance = some journey)
      subjects journeys)
    (h' : List.Forall₂ (fun subject journey => w.reported? subject alone allowance = some journey)
      subjects journeys') : journeys = journeys' := by
  refine Relator.RightUnique.forall₂ ?_ h h'
  intro subject journey journey' hj hj'
  exact Option.some.inj (hj.symm.trans hj')

end Runs

/-- Where all runs of rules end, a batch that isolates failures reports on each subject, in order,
what it comes to alone, with the text of the error for a failure; one that fails fast makes the same
report if no failure is in it, and else stops at the first. -/
theorem runSubjects_independent (w : Workflow) (subjects : List Subject) (diary alone : Diary)
    (allowance : Nat)
    (hends : ∀ subject ∈ subjects, (w.advance subject alone allowance).1 ≠ .unfinished) :
    let isolated := { w with policy := .isolate }.runSubjects subjects diary allowance
    let strict := { w with policy := .failFast }.runSubjects subjects diary allowance
    ∃ journeys, isolated.ending = .done journeys ∧
      List.Forall₂ (fun subject journey => w.reported? subject alone allowance = some journey)
        subjects journeys ∧
      isolated.subjects = subjects.map (w.arrival · alone allowance) ∧
      (∀ reported, strict.ending = .done reported ↔
        reported = journeys ∧ ∀ journey ∈ journeys, journey.halt.isFailed = false) ∧
      ((∀ journey ∈ journeys, journey.halt.isFailed = false) →
        strict.subjects = isolated.subjects) ∧
      ((∃ journey ∈ journeys, journey.halt.isFailed = true) →
        w.StopsAtFailure alone allowance subjects strict) := by
  intro isolated strict
  have hends' : ∀ policy, ∀ subject ∈ subjects,
      ({ w with policy }.advance subject alone allowance).1 ≠ .unfinished := by
    intro policy subject hmem
    rw [advance_policy]
    exact hends subject hmem
  obtain ⟨journeys, hisolated⟩ : ∃ journeys, isolated.ending = .done journeys :=
    runSubjects_isolate rfl (hends' .isolate)
  obtain ⟨hentries, hsubjects⟩ := runSubjects_done alone hisolated
  have hstrict : _ ∨ StopsAtFailure _ alone allowance subjects strict :=
    runSubjects_failFast rfl (hends' .failFast)
  simp only [StopsAtFailure, reported?_policy, arrival_policy, advance_policy]
    at hentries hsubjects hstrict
  obtain ⟨hall, reported, hreported⟩ | hstops := hstrict
  · obtain ⟨hentries', hsubjects'⟩ := runSubjects_done alone hreported
    simp only [reported?_policy, arrival_policy] at hentries' hsubjects'
    obtain rfl := entries_unique hentries hentries'
    have hclean := entries_not_failed hall hentries
    refine ⟨journeys, hisolated, hentries, hsubjects, fun other => ⟨fun h => ?_, fun h => ?_⟩,
      fun _ => hsubjects'.trans hsubjects.symm, fun ⟨journey, hmem, hfailed⟩ => ?_⟩
    · rw [hreported] at h
      cases h
      exact ⟨rfl, hclean⟩
    · rw [h.1]
      exact hreported
    · simp [hclean journey hmem] at hfailed
  · obtain ⟨before, subject, behind, e, hsplit, -, hfailed, hending, -⟩ := id hstops
    obtain ⟨journey, hmem, hhalt⟩ := entries_failed (by simp [hsplit]) hfailed hentries
    have hunclean : ¬ ∀ journey ∈ journeys, journey.halt.isFailed = false := by
      intro hclean
      simp [hclean journey hmem] at hhalt
    refine ⟨journeys, hisolated, hentries, hsubjects, fun other => ⟨fun h => ?_, fun h => ?_⟩,
      fun h => (hunclean h).elim, fun _ => hstops⟩
    · rw [hending] at h
      cases h
    · exact (hunclean h.2).elim

/-- Who is called Ben is sent to a step that is not there; all others pass. -/
def benFails : Rule where
  name := "gate"
  steps := [⟨"start", some "pass", .branch ⟨"subject.Name", "==", .string "Ben"⟩ ["nowhere"] []⟩,
    ⟨"pass", none, .stop true none⟩]
  distinct := by decide
  starts := by decide

def gateAtA : Workflow where
  states := .standard
  ruleFor state := .ok (if state = "A" then some benFails else none)
  store := .empty
  subjectKey := "subject"
  policy := .failFast

def atA (name : String) : Subject :=
  ⟨name, "A", "CurrentState", [("CurrentState", .string "A"), ("Name", .string name)]⟩

theorem runSubjects_independent_gateAtA :
    (∀ subject ∈ [atA "Ana", atA "Ben", atA "Cleo"],
      (gateAtA.advance subject ⟨[], []⟩ 0).1 ≠ .unfinished) ∧
    ∃ journeys,
      ({ gateAtA with policy := .isolate }.runSubjects [atA "Ana", atA "Ben", atA "Cleo"]
        ⟨[], []⟩ 0).ending = .done journeys ∧
      List.Forall₂ (fun subject journey => gateAtA.reported? subject ⟨[], []⟩ 0 = some journey)
        [atA "Ana", atA "Ben", atA "Cleo"] journeys ∧
      gateAtA.StopsAtFailure ⟨[], []⟩ 0 [atA "Ana", atA "Ben", atA "Cleo"]
        (gateAtA.runSubjects [atA "Ana", atA "Ben", atA "Cleo"] ⟨[], []⟩ 0) := by
  have ana : (gateAtA.advance (atA "Ana") ⟨[], []⟩ 0).1 = .done ⟨"Ana", "A", "B", .noRule, 1⟩ := rfl
  have ben : (gateAtA.advance (atA "Ben") ⟨[], []⟩ 0).1 =
      .failed (.danglingReference "gate" "nowhere") := rfl
  have cleo : (gateAtA.advance (atA "Cleo") ⟨[], []⟩ 0).1 =
      .done ⟨"Cleo", "A", "B", .noRule, 1⟩ := rfl
  have hends : ∀ subject ∈ [atA "Ana", atA "Ben", atA "Cleo"],
      (gateAtA.advance subject ⟨[], []⟩ 0).1 ≠ .unfinished := by
    simp [ana, ben, cleo]
  obtain ⟨journeys, hdone, hentries, -, -, -, hstops⟩ :=
    runSubjects_independent gateAtA _ ⟨[], []⟩ ⟨[], []⟩ 0 hends
  exact ⟨hends, journeys, hdone, hentries, hstops (entries_failed (by simp) ben hentries)⟩

end StageGate.Workflow
