import StageGate.Proofs.Roster
import StageGate.Proofs.Workflow.Batch

/-! What a whole run makes of the records it took its subjects from. -/
namespace StageGate

namespace Roster

variable {roster : Roster} {records before after : List Json} {journeys : List Journey}
  {arrivals : List Subject} {i j l : Nat}

/-- The record with the state that the journey came to; without a transition, as it was. -/
def settled (roster : Roster) (record : Json) (journey : Journey) : Json :=
  match record with
  | .object fields =>
    if journey.transitions = 0 then .object fields
    else .object (Fields.insert fields roster.stateField (.string journey.finish))
  | other => other

/-- The records after a run. Of those that share an id, the first one holds what became of the last
one, and the others are as before. -/
structure Keeps (roster : Roster) (before : List Json) (journeys : List Journey)
    (after : List Json) : Prop where
  entries : journeys.length = before.length
  ids : after.map roster.idText? = before.map roster.idText?
  first : ∀ {i l}, i < before.length → roster.IsFirst before i → roster.IsLast before l →
    roster.idAt? before l = roster.idAt? before i →
      after[i]? = (List.zipWith roster.settled before journeys)[l]?
  others : ∀ {i}, ¬roster.IsFirst before i → after[i]? = before[i]?

theorem idAt?_ne_of_nodup (hnodup : (records.map roster.idText?).Nodup)
    (hi : i < records.length) (hj : j < records.length) (hij : i ≠ j) :
    roster.idAt? records i ≠ roster.idAt? records j := by
  intro h
  have hlength : i < (records.map roster.idText?).length := by simpa using hi
  refine hij ((List.getElem?_inj hlength hnodup).mp ?_)
  rw [idAt?_of_lt hi, idAt?_of_lt hj, h]

theorem Keeps.length (h : roster.Keeps before journeys after) : after.length = before.length := by
  simpa using congrArg List.length h.ids

/-- Where every record has an id and none comes twice, each record is settled in its place. -/
theorem Keeps.eq_zipWith (h : roster.Keeps before journeys after)
    (hids : ∀ record ∈ before, roster.idText? record ≠ none)
    (hnodup : (before.map roster.idText?).Nodup) :
    after = List.zipWith roster.settled before journeys := by
  refine List.ext_getElem? fun i => ?_
  by_cases hi : i < before.length
  · refine h.first hi (fun j hj => ?_) (fun j hj => ?_) rfl
    · exact idAt?_ne_of_nodup hnodup (Nat.lt_trans hj hi) hi (Nat.ne_of_lt hj)
    · by_cases hj' : j < before.length
      · exact idAt?_ne_of_nodup hnodup hj' hi (Nat.ne_of_gt hj)
      · rw [idAt?_of_ge (Nat.le_of_not_lt hj')]
        have hsome := hids before[i] (List.getElem_mem hi)
        simpa [idAt?, List.getElem?_eq_getElem hi] using hsome.symm
  · have hafter : after.length ≤ i := by rw [h.length]; omega
    rw [List.getElem?_eq_none hafter, List.getElem?_eq_none]
    simp only [List.length_zipWith, h.entries]
    omega

theorem idAt?_of_ids (hids : arrivals.map (some ·.id) = before.map roster.idText?)
    (hj : j < arrivals.length) : roster.idAt? before j = some arrivals[j].id := by
  have hj' : j < before.length := by
    have := congrArg List.length hids
    simp only [List.length_map] at this
    omega
  have hsame : (arrivals.map (some ·.id))[j]? = (before.map roster.idText?)[j]? := by rw [hids]
  rw [idAt?_of_lt hj'] at hsame
  simpa [List.getElem?_eq_getElem hj, eq_comm] using hsame

theorem keeps_upsertAll (hentries : journeys.length = before.length)
    (hids : arrivals.map (some ·.id) = before.map roster.idText?)
    (hshows : ∀ arrival ∈ arrivals, roster.Shows arrival)
    (hsettled : arrivals.map Subject.toRecord = List.zipWith roster.settled before journeys) :
    roster.Keeps before journeys (roster.upsertAll arrivals before) := by
  have hlength : arrivals.length = before.length := by
    simpa using congrArg List.length hids
  have hafter : (roster.upsertAll arrivals before).map roster.idText? =
      before.map roster.idText? := by
    refine ids_upsertAll hshows fun arrival hmem => ?_
    rw [← hids]
    exact List.mem_map_of_mem hmem
  refine ⟨hentries, hafter, ?_, ?_⟩
  · intro i l hi hfirst hlast hsame
    have hl : l < arrivals.length := by
      by_contra hl
      rw [idAt?_of_ge (by omega), idAt?_of_ids hids (by omega)] at hsame
      cases hsame
    have hid : roster.idAt? before i = some arrivals[l].id := by
      rw [← hsame, idAt?_of_ids hids hl]
    have hit : (roster.upsertAll arrivals before)[i]? = some arrivals[l].toRecord := by
      refine upsertAll_hit hshows hfirst hid (List.getElem?_eq_getElem hl) ?_
      intro k hk other hother hagain
      obtain ⟨hk', rfl⟩ := List.getElem?_eq_some_iff.mp hother
      refine hlast k hk ?_
      rw [idAt?_of_ids hids hk', idAt?_of_ids hids hl, hagain]
    rw [hit, ← hsettled]
    simp [List.getElem?_eq_getElem hl]
  · intro i hfirst
    by_cases hi : i < before.length
    · exact upsertAll_miss hshows hi fun _ _ h => hfirst h.1
    · have := congrArg List.length hafter
      simp only [List.length_map] at this
      rw [List.getElem?_eq_none (by omega), List.getElem?_eq_none (by omega)]

end Roster

namespace Workflow

variable {w : Workflow} {roster : Roster} {subject : Subject} {subjects : List Subject}
  {record : Json} {records : List Json} {made : Journey} {journeys : List Journey} {alone : Diary}
  {allowance : Nat}

theorem advance_trip (w : Workflow) (subject : Subject) (diary : Diary) (allowance : Nat) :
    (w.advance subject diary allowance).2 = (w.travel subject diary allowance).2 := by
  unfold advance
  split <;> next h => rw [h]

/-- Where an entry says that the subject came is where it is. -/
theorem reported?_eq_some (h : w.reported? subject alone allowance = some made) :
    made.finish = (w.advance subject alone allowance).2.subject.state ∧
      made.transitions = (w.advance subject alone allowance).2.transitions := by
  rw [advance_trip]
  unfold reported? advance at h
  generalize w.travel subject alone allowance = after at h
  obtain ⟨ending, trip⟩ := after
  cases ending with
  | done halt =>
    cases h
    exact ⟨rfl, rfl⟩
  | failed e =>
    cases h
    exact ⟨rfl, rfl⟩
  | unfinished => cases h

/-- The subject of a record comes back with the record settled and its id in it. -/
theorem arrival_of_entry (hfields : roster.idField ≠ roster.stateField)
    (hload : Subject.ofRecord roster.idField roster.stateField record = .ok subject)
    (hentry : w.reported? subject alone allowance = some made) :
    (w.arrival subject alone allowance).toRecord = roster.settled record made ∧
      roster.idText? record = some (w.arrival subject alone allowance).id ∧
      roster.Shows (w.arrival subject alone allowance) := by
  obtain ⟨rfl, hstate, hshows⟩ := Roster.ofRecord_eq_ok hload
  obtain ⟨hfinish, htransitions⟩ := reported?_eq_some hentry
  have hleads := w.travel_leads subject alone allowance
  rw [← advance_trip] at hleads
  unfold arrival Roster.settled Subject.toRecord
  obtain ⟨hsubject, hn⟩ | ⟨hsubject, hn⟩ := hleads
  · simp only [htransitions, hn, if_pos]
    rw [hsubject]
    exact ⟨rfl, hshows, hshows⟩
  · have hne : made.transitions ≠ 0 := by rw [htransitions]; exact Nat.ne_of_gt hn
    simp only [if_neg hne, hfinish, ← hstate]
    rw [hsubject]
    exact ⟨rfl, hshows, Roster.shows_moveTo hfields hstate hshows _⟩

theorem arrivals_of_entries (hfields : roster.idField ≠ roster.stateField)
    (hloads : List.Forall₂ (fun record subject =>
      Subject.ofRecord roster.idField roster.stateField record = .ok subject) records subjects)
    (hentries : List.Forall₂ (fun subject journey =>
      w.reported? subject alone allowance = some journey) subjects journeys) :
    (subjects.map (w.arrival · alone allowance)).map Subject.toRecord =
        List.zipWith roster.settled records journeys ∧
      (subjects.map (w.arrival · alone allowance)).map (some ·.id) =
        records.map roster.idText? ∧
      ∀ arrival ∈ subjects.map (w.arrival · alone allowance), roster.Shows arrival := by
  induction hloads generalizing journeys with
  | nil => simp
  | cons hload _ ih =>
    cases hentries with
    | cons hentry hentries =>
      obtain ⟨hrecord, hid, hshows⟩ := arrival_of_entry hfields hload hentry
      obtain ⟨hrecords, hids, hall⟩ := ih hentries
      refine ⟨?_, ?_, ?_⟩
      · simp only [List.map_cons, List.zipWith_cons_cons, hrecord, hrecords]
      · simp only [List.map_cons, hid, hids]
      · rw [List.map_cons]
        exact List.forall_mem_cons.mpr ⟨hshows, hall⟩

theorem runRoster_done {diary diary' : Diary} {report : Report} {store : Store}
    (h : w.runRoster roster diary allowance = (.done report, store, diary')) :
    ∃ subjects, roster.load w.store = .ok subjects ∧
      (w.runSubjects subjects diary allowance).ending = .done report.journeys ∧
      roster.commit (w.runSubjects subjects diary allowance).subjects w.store = .ok store := by
  unfold runRoster at h
  split at h
  · cases h
  · next subjects hload =>
    refine ⟨subjects, hload, ?_⟩
    generalize w.runSubjects subjects diary allowance = run at h ⊢
    dsimp only at h
    split at h
    · cases h
    · cases h
    · next hending =>
      split at h
      · cases h
      · next hcommit =>
        cases h
        exact ⟨hending, hcommit⟩

/-- A run that comes through, with all that is known of the records it went through. -/
theorem runRoster_kept {diary diary' : Diary} {report : Report} {store : Store}
    (hfields : roster.idField ≠ roster.stateField)
    (hdone : w.runRoster roster diary allowance = (.done report, store, diary')) :
    ∃ subjects before after, w.store.records roster.kind = .ok before ∧
      store.records roster.kind = .ok after ∧
      List.Forall₂ (fun record subject =>
        Subject.ofRecord roster.idField roster.stateField record = .ok subject) before subjects ∧
      List.Forall₂ (fun subject journey => w.reported? subject diary allowance = some journey)
        subjects report.journeys ∧
      roster.Keeps before report.journeys after := by
  obtain ⟨subjects, hload, hending, hcommit⟩ := runRoster_done hdone
  obtain ⟨before, hbefore, hloads⟩ := Roster.load_eq_ok hload
  obtain ⟨_, records, _, hrecords, hafter, _⟩ := Roster.commit_eq_ok hcommit
  obtain ⟨hentries, hsubjects⟩ := runSubjects_done diary hending
  obtain rfl : before = records := Except.ok.inj (hbefore.symm.trans hrecords)
  obtain ⟨hsettled, hids, hshows⟩ := arrivals_of_entries hfields hloads hentries
  have hlength := hentries.length_eq.symm.trans hloads.length_eq.symm
  rw [hsubjects] at hafter
  exact ⟨subjects, before, _, hbefore, hafter, hloads, hentries,
    Roster.keeps_upsertAll hlength hids hshows hsettled⟩

/-- A run that comes through leaves as many records of the kind, in their order and with their ids;
where the ids differ, each record is what its journey makes of it. No other kind is touched. -/
theorem runRoster_records (w : Workflow) (roster : Roster) (diary : Diary) (allowance : Nat)
    {report : Report} {store : Store} {diary' : Diary}
    (hfields : roster.idField ≠ roster.stateField)
    (hdone : w.runRoster roster diary allowance = (.done report, store, diary')) :
    ∃ name before after, w.store.spelling? roster.kind = some name ∧
      w.store.records roster.kind = .ok before ∧ store.records roster.kind = .ok after ∧
      (∀ other, other ≠ name →
        Fields.find? store.tables other = Fields.find? w.store.tables other) ∧
      roster.Keeps before report.journeys after ∧
      ((before.map roster.idText?).Nodup →
        after = List.zipWith roster.settled before report.journeys) := by
  obtain ⟨subjects, hload, hending, hcommit⟩ := runRoster_done hdone
  obtain ⟨before, hbefore, hloads⟩ := Roster.load_eq_ok hload
  obtain ⟨name, records, hname, hrecords, hafter, hothers⟩ := Roster.commit_eq_ok hcommit
  obtain ⟨hentries, hsubjects⟩ := runSubjects_done diary hending
  obtain rfl : before = records := by
    rw [hbefore] at hrecords
    exact Except.ok.inj hrecords
  rw [hsubjects] at hafter
  obtain ⟨hsettled, hids, hshows⟩ := arrivals_of_entries hfields hloads hentries
  have hlength : report.journeys.length = before.length :=
    hentries.length_eq.symm.trans hloads.length_eq.symm
  have hkeeps := Roster.keeps_upsertAll hlength hids hshows hsettled
  refine ⟨name, before, _, hname, hbefore, hafter, hothers, hkeeps, fun hnodup => ?_⟩
  refine hkeeps.eq_zipWith (fun record hmem hnone => ?_) hnodup
  have hnone : none ∈ before.map roster.idText? := List.mem_map.mpr ⟨record, hmem, hnone⟩
  rw [← hids] at hnone
  simp at hnone

/-- Ana and Ben at the gate, in a store. -/
def gateForPeople : Workflow :=
  { gateAtA with
    policy := .isolate
    store := ⟨[("People", [(atA "Ana").toRecord, (atA "Ben").toRecord])]⟩ }

def byName : Roster := ⟨"People", "Name", "CurrentState"⟩

theorem runRoster_records_gateForPeople :
    byName.idField ≠ byName.stateField ∧
    ∃ report store diary before after,
      gateForPeople.runRoster byName ⟨[], []⟩ 0 = (.done report, store, diary) ∧
      gateForPeople.store.records "People" = .ok before ∧ store.records "People" = .ok after ∧
      byName.Keeps before report.journeys after ∧
      after = List.zipWith byName.settled before report.journeys := by
  obtain ⟨_, before, after, _, hbefore, hafter, _, hkeeps, hsettled⟩ :=
    runRoster_records gateForPeople byName ⟨[], []⟩ 0 (by decide) rfl
  refine ⟨by decide, _, _, _, before, after, rfl, hbefore, hafter, hkeeps, hsettled ?_⟩
  obtain rfl : [(atA "Ana").toRecord, (atA "Ben").toRecord] = before := Except.ok.inj hbefore
  decide

def people : Roster := ⟨"People", "Id", "CurrentState"⟩

def person (id : Json) (name : String) : Json :=
  .object [("CurrentState", .string "Final"), ("Id", id), ("Name", .string name)]

/-- Two people whose ids differ in nothing but their kind. -/
def twins : Workflow where
  states := .standard
  ruleFor _ := .ok none
  store := ⟨[("People",
    [person (.whole (.ofInt64 1)) "Ana", person (.string "1") "Ben"])]⟩
  subjectKey := "subject"
  policy := .isolate

/-- Neither of the two moves, and yet the first record does not come back. -/
theorem runRoster_loses_record :
    ¬∀ (w : Workflow) (roster : Roster) (diary : Diary) (allowance : Nat) (report : Report)
      (store : Store) (diary' : Diary), roster.idField ≠ roster.stateField →
        w.runRoster roster diary allowance = (.done report, store, diary') →
        ∀ before after, w.store.records roster.kind = .ok before →
          store.records roster.kind = .ok after →
          after = List.zipWith roster.settled before report.journeys := by
  intro h
  have hsame := h twins people ⟨[], []⟩ 0 _ _ _ (by decide) rfl _ _ rfl rfl
  have hnames := congrArg (List.map fun record => (record.field? "Name").bind Json.string?) hsame
  exact absurd hnames (by decide)

end Workflow
end StageGate
