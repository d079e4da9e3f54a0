import StageGate.Proofs.Except
import StageGate.Roster

/-! What a commit makes of the records of a roster, told by the ids they show. -/
namespace StageGate.Roster

variable {roster : Roster} {subject : Subject} {subjects : List Subject} {record : Json}
  {records : List Json} {i j l : Nat}

/-- The text form of a record's id. -/
def idText? (roster : Roster) (record : Json) : Option String :=
  (record.field? roster.idField).map fun id => (Value.ofJson id).toText

def idAt? (roster : Roster) (records : List Json) (i : Nat) : Option String :=
  records[i]?.bind roster.idText?

/-- No record in front of this one has its id. -/
def IsFirst (roster : Roster) (records : List Json) (i : Nat) : Prop :=
  ∀ j < i, roster.idAt? records j ≠ roster.idAt? records i

def IsLast (roster : Roster) (records : List Json) (i : Nat) : Prop :=
  ∀ j, i < j → roster.idAt? records j ≠ roster.idAt? records i

/-- The subject has its own id in its record. -/
def Shows (roster : Roster) (subject : Subject) : Prop :=
  roster.idText? subject.toRecord = some subject.id

theorem ofRecord_eq_ok
    (h : Subject.ofRecord roster.idField roster.stateField record = .ok subject) :
    record = subject.toRecord ∧ subject.stateField = roster.stateField ∧ roster.Shows subject := by
  unfold Subject.ofRecord at h
  split at h
  · next fields =>
    split at h
    · cases h
    · cases h
    · next raw _ hraw =>
      split at h
      · cases h
        refine ⟨rfl, rfl, ?_⟩
        simp [Shows, idText?, Json.field?, Subject.toRecord, hraw]
      · cases h
  · cases h

theorem shows_moveTo (hfields : roster.idField ≠ roster.stateField)
    (hstate : subject.stateField = roster.stateField) (h : roster.Shows subject) (state : String) :
    roster.Shows (subject.moveTo state) := by
  unfold Shows idText? Json.field? at h ⊢
  rw [Subject.toRecord] at h ⊢
  simp only [Subject.moveTo, hstate, Fields.find?_insert, if_neg hfields.symm]
  exact h

theorem load_eq_ok {store : Store} (h : roster.load store = .ok subjects) :
    ∃ records, store.records roster.kind = .ok records ∧
      List.Forall₂ (fun record subject =>
        Subject.ofRecord roster.idField roster.stateField record = .ok subject)
        records subjects := by
  obtain ⟨records, hrecords, hsubjects⟩ := bind_eq_ok_iff.mp h
  exact ⟨records, hrecords, mapM_eq_ok_iff.mp hsubjects⟩

theorem isRecordOf_iff :
    roster.isRecordOf subject record = true ↔ roster.idText? record = some subject.id := by
  simp [isRecordOf, idText?, Option.any_eq_true]

@[simp]
theorem idAt?_zero : roster.idAt? (record :: records) 0 = roster.idText? record := rfl

@[simp]
theorem idAt?_succ : roster.idAt? (record :: records) (i + 1) = roster.idAt? records i := rfl

theorem idAt?_of_lt (hi : i < records.length) :
    (records.map roster.idText?)[i]? = some (roster.idAt? records i) := by
  simp [idAt?, List.getElem?_eq_getElem hi]

theorem idAt?_of_ge (hi : records.length ≤ i) : roster.idAt? records i = none := by
  simp [idAt?, List.getElem?_eq_none hi]

theorem isFirst_zero : roster.IsFirst records 0 := by
  intro j hj
  cases hj

theorem isFirst_succ :
    roster.IsFirst (record :: records) (i + 1) ↔
      roster.idText? record ≠ roster.idAt? records i ∧ roster.IsFirst records i := by
  constructor
  · intro h
    exact ⟨h 0 (Nat.succ_pos i), fun j hj => h (j + 1) (Nat.succ_lt_succ hj)⟩
  · rintro ⟨hne, h⟩ j hj
    cases j with
    | zero => exact hne
    | succ j => exact h j (Nat.lt_of_succ_lt_succ hj)

theorem upsert_cons :
    roster.upsert subject (record :: records) =
      if roster.idText? record = some subject.id then subject.toRecord :: records
      else record :: roster.upsert subject records := by
  simp only [upsert, isRecordOf_iff]

theorem length_le_upsert : records.length ≤ (roster.upsert subject records).length := by
  induction records with
  | nil => simp
  | cons record records ih =>
    rw [upsert_cons]
    split <;> simp [ih]

/-- A subject whose id is there replaces a record; it adds none. -/
theorem ids_upsert (hshows : roster.Shows subject)
    (h : some subject.id ∈ records.map roster.idText?) :
    (roster.upsert subject records).map roster.idText? = records.map roster.idText? := by
  induction records with
  | nil => cases h
  | cons record records ih =>
    rw [upsert_cons]
    split
    · next hid => rw [List.map_cons, List.map_cons, hshows, hid]
    · next hne =>
      obtain hid | h := List.mem_cons.mp h
      · exact (hne hid.symm).elim
      · rw [List.map_cons, List.map_cons, ih h]

theorem idAt?_upsert (hshows : roster.Shows subject) (hi : i < records.length) :
    roster.idAt? (roster.upsert subject records) i = roster.idAt? records i := by
  induction records generalizing i with
  | nil => cases hi
  | cons record records ih =>
    rw [upsert_cons]
    cases i with
    | zero => split <;> simp_all [Shows]
    | succ i =>
      split
      · rfl
      · exact ih (Nat.lt_of_succ_lt_succ hi)

theorem isFirst_upsert (hshows : roster.Shows subject) (hi : i < records.length) :
    roster.IsFirst (roster.upsert subject records) i ↔ roster.IsFirst records i := by
  refine forall₂_congr fun j hj => ?_
  rw [idAt?_upsert hshows hi, idAt?_upsert hshows (Nat.lt_trans hj hi)]

theorem upsert_hit (hfirst : roster.IsFirst records i)
    (hid : roster.idAt? records i = some subject.id) :
    (roster.upsert subject records)[i]? = some subject.toRecord := by
  induction records generalizing i with
  | nil => cases hid
  | cons record records ih =>
    rw [upsert_cons]
    cases i with
    | zero =>
      rw [idAt?_zero] at hid
      rw [if_pos hid]
      rfl
    | succ i =>
      obtain ⟨hne, hfirst⟩ := isFirst_succ.mp hfirst
      rw [idAt?_succ] at hid
      rw [if_neg (hid ▸ hne)]
      exact ih hfirst hid

theorem upsert_miss (hi : i < records.length)
    (h : ¬(roster.IsFirst records i ∧ roster.idAt? records i = some subject.id)) :
    (roster.upsert subject records)[i]? = records[i]? := by
  induction records generalizing i with
  | nil => cases hi
  | cons record records ih =>
    rw [upsert_cons]
    cases i with
    | zero =>
      have hne : roster.idText? record ≠ some subject.id := fun hid => h ⟨isFirst_zero, hid⟩
      rw [if_neg hne]
      rfl
    | succ i =>
      split
      · rfl
      · next hne =>
        refine ih (Nat.lt_of_succ_lt_succ hi) fun ⟨hfirst, hid⟩ => h ⟨?_, hid⟩
        exact isFirst_succ.mpr ⟨hid ▸ hne, hfirst⟩

theorem upsertAll_cons :
    roster.upsertAll (subject :: subjects) records =
      roster.upsertAll subjects (roster.upsert subject records) := rfl

theorem ids_upsertAll (hshows : ∀ subject ∈ subjects, roster.Shows subject)
    (h : ∀ subject ∈ subjects, some subject.id ∈ records.map roster.idText?) :
    (roster.upsertAll subjects records).map roster.idText? = records.map roster.idText? := by
  induction subjects generalizing records with
  | nil => rfl
  | cons subject subjects ih =>
    obtain ⟨hsubject, hshows⟩ := List.forall_mem_cons.mp hshows
    obtain ⟨hmem, h⟩ := List.forall_mem_cons.mp h
    have hids := ids_upsert hsubject hmem
    rw [upsertAll_cons, ih hshows (hids ▸ h), hids]

/-- A record stays where it is and as it is, unless it is the first one of a subject's id. -/
theorem upsertAll_miss (hshows : ∀ subject ∈ subjects, roster.Shows subject)
    (hi : i < records.length)
    (h : ∀ subject ∈ subjects,
      ¬(roster.IsFirst records i ∧ roster.idAt? records i = some subject.id)) :
    (roster.upsertAll subjects records)[i]? = records[i]? := by
  induction subjects generalizing records with
  | nil => rfl
  | cons subject subjects ih =>
    obtain ⟨hsubject, hshows⟩ := List.forall_mem_cons.mp hshows
    obtain ⟨hmiss, h⟩ := List.forall_mem_cons.mp h
    rw [upsertAll_cons, ih hshows (Nat.lt_of_lt_of_le hi length_le_upsert), upsert_miss hi hmiss]
    simpa only [isFirst_upsert hsubject hi, idAt?_upsert hsubject hi] using h

/-- The first record of an id becomes that of the last subject with this id. -/
theorem upsertAll_hit (hshows : ∀ subject ∈ subjects, roster.Shows subject)
    (hfirst : roster.IsFirst records i) (hid : roster.idAt? records i = some subject.id)
    (hsubject : subjects[l]? = some subject)
    (hlast : ∀ k > l, ∀ other, subjects[k]? = some other → other.id ≠ subject.id) :
    (roster.upsertAll subjects records)[i]? = some subject.toRecord := by
  have hi : i < records.length := by
    by_contra hi
    rw [idAt?_of_ge (Nat.le_of_not_lt hi)] at hid
    cases hid
  induction subjects generalizing records l with
  | nil => cases hsubject
  | cons head subjects ih =>
    obtain ⟨hhead, hrest⟩ := List.forall_mem_cons.mp hshows
    have hi' := Nat.lt_of_lt_of_le hi (@length_le_upsert roster head records)
    rw [upsertAll_cons]
    cases l with
    | zero =>
      cases hsubject
      rw [upsertAll_miss hrest hi', upsert_hit hfirst hid]
      rintro other hother ⟨-, hagain⟩
      obtain ⟨k, hk⟩ := List.mem_iff_getElem?.mp hother
      rw [idAt?_upsert hhead hi, hid] at hagain
      exact hlast (k + 1) (Nat.succ_pos k) other hk (Option.some.inj hagain).symm
    | succ l =>
      refine ih hrest ?_ ?_ hsubject (fun k hk => hlast (k + 1) (Nat.succ_lt_succ hk)) hi'
      · exact (isFirst_upsert hhead hi).mpr hfirst
      · rw [idAt?_upsert hhead hi, hid]

theorem commit_eq_ok {store store' : Store} (h : roster.commit subjects store = .ok store') :
    ∃ name records, store.spelling? roster.kind = some name ∧
      store.records roster.kind = .ok records ∧
      store'.records roster.kind = .ok (roster.upsertAll subjects records) ∧
      ∀ other, other ≠ name →
        Fields.find? store'.tables other = Fields.find? store.tables other := by
  unfold commit at h
  split at h
  · cases h
  · next name hname =>
    cases h
    refine ⟨name, (Fields.find? store.tables name).getD [], hname, ?_, ?_, fun other hother => ?_⟩
    · simp only [Store.records, hname]
    · simp [Store.records, Store.spelling?_insert hname, Fields.find?_insert]
    · rw [Fields.find?_insert, if_neg hother.symm]

/-- Where subjects could be loaded, any can be committed. -/
theorem commit_of_load {store : Store} (h : roster.load store = .ok subjects)
    (arrivals : List Subject) : ∃ store', roster.commit arrivals store = .ok store' := by
  obtain ⟨records, hrecords, -⟩ := load_eq_ok h
  unfold Store.records at hrecords
  unfold commit
  cases hname : store.spelling? roster.kind with
  | none =>
    rw [hname] at hrecords
    cases hrecords
  | some name => exact ⟨_, rfl⟩

end StageGate.Roster
