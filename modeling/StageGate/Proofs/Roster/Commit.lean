import StageGate.Proofs.Roster

/-! A commit as a whole: of several subjects with one id the last one wins, records of other ids
stay as they are, and the same commit changes nothing when it comes again. -/
namespace StageGate.Roster

variable {roster : Roster} {subject : Subject} {subjects : List Subject} {record : Json}
  {records before after : List Json} {id : String} {i : Nat}

/-- The last of the subjects with this id. -/
def heir? (subjects : List Subject) (id : String) : Option Subject :=
  (subjects.filter (·.id == id)).getLast?

/-- The first record with this id. -/
def firstOf? (roster : Roster) (records : List Json) (id : String) : Option Json :=
  records.find? (roster.idText? · == some id)

/-- The ids that no record has, in the order in which the subjects bring them. -/
def newIds (roster : Roster) (subjects : List Subject) (records : List Json) : List String :=
  ((subjects.map Subject.id).filter (some · ∉ records.map roster.idText?)).eraseDups

/-- The records before and after a commit. The first record of a subject's id is that of the last
subject with this id, all others are as they were; no id leaves its place, and the new ones join at
the end. -/
structure Upserts (roster : Roster) (subjects : List Subject) (before after : List Json) :
    Prop where
  won : ∀ subject ∈ subjects, ∃ last, heir? subjects subject.id = some last ∧
    roster.firstOf? after subject.id = some last.toRecord
  kept : ∀ i < before.length,
    (∀ subject ∈ subjects,
      ¬(roster.IsFirst before i ∧ roster.idAt? before i = some subject.id)) →
    after[i]? = before[i]?
  ids : after.map roster.idText? =
    before.map roster.idText? ++ (roster.newIds subjects before).map some

theorem heir?_cons :
    heir? (subject :: subjects) id =
      if subject.id = id then some ((heir? subjects id).getD subject) else heir? subjects id := by
  unfold heir?
  split
  · next h => rw [List.filter_cons_of_pos (by simpa using h), List.getLast?_cons]
  · next h => rw [List.filter_cons_of_neg (by simpa using h)]

theorem exists_heir (h : subject ∈ subjects) : ∃ last, heir? subjects subject.id = some last := by
  have hne : subjects.filter (·.id == subject.id) ≠ [] :=
    List.ne_nil_of_mem (List.mem_filter.mpr ⟨h, beq_self_eq_true _⟩)
  exact ⟨_, List.getLast?_eq_some_getLast hne⟩

theorem firstOf?_cons :
    roster.firstOf? (record :: records) id =
      if roster.idText? record = some id then some record else roster.firstOf? records id := by
  simp only [firstOf?, List.find?_cons]
  split <;> simp_all

theorem firstOf?_upsert (hshows : roster.Shows subject) :
    roster.firstOf? (roster.upsert subject records) id =
      if subject.id = id then some subject.toRecord else roster.firstOf? records id := by
  have hid : roster.idText? subject.toRecord = some subject.id := hshows
  induction records with
  | nil => simp only [upsert, firstOf?_cons, hid, Option.some_inj]
  | cons record records ih =>
    rw [upsert_cons]
    split
    · next hrecord => simp only [firstOf?_cons, hid, hrecord, Option.some_inj]; split <;> rfl
    · next hne =>
      rw [firstOf?_cons, firstOf?_cons, ih]
      split
      · next hrecord =>
        have hother : subject.id ≠ id := fun heq => hne (heq ▸ hrecord)
        rw [if_neg hother]
      · rfl

theorem firstOf?_upsertAll (hshows : ∀ subject ∈ subjects, roster.Shows subject) :
    roster.firstOf? (roster.upsertAll subjects records) id =
      ((heir? subjects id).map Subject.toRecord).or (roster.firstOf? records id) := by
  induction subjects generalizing records with
  | nil => rfl
  | cons subject subjects ih =>
    obtain ⟨hsubject, hshows⟩ := List.forall_mem_cons.mp hshows
    rw [upsertAll_cons, ih hshows, firstOf?_upsert hsubject, heir?_cons]
    split
    · cases heir? subjects id <;> rfl
    · rfl

theorem upsert_new (h : some subject.id ∉ records.map roster.idText?) :
    roster.upsert subject records = records ++ [subject.toRecord] := by
  induction records with
  | nil => rfl
  | cons record records ih =>
    rw [List.map_cons, List.mem_cons, not_or] at h
    rw [upsert_cons, if_neg (Ne.symm h.1), ih h.2, List.cons_append]

/-- Ids keep their places, and new ones join at the end, each once. -/
theorem ids_upsertAll_eq (hshows : ∀ subject ∈ subjects, roster.Shows subject) :
    (roster.upsertAll subjects records).map roster.idText? =
      records.map roster.idText? ++ (roster.newIds subjects records).map some := by
  induction subjects generalizing records with
  | nil => simp [upsertAll, newIds]
  | cons subject subjects ih =>
    obtain ⟨hsubject, hshows⟩ := List.forall_mem_cons.mp hshows
    rw [upsertAll_cons, ih hshows]
    by_cases h : some subject.id ∈ records.map roster.idText?
    · have hids := ids_upsert hsubject h
      simp only [newIds, hids, List.map_cons]
      rw [List.filter_cons_of_neg (by simpa using h)]
    · have hids : (roster.upsert subject records).map roster.idText? =
          records.map roster.idText? ++ [some subject.id] := by
        rw [upsert_new h, List.map_append, List.map_singleton, hsubject]
      have hrest : (subjects.map Subject.id).filter
            (some · ∉ (roster.upsert subject records).map roster.idText?) =
          ((subjects.map Subject.id).filter (some · ∉ records.map roster.idText?)).filter
            (!· == subject.id) := by
        rw [hids, List.filter_filter]
        refine List.filter_congr fun other _ => ?_
        simp [not_or, Bool.and_comm, beq_eq_decide]
      rw [newIds, newIds, hrest, hids, List.map_cons, List.filter_cons_of_pos (by simpa using h),
        List.eraseDups_cons, List.map_cons, List.append_assoc, List.singleton_append]

theorem idAt?_eq_join : roster.idAt? records i = (records.map roster.idText?)[i]?.join := by
  rw [idAt?, List.getElem?_map]
  cases records[i]? <;> rfl

theorem isFirst_of_ids (hids : after.map roster.idText? = before.map roster.idText?)
    (h : roster.IsFirst before i) : roster.IsFirst after i := by
  intro j hj
  rw [idAt?_eq_join, idAt?_eq_join, hids, ← idAt?_eq_join, ← idAt?_eq_join]
  exact h j hj

theorem getElem?_eq_firstOf? (hfirst : roster.IsFirst records i)
    (hid : roster.idAt? records i = some id) : records[i]? = roster.firstOf? records id := by
  induction records generalizing i with
  | nil => rfl
  | cons record records ih =>
    rw [firstOf?_cons]
    cases i with
    | zero =>
      rw [idAt?_zero] at hid
      rw [if_pos hid, List.getElem?_cons_zero]
    | succ i =>
      obtain ⟨hne, hfirst⟩ := isFirst_succ.mp hfirst
      rw [idAt?_succ] at hid
      rw [if_neg (hid ▸ hne), List.getElem?_cons_succ, ih hfirst hid]

theorem mem_ids_upsertAll (records : List Json)
    (hshows : ∀ subject ∈ subjects, roster.Shows subject) (h : subject ∈ subjects) :
    some subject.id ∈ (roster.upsertAll subjects records).map roster.idText? := by
  rw [ids_upsertAll_eq hshows, List.mem_append]
  by_cases hold : some subject.id ∈ records.map roster.idText?
  · exact Or.inl hold
  · refine Or.inr (List.mem_map_of_mem (List.mem_eraseDups.mpr ?_))
    exact List.mem_filter.mpr ⟨List.mem_map_of_mem h, by simpa using hold⟩

theorem upsertAll_upsertAll (hshows : ∀ subject ∈ subjects, roster.Shows subject) :
    roster.upsertAll subjects (roster.upsertAll subjects records) =
      roster.upsertAll subjects records := by
  have hids := ids_upsertAll hshows fun subject hsubject =>
    mem_ids_upsertAll records hshows hsubject
  have hlength := congrArg List.length hids
  simp only [List.length_map] at hlength
  refine List.ext_getElem? fun i => ?_
  by_cases hi : i < (roster.upsertAll subjects records).length
  · by_cases h : ∃ subject ∈ subjects, roster.IsFirst (roster.upsertAll subjects records) i ∧
        roster.idAt? (roster.upsertAll subjects records) i = some subject.id
    · obtain ⟨subject, hsubject, hfirst, hid⟩ := h
      obtain ⟨last, hlast⟩ := exists_heir hsubject
      have hid' : roster.idAt? (roster.upsertAll subjects (roster.upsertAll subjects records)) i =
          some subject.id := by
        rw [← hid, idAt?_eq_join, hids, ← idAt?_eq_join]
      rw [getElem?_eq_firstOf? (isFirst_of_ids hids hfirst) hid', firstOf?_upsertAll hshows,
        getElem?_eq_firstOf? hfirst hid, firstOf?_upsertAll hshows, hlast]
      rfl
    · exact upsertAll_miss hshows hi fun subject hsubject hhit => h ⟨subject, hsubject, hhit⟩
  · rw [List.getElem?_eq_none (by omega), List.getElem?_eq_none (by omega)]

theorem upserts_upsertAll (hshows : ∀ subject ∈ subjects, roster.Shows subject) :
    roster.Upserts subjects records (roster.upsertAll subjects records) where
  won subject hsubject := by
    obtain ⟨last, hlast⟩ := exists_heir hsubject
    refine ⟨last, hlast, ?_⟩
    rw [firstOf?_upsertAll hshows, hlast]
    rfl
  kept i hi h := upsertAll_miss hshows hi h
  ids := ids_upsertAll_eq hshows

theorem commit_of_spelling (subjects : List Subject) {store : Store} {name : String}
    (hkind : store.spelling? roster.kind = some name)
    (hrecords : store.records roster.kind = .ok records) :
    roster.commit subjects store =
      .ok ⟨Fields.insert store.tables name (roster.upsertAll subjects records)⟩ := by
  unfold Store.records at hrecords
  rw [hkind] at hrecords
  cases hrecords
  rw [commit, hkind]

/-- A commit to a kind that is there comes through, leaves the other kinds alone, and changes
nothing more when it is made again. -/
theorem commit_upserts {store : Store} {name : String}
    (hkind : store.spelling? roster.kind = some name)
    (hshows : ∀ subject ∈ subjects, roster.Shows subject) :
    ∃ before store' after, store.records roster.kind = .ok before ∧
      roster.commit subjects store = .ok store' ∧ store'.records roster.kind = .ok after ∧
      roster.Upserts subjects before after ∧
      (∀ other, other ≠ name →
        Fields.find? store'.tables other = Fields.find? store.tables other) ∧
      roster.commit subjects store' = .ok store' := by
  have hbefore : store.records roster.kind = .ok ((Fields.find? store.tables name).getD []) := by
    rw [Store.records, hkind]
  have hcommit := commit_of_spelling subjects hkind hbefore
  obtain ⟨_, _, hname, hrecords, hafter, hothers⟩ := commit_eq_ok hcommit
  cases hkind.symm.trans hname
  cases hbefore.symm.trans hrecords
  refine ⟨_, _, _, hbefore, hcommit, hafter, upserts_upsertAll hshows, hothers, ?_⟩
  rw [commit_of_spelling _ (Store.spelling?_insert hkind _) hafter, Fields.insert_insert,
    upsertAll_upsertAll hshows]

def census : Roster := ⟨"people", "Id", "CurrentState"⟩

def resident (id : Json) (name : String) : Subject :=
  ⟨(Value.ofJson id).toText, "A", "CurrentState",
    [("CurrentState", .string "A"), ("Id", id), ("Name", .string name)]⟩

/-- Two records with the id `1`, and one without any. -/
def town : Store :=
  ⟨[("Jobs", []), ("People",
    [.null, (resident (.whole (.ofInt64 1)) "Ana").toRecord,
      (resident (.string "1") "Ben").toRecord])]⟩

/-- Cleo and Ada come for the id `1`, Dan and Eve for one that is new. -/
def newcomers : List Subject :=
  [resident (.string "2") "Dan", resident (.string "1") "Cleo",
    resident (.whole (.ofInt64 2)) "Eve", resident (.whole (.ofInt64 1)) "Ada"]

theorem commit_upserts_newcomers :
    town.spelling? census.kind = some "People" ∧
    (∀ subject ∈ newcomers, census.Shows subject) ∧
    ∃ before town' after, town.records "people" = .ok before ∧
      census.commit newcomers town = .ok town' ∧ town'.records "people" = .ok after ∧
      census.Upserts newcomers before after ∧
      (∀ other, other ≠ "People" →
        Fields.find? town'.tables other = Fields.find? town.tables other) ∧
      census.commit newcomers town' = .ok town' := by
  have hkind : town.spelling? census.kind = some "People" := by decide
  have hshows : ∀ subject ∈ newcomers, census.Shows subject := by
    simp only [newcomers, List.forall_mem_cons]
    exact ⟨rfl, rfl, rfl, rfl, by simp⟩
  exact ⟨hkind, hshows, commit_upserts hkind hshows⟩

end StageGate.Roster
