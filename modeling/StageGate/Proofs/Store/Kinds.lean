import Mathlib.Data.List.Nodup
import StageGate.Proofs.Except
import StageGate.Roster

/-! One table for each kind: in whatever case a kind is spelled, it is the same one that is read and
written. -/
namespace StageGate

open Text

theorem sameIgnoringCase_iff {a b : String} :
    sameIgnoringCase a b = true ↔ asciiLower a = asciiLower b :=
  beq_iff_eq

theorem Fields.pairwise_ofList {α : Type} (entries : List (String × α)) :
    (Fields.names (Fields.ofList entries)).Pairwise (· < ·) := by
  have hinsert : ∀ fields : Fields α, (Fields.names fields).Pairwise (· < ·) →
      (Fields.names (entries.foldl (fun fields entry => Fields.insert fields entry.1 entry.2)
        fields)).Pairwise (· < ·) := by
    induction entries with
    | nil => exact fun _ h => h
    | cons entry entries ih => exact fun fields h => ih _ (Fields.pairwise_insert h _ _)
  exact hinsert [] .nil

/-- The same error about the kind as it is spelled here. -/
def Error.respell (kind : String) : Error → Error
  | .entityNotFound _ => .entityNotFound kind
  | .store (.severalMatches _ count) => .store (.severalMatches kind count)
  | e => e

namespace Store

variable {store store' : Store} {kind kind' name : String} {records : List Json}

def kinds (store : Store) : List String :=
  Fields.names store.tables

/-- The kinds stand in order, and no two of them differ in case only. -/
def OneTableEach (store : Store) : Prop :=
  store.kinds.Pairwise (· < ·) ∧ (store.kinds.map asciiLower).Nodup

/-- What comes of a store by inserts and commits; one that fails changes nothing. -/
inductive Grows (start : Store) : Store → Prop
  | start : Grows start start
  | insert {store : Store} (h : Grows start store) (kind : String) (records : List Json) :
    Grows start (store.insert kind records)
  | commit {store store' : Store} (h : Grows start store) (roster : Roster)
    (subjects : List Subject) (hcommit : roster.commit subjects store = .ok store') :
    Grows start store'

/-- Whatever is asked about the one kind is answered as about the other, but that errors spell it as
it was asked for. -/
structure Synonyms (store : Store) (kind kind' : String) : Prop where
  records : store.records kind' = (store.records kind).mapError (·.respell kind')
  fetchList : ∀ filter,
    store.fetchList kind' filter = (store.fetchList kind filter).mapError (·.respell kind')
  fetchOne : ∀ filter,
    store.fetchOne kind' filter = (store.fetchOne kind filter).mapError (·.respell kind')
  load : ∀ idField stateField, Roster.load ⟨kind', idField, stateField⟩ store =
    (Roster.load ⟨kind, idField, stateField⟩ store).mapError (·.respell kind')
  commit : ∀ idField stateField subjects,
    Roster.commit ⟨kind', idField, stateField⟩ subjects store =
      (Roster.commit ⟨kind, idField, stateField⟩ subjects store).mapError (·.respell kind')

/-- New records have come to a kind, which was made if there was none; all else is as before. -/
structure Joined (store : Store) (kind : String) (records : List Json) (store' : Store) : Prop where
  here : ∀ kind', sameIgnoringCase kind' kind = true →
    store'.records kind' = .ok ((store.records kind).toOption.getD [] ++ records)
  elsewhere : ∀ kind', sameIgnoringCase kind' kind = false →
    store'.records kind' = store.records kind'
  kinds : ∀ name, name ∈ store'.kinds ↔
    name ∈ store.kinds ∨ store.spelling? kind = none ∧ name = kind

theorem mem_kinds_iff : name ∈ store.kinds ↔ Fields.has store.tables name = true :=
  Fields.mem_names_iff

theorem OneTableEach.eq_of_lower (h : store.OneTableEach) (hkind : kind ∈ store.kinds)
    (hkind' : kind' ∈ store.kinds) (hsame : asciiLower kind = asciiLower kind') : kind = kind' :=
  List.inj_on_of_nodup_map h.2 hkind hkind' hsame

theorem mem_of_spelling? (h : store.spelling? kind = some name) :
    name ∈ store.kinds ∧ asciiLower name = asciiLower kind := by
  unfold spelling? at h
  split at h
  · next hkind =>
    cases h
    exact ⟨mem_kinds_iff.mpr hkind, rfl⟩
  · have hsame := List.find?_some h
    exact ⟨List.mem_of_find?_eq_some h, sameIgnoringCase_iff.mp hsame⟩

theorem spelling?_eq_none_iff :
    store.spelling? kind = none ↔ ∀ name ∈ store.kinds, asciiLower name ≠ asciiLower kind := by
  constructor
  · intro h name hname hsame
    unfold spelling? at h
    split at h
    · cases h
    · exact List.find?_eq_none.mp h name hname (sameIgnoringCase_iff.mpr hsame)
  · intro h
    cases hspelling : store.spelling? kind with
    | none => rfl
    | some name => exact (h name (mem_of_spelling? hspelling).1 (mem_of_spelling? hspelling).2).elim

/-- Where there is one table for each kind, its spelling is found by any other. -/
theorem OneTableEach.spelling?_eq_some_iff (h : store.OneTableEach) :
    store.spelling? kind = some name ↔
      name ∈ store.kinds ∧ asciiLower name = asciiLower kind := by
  refine ⟨mem_of_spelling?, fun ⟨hname, hsame⟩ => ?_⟩
  cases hspelling : store.spelling? kind with
  | none => exact (spelling?_eq_none_iff.mp hspelling name hname hsame).elim
  | some name' =>
    obtain ⟨hname', hsame'⟩ := mem_of_spelling? hspelling
    rw [h.eq_of_lower hname' hname (hsame'.trans hsame.symm)]

theorem OneTableEach.spelling?_congr (h : store.OneTableEach)
    (hsame : asciiLower kind = asciiLower kind') :
    store.spelling? kind = store.spelling? kind' := by
  refine Option.ext fun name => ?_
  rw [h.spelling?_eq_some_iff, h.spelling?_eq_some_iff, hsame]

/-- The spelling of a kind in the store, or its own where there is none. -/
def place (store : Store) (kind : String) : String :=
  (store.spelling? kind).getD kind

theorem lower_place (store : Store) (kind : String) :
    asciiLower (store.place kind) = asciiLower kind := by
  unfold place
  cases hspelling : store.spelling? kind with
  | none => rfl
  | some name => exact (mem_of_spelling? hspelling).2

section Growing

/-- A table is put in the place of the one of its kind, or of none. -/
theorem OneTableEach.put (h : store.OneTableEach)
    (hname : ∀ other ∈ store.kinds, asciiLower other = asciiLower name → other = name)
    (records : List Json) : OneTableEach ⟨Fields.insert store.tables name records⟩ := by
  have hsorted := Fields.pairwise_insert h.1 name records
  refine ⟨hsorted, ?_⟩
  have hnodup : (Fields.names (Fields.insert store.tables name records)).Nodup :=
    hsorted.imp fun hlt => Std.ne_of_lt hlt
  refine hnodup.map_on fun a ha b hb hsame => ?_
  obtain hnew | hold := Fields.mem_names_insert.mp ha
  · subst hnew
    obtain hnew' | hold' := Fields.mem_names_insert.mp hb
    · exact hnew'.symm
    · exact (hname b hold' hsame.symm).symm
  · obtain rfl | hold' := Fields.mem_names_insert.mp hb
    · exact hname a hold hsame
    · exact h.eq_of_lower hold hold' hsame

/-- Nothing else is spelled like the place of a kind. -/
theorem OneTableEach.eq_place (h : store.OneTableEach) {other : String}
    (hother : other ∈ store.kinds) (hsame : asciiLower other = asciiLower (store.place kind)) :
    other = store.place kind := by
  rw [lower_place] at hsame
  rw [place, h.spelling?_eq_some_iff.mpr ⟨hother, hsame⟩, Option.getD_some]

theorem OneTableEach.insert (h : store.OneTableEach) (kind : String) (records : List Json) :
    (store.insert kind records).OneTableEach :=
  h.put (fun _ => h.eq_place) _

theorem OneTableEach.commit {roster : Roster} {subjects : List Subject} (h : store.OneTableEach)
    (hcommit : roster.commit subjects store = .ok store') : store'.OneTableEach := by
  unfold Roster.commit at hcommit
  split at hcommit
  · cases hcommit
  · next name hname =>
    cases hcommit
    have hplace : store.place roster.kind = name := by rw [place, hname, Option.getD_some]
    exact h.put (fun _ hother hsame => hplace ▸ h.eq_place hother (hplace ▸ hsame)) _

theorem OneTableEach.grows {start : Store} (h : start.OneTableEach) (hgrows : start.Grows store) :
    store.OneTableEach := by
  induction hgrows with
  | start => exact h
  | insert _ kind records ih => exact ih.insert kind records
  | commit _ roster subjects hcommit ih => exact ih.commit hcommit

theorem names_readTables {fields : Fields Json} {tables : Fields (List Json)}
    (h : readTables fields = .ok tables) : Fields.names tables = Fields.names fields := by
  induction fields generalizing tables with
  | nil =>
    cases h
    rfl
  | cons entry fields ih =>
    obtain ⟨kind, raw⟩ := entry
    cases raw with
    | array records =>
      obtain ⟨rest, hrest, htables⟩ := bind_eq_ok_iff.mp h
      cases htables
      exact congrArg (kind :: ·) (ih hrest)
    | _ => cases h

theorem oneTableEach_ofJson {entries : List (String × Json)}
    (hdistinct : ((Fields.names (Fields.ofList entries)).map asciiLower).Nodup)
    (hread : ofJson (.object (Fields.ofList entries)) = .ok store) : store.OneTableEach := by
  obtain ⟨tables, htables, rfl⟩ := map_eq_ok_iff.mp hread
  have hnames : kinds ⟨tables⟩ = Fields.names (Fields.ofList entries) := names_readTables htables
  unfold OneTableEach
  rw [hnames]
  exact ⟨Fields.pairwise_ofList entries, hdistinct⟩

end Growing

section Asking

theorem respell_mapM {ε α β : Type} {f : α → Except ε β} {g : ε → ε}
    (h : ∀ a, (f a).mapError g = f a) (as : List α) : (as.mapM f).mapError g = as.mapM f := by
  induction as with
  | nil => rfl
  | cons a as ih =>
    rw [List.mapM_cons]
    have ha := h a
    cases hfa : f a with
    | error e =>
      rw [hfa] at ha
      exact congrArg Except.error (Except.error.inj ha)
    | ok b =>
      cases has : as.mapM f with
      | error e =>
        rw [has] at ih
        exact ih
      | ok bs => rfl

theorem respell_ofRecord (kind idField stateField : String) (record : Json) :
    (Subject.ofRecord idField stateField record).mapError (·.respell kind) =
      Subject.ofRecord idField stateField record := by
  unfold Subject.ofRecord
  split
  · split
    · rfl
    · rfl
    · split <;> rfl
  · rfl

theorem upsertAll_respelled (kind kind' idField stateField : String) (subjects : List Subject)
    (records : List Json) : Roster.upsertAll ⟨kind', idField, stateField⟩ subjects records =
      Roster.upsertAll ⟨kind, idField, stateField⟩ subjects records := by
  have hupsert : ∀ (subject : Subject) (records : List Json),
      Roster.upsert ⟨kind', idField, stateField⟩ subject records =
        Roster.upsert ⟨kind, idField, stateField⟩ subject records := by
    intro subject records
    induction records with
    | nil => rfl
    | cons record records ih =>
      simp only [Roster.upsert, ih]
      rfl
  simp only [Roster.upsertAll, hupsert]

variable {idField stateField : String}

theorem respell_records (h : store.spelling? kind = store.spelling? kind') :
    store.records kind' = (store.records kind).mapError (·.respell kind') := by
  unfold Store.records
  rw [h]
  cases store.spelling? kind' <;> rfl

theorem respell_fetchList (h : store.spelling? kind = store.spelling? kind') (filter : Filter) :
    store.fetchList kind' filter = (store.fetchList kind filter).mapError (·.respell kind') := by
  unfold fetchList
  rw [respell_records h]
  cases store.records kind <;> rfl

theorem respell_fetchOne (h : store.spelling? kind = store.spelling? kind') (filter : Filter) :
    store.fetchOne kind' filter = (store.fetchOne kind filter).mapError (·.respell kind') := by
  unfold fetchOne
  rw [respell_fetchList h]
  cases store.fetchList kind filter with
  | error e => rfl
  | ok found =>
    match found with
    | [] => rfl
    | [_] => rfl
    | _ :: _ :: _ => rfl

theorem respell_load (h : store.spelling? kind = store.spelling? kind') :
    Roster.load ⟨kind', idField, stateField⟩ store =
      (Roster.load ⟨kind, idField, stateField⟩ store).mapError (·.respell kind') := by
  unfold Roster.load
  rw [respell_records h]
  cases store.records kind with
  | error e => rfl
  | ok records => exact (respell_mapM (respell_ofRecord kind' idField stateField) records).symm

theorem respell_commit (h : store.spelling? kind = store.spelling? kind')
    (subjects : List Subject) :
    Roster.commit ⟨kind', idField, stateField⟩ subjects store =
      (Roster.commit ⟨kind, idField, stateField⟩ subjects store).mapError (·.respell kind') := by
  unfold Roster.commit
  dsimp only
  rw [h]
  cases store.spelling? kind' with
  | none => rfl
  | some name =>
    dsimp only
    rw [upsertAll_respelled kind kind']
    rfl

theorem OneTableEach.synonyms (h : store.OneTableEach)
    (hsame : sameIgnoringCase kind kind' = true) : store.Synonyms kind kind' := by
  have hspelling := h.spelling?_congr (sameIgnoringCase_iff.mp hsame)
  exact {
    records := respell_records hspelling
    fetchList := respell_fetchList hspelling
    fetchOne := respell_fetchOne hspelling
    load := fun _ _ => respell_load hspelling
    commit := fun _ _ => respell_commit hspelling }

end Asking

section Inserting

theorem mem_kinds_insert :
    name ∈ (store.insert kind records).kinds ↔ name = store.place kind ∨ name ∈ store.kinds :=
  Fields.mem_names_insert

theorem find?_insert (store : Store) (kind other : String) (records : List Json) :
    Fields.find? (store.insert kind records).tables other =
      if store.place kind = other then
        some ((Fields.find? store.tables (store.place kind)).getD [] ++ records)
      else Fields.find? store.tables other :=
  Fields.find?_insert _ _ _ _

/-- What is held of a kind, if anything is. -/
theorem toOption_records (store : Store) (kind : String) :
    (store.records kind).toOption.getD [] =
      (Fields.find? store.tables (store.place kind)).getD [] := by
  unfold Store.records place
  cases hspelling : store.spelling? kind with
  | none =>
    have hmissing : ¬Fields.has store.tables kind = true := fun hhas =>
      spelling?_eq_none_iff.mp hspelling kind (mem_kinds_iff.mpr hhas) rfl
    have hnone : Fields.find? store.tables kind = none := by
      simpa [Fields.has] using hmissing
    simp [hnone, Except.toOption]
  | some name => rfl

theorem records_of_spelling (h : store.spelling? kind = some name) :
    store.records kind = .ok ((Fields.find? store.tables name).getD []) := by
  rw [Store.records, h]

theorem OneTableEach.spelling?_insert_other (h : store.OneTableEach)
    (hother : asciiLower kind' ≠ asciiLower kind) :
    (store.insert kind records).spelling? kind' = store.spelling? kind' := by
  refine Option.ext fun name => ?_
  rw [(h.insert kind records).spelling?_eq_some_iff, h.spelling?_eq_some_iff, mem_kinds_insert]
  constructor
  · rintro ⟨rfl | hname, hsame⟩
    · exact (hother (hsame.symm.trans (lower_place store kind))).elim
    · exact ⟨hname, hsame⟩
  · rintro ⟨hname, hsame⟩
    exact ⟨.inr hname, hsame⟩

/-- An insert goes to the end of the one table of its kind, under every spelling of it. -/
theorem OneTableEach.joined (h : store.OneTableEach) (kind : String) (records : List Json) :
    store.Joined kind records (store.insert kind records) where
  here kind' hsame := by
    have hspelling :
        (store.insert kind records).spelling? kind' = some (store.place kind) := by
      refine (h.insert kind records).spelling?_eq_some_iff.mpr ⟨mem_kinds_insert.mpr (.inl rfl), ?_⟩
      rw [lower_place, sameIgnoringCase_iff.mp hsame]
    rw [records_of_spelling hspelling, find?_insert, if_pos rfl, toOption_records]
    rfl
  elsewhere kind' hother := by
    have hlower : asciiLower kind' ≠ asciiLower kind := by
      rw [Ne, ← sameIgnoringCase_iff, hother]
      exact Bool.false_ne_true
    unfold Store.records
    rw [h.spelling?_insert_other hlower]
    cases hspelling : store.spelling? kind' with
    | none => rfl
    | some name =>
      have hname : store.place kind ≠ name := by
        rintro rfl
        exact hlower ((mem_of_spelling? hspelling).2.symm.trans (lower_place store kind))
      simp only [find?_insert, if_neg hname]
  kinds name := by
    rw [mem_kinds_insert, place]
    cases hspelling : store.spelling? kind with
    | none => simp [or_comm]
    | some found =>
      have hfound := (mem_of_spelling? hspelling).1
      simp only [Option.getD_some, reduceCtorEq, false_and, or_false, or_iff_right_iff_imp]
      rintro rfl
      exact hfound

end Inserting

/-- A store read from a document in which no two kinds differ in case only stays one table for each
kind, whatever is inserted and committed: all spellings of a kind have the same answers, and what is
inserted under one of them stands at the end under all of them. -/
theorem one_table_each {entries : List (String × Json)} {start : Store}
    (hdistinct : ((Fields.names (Fields.ofList entries)).map asciiLower).Nodup)
    (hread : ofJson (.object (Fields.ofList entries)) = .ok start) (hgrows : start.Grows store) :
    (store.kinds.map asciiLower).Nodup ∧
      (∀ kind kind', sameIgnoringCase kind kind' = true → store.Synonyms kind kind') ∧
      ∀ kind records, store.Joined kind records (store.insert kind records) := by
  have h := (oneTableEach_ofJson hdistinct hread).grows hgrows
  exact ⟨h.2, fun _ _ => h.synonyms, h.joined⟩

/-- Two kinds that a document has, in no order. -/
def twoKinds : List (String × Json) :=
  [("people", .array [.null]), ("Jobs", .array [])]

def twoTables : Store := ⟨[("Jobs", []), ("people", [.null])]⟩

def ana : Subject :=
  ⟨"Ana", "A", "CurrentState", [("CurrentState", .string "A"), ("Id", .string "Ana")]⟩

theorem one_table_each_twoKinds :
    ((Fields.names (Fields.ofList twoKinds)).map asciiLower).Nodup ∧
      ∃ start store, ofJson (.object (Fields.ofList twoKinds)) = .ok start ∧ start.Grows store ∧
        store.records "People" = .ok [.null, .bool true, ana.toRecord] ∧
        store.Synonyms "People" "PEOPLE" ∧
        (store.insert "jobs" [.null]).records "JOBS" = .ok [.null] := by
  have hdistinct : ((Fields.names (Fields.ofList twoKinds)).map asciiLower).Nodup := by decide
  have hgrows := (@Grows.start twoTables).insert "PEOPLE" [.bool true] |>.commit
    ⟨"pEOPLE", "Id", "CurrentState"⟩ [ana] rfl
  obtain ⟨-, hsynonyms, hjoined⟩ := one_table_each hdistinct rfl hgrows
  exact ⟨hdistinct, _, _, rfl, hgrows, rfl, hsynonyms _ _ (by decide),
    (hjoined "jobs" [.null]).here "JOBS" (by decide)⟩

end Store
end StageGate
