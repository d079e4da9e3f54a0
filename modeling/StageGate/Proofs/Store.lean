import StageGate.Proofs.Value.Literal
import StageGate.Proofs.Value.Order
import StageGate.Run

/-! What filters find: dates by a text or a variable, records by their own fields. -/
namespace StageGate

open Text

theorem Query.resolve_insert (vars : Variables) (entity storeAs field : String)
    (before after : Fields Json) (raw : Json) :
    (⟨entity, before ++ (field, raw) :: after, storeAs⟩ : Query).resolve vars =
      (⟨entity, before, storeAs⟩ : Query).resolve vars ++
        (field, vars.evaluate (.ofJson raw)) :: (⟨entity, after, storeAs⟩ : Query).resolve vars := by
  simp only [Query.resolve, List.map_append, List.map_cons]

namespace Variables

variable {vars : Variables} {s : String} {d : DateTime}

/-- A text that names a date-time is no path. -/
theorem evaluate_date (hs : DateTime.read? s = some d) :
    vars.evaluate (.ofJson (.string s)) = .string s := by
  change vars.evaluate (.string s) = .string s
  rw [evaluate]
  split
  · next rest hat =>
    have hnone := Value.read?_of_mark (s := s) (c := '@') (by rw [hat]; rfl) (by simp)
    cases hnone.symm.trans hs
  · rfl

theorem evaluate_path (vars : Variables) (path : String) :
    vars.evaluate (.ofJson (.string ("@" ++ path))) = vars.resolve path := by
  change vars.evaluate (.string ("@" ++ path)) = vars.resolve path
  simp [evaluate]

end Variables

/-- The date-time in a field of a record. -/
def Value.dateAt? (record : Value) (field : String) : Option DateTime :=
  (record.field? field).bind dateTime?

namespace Store

variable {store : Store} {kind field s : String} {d : DateTime} {filter : Filter} {raw : Json}

theorem fieldMatches_dateTime_string {t : DateTime} (hs : DateTime.read? s = some d) :
    fieldMatches (.dateTime t) (.string s) = true ↔ t = d := by
  simp [fieldMatches, hs]

theorem fieldMatches_of_forall_ne {actual expected : Value}
    (h : ∀ t s, actual = .dateTime t → expected ≠ .string s) :
    fieldMatches actual expected = (trim actual.toText == trim expected.toText) := by
  unfold fieldMatches
  split
  · next t s => exact (h t s rfl rfl).elim
  · rfl

theorem fieldMatches_self (v : Value) : fieldMatches v v = true := by
  rw [fieldMatches_of_forall_ne (by rintro t s rfl h; cases h), beq_self_eq_true]

/-- A text that names a date-time matches this date-time only, however it is spelled. -/
theorem fieldMatches_text_iff (hs : DateTime.read? s = some d) :
    fieldMatches (Value.project raw) (.string s) = true ↔ Value.project raw = .dateTime d := by
  by_cases hdate : ∃ t, Value.project raw = .dateTime t
  · obtain ⟨t, ht⟩ := hdate
    rw [ht, fieldMatches_dateTime_string hs, Value.dateTime.injEq]
  · -- The texts agree, and nothing but a date-time has a text that reads as one.
    refine iff_of_false (fun hmatch => hdate ?_) fun heq => hdate ⟨d, heq⟩
    rw [fieldMatches_of_forall_ne fun t _ ht _ => hdate ⟨t, ht⟩, beq_iff_eq] at hmatch
    have hread : DateTime.read? (Value.project raw).toText = some d := by
      rw [← DateTime.read?_trim, hmatch, DateTime.read?_trim, Value.toText, hs]
    obtain ⟨t, ht, -⟩ := Value.read?_toText_project hread
    exact ⟨t, ht⟩

/-- A date-time matches those that look like it. -/
theorem fieldMatches_dateTime_iff :
    fieldMatches (Value.project raw) (.dateTime d) = true ↔
      ∃ t, Value.project raw = .dateTime t ∧ t.toTheSecond = d.toTheSecond := by
  rw [fieldMatches_of_forall_ne (by rintro t s - h; cases h), beq_iff_eq]
  constructor
  · intro hmatch
    have hread : DateTime.read? (Value.project raw).toText = some d.toTheSecond := by
      rw [← DateTime.read?_trim, hmatch, DateTime.read?_trim, Value.toText, DateTime.read?_toText]
    exact Value.read?_toText_project hread
  · rintro ⟨t, ht, hsecond⟩
    rw [ht, Value.toText, Value.toText, DateTime.toText_eq_iff.mpr hsecond]

theorem field?_getD_project (record : Json) (field : String) :
    ((Value.project record).field? field).getD .null =
      Value.project ((record.field? field).getD .null) := by
  rw [Value.field?_project]
  cases record.field? field <;> rfl

theorem dateAt?_project {record : Json} :
    (Value.project record).dateAt? field = some d ↔
      Value.project ((record.field? field).getD .null) = .dateTime d := by
  rw [Value.dateAt?, Value.field?_project]
  cases record.field? field with
  | none => exact iff_of_false (by simp) (by rintro ⟨⟩)
  | some raw =>
    change (Value.project raw).dateTime? = some d ↔ Value.project raw = .dateTime d
    cases Value.project raw <;> simp [Value.dateTime?]

theorem recordMatches_singleton (record : Value) (field : String) (expected : Value) :
    recordMatches record [(field, expected)] =
      fieldMatches ((record.field? field).getD .null) expected := by
  simp [recordMatches]

theorem recordMatches_text_iff (hs : DateTime.read? s = some d) (record : Json) :
    recordMatches (Value.project record) [(field, .string s)] = true ↔
      (Value.project record).dateAt? field = some d := by
  rw [recordMatches_singleton, field?_getD_project, fieldMatches_text_iff hs, dateAt?_project]

theorem recordMatches_dateTime_iff (d : DateTime) (record : Json) :
    recordMatches (Value.project record) [(field, .dateTime d)] = true ↔
      ∃ t, (Value.project record).dateAt? field = some t ∧ t.toTheSecond = d.toTheSecond := by
  simp only [recordMatches_singleton, field?_getD_project, fieldMatches_dateTime_iff,
    dateAt?_project]

theorem recordMatches_insert (record : Value) (before after : Filter) (entry : String × Value) :
    recordMatches record (before ++ entry :: after) =
      (recordMatches record (before ++ after) && recordMatches record [entry]) := by
  simp only [recordMatches, List.all_append, List.all_cons, List.all_nil, Bool.and_true]
  ac_rfl

/-- What a filter finds among records. -/
def matching (records : List Json) (filter : Filter) : List Value :=
  (records.map Value.project).filter (recordMatches · filter)

theorem fetchList_eq_matching (store : Store) (kind : String) (filter : Filter) :
    store.fetchList kind filter = (matching · filter) <$> store.records kind := by
  unfold fetchList
  cases store.records kind <;> rfl

/-- No record has a date in the field that is another moment of this second. -/
def Apart (d : DateTime) (field : String) (records : List Json) : Prop :=
  ∀ record ∈ records, ∀ t, (Value.project record).dateAt? field = some t →
    t.toTheSecond = d.toTheSecond → t = d

theorem fetchOne_congr {filter' : Filter}
    (h : store.fetchList kind filter = store.fetchList kind filter') :
    store.fetchOne kind filter = store.fetchOne kind filter' := by
  unfold fetchOne
  rw [h]

theorem matching_text (hs : DateTime.read? s = some d) (records : List Json) (field : String)
    (before after : Filter) :
    matching records (before ++ (field, .string s) :: after) =
      (matching records (before ++ (field, .dateTime d) :: after)).filter
        (·.dateAt? field = some d) := by
  unfold matching
  rw [List.filter_filter]
  refine List.filter_congr fun v hv => ?_
  obtain ⟨record, -, rfl⟩ := List.mem_map.mp hv
  rw [recordMatches_insert, recordMatches_insert, Bool.eq_iff_iff]
  simp only [Bool.and_eq_true, decide_eq_true_eq, recordMatches_text_iff hs,
    recordMatches_dateTime_iff]
  constructor
  · rintro ⟨hothers, hdate⟩
    exact ⟨hdate, hothers, d, hdate, rfl⟩
  · rintro ⟨hdate, hothers, -⟩
    exact ⟨hothers, hdate⟩

theorem matching_apart {records : List Json} (hapart : Apart d field records)
    (before after : Filter) :
    (matching records (before ++ (field, .dateTime d) :: after)).filter
        (·.dateAt? field = some d) =
      matching records (before ++ (field, .dateTime d) :: after) := by
  refine List.filter_eq_self.mpr fun v hv => ?_
  obtain ⟨hmem, hmatch⟩ := List.mem_filter.mp hv
  obtain ⟨record, hrecord, rfl⟩ := List.mem_map.mp hmem
  rw [recordMatches_insert, Bool.and_eq_true, recordMatches_dateTime_iff] at hmatch
  obtain ⟨-, t, ht, hsecond⟩ := hmatch
  rw [decide_eq_true_eq, ht, hapart record hrecord t ht hsecond]

/-- A date asked for by its text is met exactly, and one that a variable holds to the second; the
two find the same where no record's date differs in the fraction of its second only. -/
theorem fetch_by_date {vars : Variables} {path : String} (hs : DateTime.read? s = some d)
    (hpath : vars.resolve path = .dateTime d) (store : Store) (entity storeAs field : String)
    (before after : Fields Json) :
    let byText : Query := ⟨entity, before ++ (field, .string s) :: after, storeAs⟩
    let byVariable : Query := ⟨entity, before ++ (field, .string ("@" ++ path)) :: after, storeAs⟩
    (∀ record : Json, recordMatches (Value.project record) [(field, .string s)] = true ↔
      (Value.project record).dateAt? field = some d) ∧
    (∀ record : Json, recordMatches (Value.project record) [(field, .dateTime d)] = true ↔
      ∃ t, (Value.project record).dateAt? field = some t ∧ t.toTheSecond = d.toTheSecond) ∧
    store.fetchList entity (byText.resolve vars) =
      List.filter (·.dateAt? field = some d) <$>
        store.fetchList entity (byVariable.resolve vars) ∧
    ((∀ records, store.records entity = .ok records → Apart d field records) →
      store.fetchList entity (byText.resolve vars) =
        store.fetchList entity (byVariable.resolve vars) ∧
      store.fetchOne entity (byText.resolve vars) =
        store.fetchOne entity (byVariable.resolve vars)) := by
  intro byText byVariable
  have htext := Query.resolve_insert vars entity storeAs field before after (.string s)
  have hvariable := Query.resolve_insert vars entity storeAs field before after
    (.string ("@" ++ path))
  rw [Variables.evaluate_date hs] at htext
  rw [Variables.evaluate_path, hpath] at hvariable
  have hfiltered : store.fetchList entity (byText.resolve vars) =
      List.filter (·.dateAt? field = some d) <$>
        store.fetchList entity (byVariable.resolve vars) := by
    rw [fetchList_eq_matching, fetchList_eq_matching, htext, hvariable]
    cases store.records entity with
    | error e => rfl
    | ok records => exact congrArg Except.ok (matching_text hs records field _ _)
  refine ⟨recordMatches_text_iff hs, recordMatches_dateTime_iff d, hfiltered, fun hapart => ?_⟩
  have hsame : store.fetchList entity (byText.resolve vars) =
      store.fetchList entity (byVariable.resolve vars) := by
    rw [hfiltered, fetchList_eq_matching, hvariable]
    cases hrecords : store.records entity with
    | error e => rfl
    | ok records => exact congrArg Except.ok (matching_apart (hapart records hrecords) _ _)
  exact ⟨hsame, fetchOne_congr hsame⟩

def born (date : String) : Json := .object [("Born", .string date)]

def children : List Json := [born "1990-05-17", born "2020-01-01 00:00:00"]

def births : Store := ⟨[("People", children)]⟩

def today : Variables := ⟨[("Today", .dateTime Value.newYear)]⟩

theorem fetch_by_date_newYear :
    DateTime.read? "2020-01-01" = some Value.newYear ∧
    today.resolve "Today" = .dateTime Value.newYear ∧
    Apart Value.newYear "Born" children ∧
    births.fetchOne "People"
        ((⟨"People", [("Born", .string "2020-01-01")], "Child"⟩ : Query).resolve today) =
      births.fetchOne "People"
        ((⟨"People", [("Born", .string "@Today")], "Child"⟩ : Query).resolve today) := by
  have hs : DateTime.read? "2020-01-01" = some Value.newYear := by decide
  have hpath : today.resolve "Today" = .dateTime Value.newYear := rfl
  have hdates : ∀ child ∈ children, ((Value.project child).dateAt? "Born").all fun t =>
      t.toTheSecond = Value.newYear.toTheSecond → t = Value.newYear := by decide
  have hapart : Apart Value.newYear "Born" children := by
    intro child hchild t ht hsecond
    simpa [ht, hsecond] using hdates child hchild
  have hfetch := (fetch_by_date hs hpath births "People" "Child" "Born" [] []).2.2.2
    fun records hrecords => by
      obtain rfl : children = records := Except.ok.inj hrecords
      exact hapart
  exact ⟨hs, hpath, hapart, hfetch.2⟩

/-- A date with a fraction is found by the date-time of its second and not by the text of it. -/
theorem newYearAndHalf_found_by_dateTime_only :
    ¬∀ (record : Json) (field s : String) (d t : DateTime), DateTime.read? s = some d →
      (Value.project record).dateAt? field = some t →
      (recordMatches (Value.project record) [(field, .dateTime d)] = true ↔
        recordMatches (Value.project record) [(field, .string s)] = true) ∧
      (recordMatches (Value.project record) [(field, .string s)] = true ↔ t = d) := by
  intro h
  have hs : DateTime.read? "2020-01-01" = some Value.newYear := by decide
  have hdate : (Value.project (born "2020-01-01T00:00:00.5")).dateAt? "Born" =
      some Value.newYearAndHalf := by decide
  have hboth := (h _ _ _ _ _ hs hdate).1.mp
    ((recordMatches_dateTime_iff _ _).mpr ⟨_, hdate, by decide⟩)
  exact absurd ((h _ _ _ _ _ hs hdate).2.mp hboth) (by decide)

/-- A literal and the stored value that it is taken from match unless a text within is spelled
otherwise than its date-time. -/
theorem fieldMatches_ofJson_iff :
    fieldMatches (Value.project raw) (Value.ofJson raw) = true ↔ raw.SpelledInside := by
  have hsame (hvalues : Value.project raw = Value.ofJson raw) :
      fieldMatches (Value.project raw) (Value.ofJson raw) = true :=
    hvalues ▸ fieldMatches_self _
  cases raw with
  | null | bool b | whole n | float x =>
    refine iff_of_true (hsame ?_) trivial
    simp only [Value.project, Value.ofJson, Value.ofJsonWith]
  | string s =>
    refine iff_of_true ?_ trivial
    cases hs : DateTime.read? s with
    | none =>
      exact hsame (by simp [Value.project, Value.ofJson, Value.ofJsonWith, Value.ofText, hs])
    | some t =>
      exact (fieldMatches_text_iff hs).mpr
        (by simp [Value.project, Value.ofJsonWith, Value.ofText, hs])
  | array items =>
    change fieldMatches (.list _) (.list _) = true ↔ _
    rw [fieldMatches_of_forall_ne (by rintro t s h; cases h), beq_iff_eq, Value.trim_toText_list,
      Value.trim_toText_list]
    exact (Value.agreeIff_render (.array items)).eq_iff
  | object fields =>
    change fieldMatches (.record _) (.record _) = true ↔ _
    rw [fieldMatches_of_forall_ne (by rintro t s h; cases h), beq_iff_eq, Value.trim_toText_record,
      Value.trim_toText_record]
    exact (Value.agreeIff_render (.object fields)).eq_iff

/-- The filter asks for fields of the record, each as a literal or as stored data. -/
def TakenFrom (fields : Fields Json) (filter : Filter) : Prop :=
  ∀ entry ∈ filter, ∃ raw, Fields.find? fields entry.1 = some raw ∧
    entry.2 ∈ [Value.ofJson raw, Value.project raw]

/-- Its literals for lists and records have texts that are spelled as date-times are. -/
def SpelledLike (fields : Fields Json) (filter : Filter) : Prop :=
  ∀ entry ∈ filter, ∀ raw, Fields.find? fields entry.1 = some raw →
    entry.2 = Value.project raw ∨ raw.SpelledInside

theorem recordMatches_own_iff {fields : Fields Json} (h : TakenFrom fields filter) :
    recordMatches (Value.project (.object fields)) filter = true ↔ SpelledLike fields filter := by
  unfold recordMatches SpelledLike
  rw [List.all_eq_true]
  refine forall₂_congr fun entry hentry => ?_
  obtain ⟨raw, hraw, hvalue⟩ := h entry hentry
  have hactual : ((Value.project (.object fields)).field? entry.1).getD .null =
      Value.project raw := by
    rw [field?_getD_project, Json.field?, hraw, Option.getD_some]
  have honly : (∀ raw', Fields.find? fields entry.1 = some raw' →
      entry.2 = Value.project raw' ∨ raw'.SpelledInside) ↔
        entry.2 = Value.project raw ∨ raw.SpelledInside := by
    simp [hraw]
  dsimp only
  rw [honly, hactual]
  simp only [List.mem_cons, List.not_mem_nil, or_false] at hvalue
  rcases hvalue with hliteral | hstored
  · constructor
    · intro hmatch
      rw [hliteral] at hmatch
      exact Or.inr (fieldMatches_ofJson_iff.mp hmatch)
    · rintro (hsame | hspelled)
      · rw [hsame]
        exact fieldMatches_self _
      · rw [hliteral]
        exact fieldMatches_ofJson_iff.mpr hspelled
  · refine iff_of_true ?_ (Or.inl hstored)
    rw [hstored]
    exact fieldMatches_self _

theorem matching_insert {record : Json}
    (hmatch : recordMatches (Value.project record) filter = true) (before after : List Json) :
    matching (before ++ record :: after) filter =
      matching before filter ++ Value.project record :: matching after filter := by
  simp [matching, hmatch]

theorem fetchOne_of_mem {before after : List Value} {v : Value}
    (h : store.fetchList kind filter = .ok (before ++ v :: after)) :
    store.fetchOne kind filter = .ok v ∨
      ∃ n, 1 < n ∧ store.fetchOne kind filter = .error (.store (.severalMatches kind n)) := by
  unfold fetchOne
  rw [h]
  match before, after with
  | [], [] => exact Or.inl rfl
  | [], next :: after => exact Or.inr ⟨_, by simp, rfl⟩
  | [first], after => exact Or.inr ⟨_, by simp, rfl⟩
  | first :: second :: before, after => exact Or.inr ⟨_, by simp, rfl⟩

/-- A record is found by its own fields if and only if the literals for lists and records among them
have no text that is spelled otherwise than its date-time. -/
theorem found_by_own_fields {before after : List Json} {fields : Fields Json}
    (hrecords : store.records kind = .ok (before ++ .object fields :: after))
    (hfilter : TakenFrom fields filter) :
    (recordMatches (Value.project (.object fields)) filter = true ↔
      SpelledLike fields filter) ∧
    (SpelledLike fields filter →
      store.fetchList kind filter = .ok (matching before filter ++
        Value.project (.object fields) :: matching after filter) ∧
      (store.fetchOne kind filter = .ok (Value.project (.object fields)) ∨
        ∃ n, 1 < n ∧
          store.fetchOne kind filter = .error (.store (.severalMatches kind n)))) := by
  have hiff := recordMatches_own_iff hfilter
  refine ⟨hiff, fun hspelled => ?_⟩
  have hlist : store.fetchList kind filter = .ok (matching before filter ++
      Value.project (.object fields) :: matching after filter) := by
    rw [fetchList_eq_matching, hrecords, ← matching_insert (hiff.mpr hspelled)]
    rfl
  exact ⟨hlist, fetchOne_of_mem hlist⟩

/-- A child, and when it was seen. -/
def visited (day : String) : Fields Json :=
  [("Born", .string "2020-01-01"), ("Seen", .array [.string day, .string "soon"])]

def visits (day : String) : Store := ⟨[("People", [.null, .object (visited day)])]⟩

/-- All of the child's fields as literals. -/
def asWritten (day : String) : Filter :=
  [("Born", Value.ofJson (.string "2020-01-01")),
    ("Seen", Value.ofJson (.array [.string day, .string "soon"]))]

theorem takenFrom_asWritten (day : String) : TakenFrom (visited day) (asWritten day) := by
  simp [TakenFrom, asWritten, visited, Fields.find?]

theorem found_by_own_fields_newYear :
    (visits Value.newYear.toText).records "people" =
      .ok ([.null] ++ .object (visited Value.newYear.toText) :: []) ∧
    TakenFrom (visited Value.newYear.toText) (asWritten Value.newYear.toText) ∧
    SpelledLike (visited Value.newYear.toText) (asWritten Value.newYear.toText) ∧
    (visits Value.newYear.toText).fetchList "people" (asWritten Value.newYear.toText) =
      .ok [Value.project (.object (visited Value.newYear.toText))] := by
  have hrecords : (visits Value.newYear.toText).records "people" =
      .ok ([.null] ++ .object (visited Value.newYear.toText) :: []) := rfl
  have hsoon : Spelled "soon" := by
    have hnone : DateTime.read? "soon" = none := by decide
    simp [Spelled, hnone]
  have hspelled : SpelledLike (visited Value.newYear.toText) (asWritten Value.newYear.toText) := by
    simp [SpelledLike, asWritten, visited, Fields.find?, Json.SpelledInside, Json.itemTexts,
      Json.texts, spelled_toText, hsoon]
  have hfound := ((found_by_own_fields hrecords (takenFrom_asWritten _)).2 hspelled).1
  exact ⟨hrecords, takenFrom_asWritten _, hspelled, hfound⟩

theorem visited_not_found_by_own_days :
    ¬∀ (store : Store) (kind : String) (before after : List Json) (fields : Fields Json)
      (filter : Filter), store.records kind = .ok (before ++ .object fields :: after) →
      TakenFrom fields filter →
      (∃ before' after', store.fetchList kind filter =
        .ok (before' ++ Value.project (.object fields) :: after')) ∧
      store.fetchOne kind filter ≠ .ok .null := by
  intro h
  have hnull : (visits "2020-01-01").fetchOne "People" (asWritten "2020-01-01") = .ok .null := rfl
  exact (h (visits "2020-01-01") "People" [.null] [] _ _ rfl (takenFrom_asWritten _)).2 hnull

end Store
end StageGate
