import StageGate.Proofs.Except
import StageGate.Rule.Decode
import StageGate.Rule.Encode

/-! What the fields of a step have to hold, and that reading a step asks for this and no more. -/
namespace StageGate.Rule

open Json

section Reading

variable {α : Type} {fields : Fields Json} {name : String} {read : Reading α} {raw default : Json}
  {a a₀ : α} {o : Option α}

/-- A field, or what it counts as where it is left out. -/
def fieldOr (fields : Fields Json) (name : String) (default : Json) : Json :=
  (Fields.find? fields name).getD default

theorem asText_eq_ok_iff {s : String} : asText raw = .ok s ↔ raw = .string s := by
  cases raw <;> simp [asText]

theorem asOptional_eq_ok_iff {o : Option String} :
    asOptional asText raw = .ok o ↔ raw = textOrNull o := by
  cases raw with
  | null => cases o <;> simp [asOptional, textOrNull]
  | _ => cases o <;> simp [asOptional, asText, textOrNull, Functor.map, Except.map]

theorem asList_eq_ok_iff {ss : List String} : asList asText raw = .ok ss ↔ raw = textList ss := by
  cases raw with
  | array items =>
    simp only [asList, mapM_eq_ok_iff, asText_eq_ok_iff, textList, Json.array.injEq]
    rw [← List.forall₂_map_right_iff (R := Eq), List.forall₂_eq_eq_eq]
  | _ => simp [asList, textList]

theorem asFields_eq_ok_iff {inner : Fields Json} :
    asFields raw = .ok inner ↔ raw = .object inner := by
  cases raw <;> simp [asFields]

theorem given_eq_ok (h : given fields name read = .ok o) :
    (Fields.find? fields name = none ∧ o = none) ∨
      ∃ raw a, Fields.find? fields name = some raw ∧ read raw = .ok a ∧ o = some a := by
  unfold given at h
  cases hfound : Fields.find? fields name with
  | none =>
    rw [hfound] at h
    cases h
    exact Or.inl ⟨rfl, rfl⟩
  | some raw =>
    rw [hfound] at h
    obtain ⟨a, ha, rfl⟩ := map_eq_ok_iff.mp h
    exact Or.inr ⟨raw, a, rfl, ha, rfl⟩

theorem given_eq_some_iff :
    given fields name read = .ok (some a) ↔
      ∃ raw, Fields.find? fields name = some raw ∧ read raw = .ok a := by
  constructor
  · intro h
    obtain ⟨-, ⟨⟩⟩ | ⟨raw, _, hfound, hread, ⟨⟩⟩ := given_eq_ok h
    exact ⟨raw, hfound, hread⟩
  · rintro ⟨raw, hfound, hread⟩
    rw [given, hfound]
    exact map_eq_ok_iff.mpr ⟨a, hread, rfl⟩

/-- A field that may be left out is read as if the default stood there. -/
theorem given_getD_iff (hdefault : read default = .ok a₀) :
    (∃ o, given fields name read = .ok o ∧ o.getD a₀ = a) ↔
      read (fieldOr fields name default) = .ok a := by
  unfold given fieldOr
  cases Fields.find? fields name with
  | none => simp [hdefault]
  | some raw => simp [map_eq_ok_iff]

theorem required_eq_ok_iff : required name o = .ok a ↔ o = some a := by
  cases o <;> simp [required]

end Reading

variable {fields : Fields Json} {raw : Json} {action : Action} {name : String}
  {read : Fields Json → Except Misfit Action}

/-- A text that has to be there. -/
def HasText (fields : Fields Json) (name s : String) : Prop :=
  Fields.find? fields name = some (.string s)

/-- What may stand for a status. -/
inductive IsStatus : Json → Bool → Prop
  | null : IsStatus .null false
  | bool (b : Bool) : IsStatus (.bool b) b
  | whole (n : Whole) : IsStatus (.whole n) (n.val != 0)
  | float (x : Finite64) : IsStatus (.float x) !x.isZero
  | yes {s : String} (h : Text.sameIgnoringCase (Text.trim s) "true") : IsStatus (.string s) true
  | no {s : String} (h : Text.sameIgnoringCase (Text.trim s) "false") : IsStatus (.string s) false

/-- What may stand for a condition. -/
inductive IsCondition : Json → Condition → Prop
  | object {fields : Fields Json} {c : Condition} (field : HasText fields "field" c.field)
    (operator : HasText fields "operator" c.operator)
    (value : fieldOr fields "value" .null = c.value) : IsCondition (.object fields) c
  | pair (field operator : String) :
    IsCondition (.array [.string field, .string operator]) ⟨field, operator, .null⟩
  | triple (field operator : String) (value : Json) :
    IsCondition (.array [.string field, .string operator, value]) ⟨field, operator, value⟩

def HasQuery (fields : Fields Json) (q : Query) : Prop :=
  HasText fields "entity" q.entity ∧ fieldOr fields "filter" (.object []) = .object q.filter ∧
    HasText fields "storeAs" q.storeAs

/-- The fields hold the payload of the action. -/
def HasPayload (fields : Fields Json) : Action → Prop
  | .fetch query | .fetchList query => HasQuery fields query
  | .assign target value => HasText fields "variable" target ∧ fieldOr fields "value" .null = value
  | .measure startDate endDate unit storeAs =>
    HasText fields "startDate" startDate ∧ HasText fields "endDate" endDate ∧
      fieldOr fields "unit" .null = textOrNull unit ∧ HasText fields "storeAs" storeAs
  | .branch condition yes no =>
    (∃ raw, Fields.find? fields "condition" = some raw ∧ IsCondition raw condition) ∧
      fieldOr fields "then" (.array []) = textList yes ∧
      fieldOr fields "else" (.array []) = textList no
  | .loop source item body =>
    HasText fields "source" source ∧ HasText fields "var" item ∧
      fieldOr fields "body" (.array []) = textList body
  | .leaveLoop | .nextItem => True
  | .stop status reason =>
    IsStatus (fieldOr fields "status" .null) status ∧
      fieldOr fields "reason" .null = textOrNull reason
  | .log message level =>
    HasText fields "message" message ∧ fieldOr fields "level" .null = textOrNull level

theorem sameIgnoringCase_word_iff {word : String} (hword : Text.asciiLower word = word)
    (s : String) : Text.sameIgnoringCase s word ↔ Text.asciiLower s = word := by
  rw [Text.sameIgnoringCase, hword, beq_iff_eq]

theorem status_eq_ok_iff {b : Bool} : status raw = .ok b ↔ IsStatus raw b := by
  have hyes := sameIgnoringCase_word_iff (show Text.asciiLower "true" = "true" by decide)
  have hno := sameIgnoringCase_word_iff (show Text.asciiLower "false" = "false" by decide)
  constructor
  · intro h
    cases raw with
    | null =>
      cases h
      exact .null
    | bool b =>
      cases h
      exact .bool b
    | whole n =>
      cases h
      exact .whole n
    | float x =>
      cases h
      exact .float x
    | string s =>
      simp only [status, ← hyes, ← hno] at h
      split at h
      · next hs =>
        cases h
        exact .yes hs
      · split at h
        · next hs =>
          cases h
          exact .no hs
        · cases h
    | array | object => cases h
  · intro h
    cases h with
    | null | bool | whole | float => rfl
    | yes hs => simp [status, (hyes _).mp hs]
    | no hs => simp [status, (hno _).mp hs]

theorem given_asText_iff {s : String} :
    given fields name asText = .ok (some s) ↔ HasText fields name s := by
  rw [given_eq_some_iff, HasText]
  simp [asText_eq_ok_iff]

theorem given_optional_iff {text : Option String} :
    (∃ o, given fields name (asOptional asText) = .ok o ∧ o.join = text) ↔
      fieldOr fields name .null = textOrNull text := by
  have hjoin (o : Option (Option String)) : o.join = o.getD none := by cases o <;> rfl
  simp only [hjoin, ← asOptional_eq_ok_iff]
  exact given_getD_iff rfl

theorem given_texts_iff {ss : List String} :
    (∃ o, given fields name (asList asText) = .ok o ∧ o.getD [] = ss) ↔
      fieldOr fields name (.array []) = textList ss := by
  rw [← asList_eq_ok_iff]
  exact given_getD_iff rfl

theorem given_fields_iff {inner : Fields Json} :
    (∃ o, given fields name asFields = .ok o ∧ o.getD [] = inner) ↔
      fieldOr fields name (.object []) = .object inner := by
  rw [← asFields_eq_ok_iff]
  exact given_getD_iff rfl

theorem given_status_iff {b : Bool} :
    (∃ o, given fields name status = .ok o ∧ o.getD false = b) ↔
      IsStatus (fieldOr fields name .null) b := by
  rw [← status_eq_ok_iff]
  exact given_getD_iff rfl

theorem given_asIs_iff {value : Json} :
    (∃ o, given fields name asIs = .ok o ∧ o.getD .null = value) ↔
      fieldOr fields name .null = value := by
  have hread : (∃ o, given fields name asIs = .ok o ∧ o.getD .null = value) ↔
      asIs (fieldOr fields name .null) = .ok value := given_getD_iff rfl
  rw [hread, asIs, Except.ok.injEq]

theorem condition_eq_ok_iff {c : Condition} : condition raw = .ok c ↔ IsCondition raw c := by
  constructor
  · intro h
    cases raw with
    | object fields =>
      simp only [condition, bind_eq_ok_iff, required_eq_ok_iff] at h
      obtain ⟨_, hfield, _, hoperator, value, hvalue, field, rfl, operator, rfl, hc⟩ := h
      cases hc
      exact .object (given_asText_iff.mp hfield) (given_asText_iff.mp hoperator)
        (given_asIs_iff.mp ⟨value, hvalue, rfl⟩)
    | array items =>
      simp only [condition] at h
      split at h
      · cases h
      · simp [bind_eq_ok_iff] at h
      · simp only [bind_eq_ok_iff, asText_eq_ok_iff] at h
        obtain ⟨field, rfl, operator, rfl, hc⟩ := h
        cases hc
        exact .pair field operator
      · simp only [bind_eq_ok_iff, asText_eq_ok_iff] at h
        obtain ⟨field, rfl, operator, rfl, hc⟩ := h
        cases hc
        exact .triple field operator _
      · simp [bind_eq_ok_iff] at h
    | _ => cases h
  · intro h
    cases h with
    | object hfield hoperator hvalue =>
      obtain ⟨value, hgiven, hvalue⟩ := given_asIs_iff.mpr hvalue
      simp only [condition, bind_eq_ok_iff, required_eq_ok_iff]
      refine ⟨_, given_asText_iff.mpr hfield, _, given_asText_iff.mpr hoperator, value, hgiven, _,
        rfl, _, rfl, ?_⟩
      rw [hvalue]
      rfl
    | pair => rfl
    | triple => rfl

theorem query_eq_ok_iff {q : Query} : query fields = .ok q ↔ HasQuery fields q := by
  simp only [query, bind_eq_ok_iff, required_eq_ok_iff]
  constructor
  · rintro ⟨_, hentity, filter, hfilter, _, hstoreAs, entity, rfl, storeAs, rfl, hq⟩
    cases hq
    exact ⟨given_asText_iff.mp hentity, given_fields_iff.mp ⟨filter, hfilter, rfl⟩,
      given_asText_iff.mp hstoreAs⟩
  · rintro ⟨hentity, hfilter, hstoreAs⟩
    obtain ⟨filter, hgiven, hfilter⟩ := given_fields_iff.mpr hfilter
    refine ⟨_, given_asText_iff.mpr hentity, filter, hgiven, _, given_asText_iff.mpr hstoreAs, _,
      rfl, _, rfl, ?_⟩
    rw [hfilter]
    rfl

theorem assignment_eq_ok_iff :
    assignment fields = .ok action ↔
      ∃ target value, HasPayload fields (.assign target value) ∧ .assign target value = action := by
  simp only [assignment, bind_eq_ok_iff, required_eq_ok_iff]
  constructor
  · rintro ⟨value, hvalue, _, htarget, target, rfl, h⟩
    refine ⟨target, _, ⟨given_asText_iff.mp htarget, ?_⟩, Except.ok.inj h⟩
    exact given_asIs_iff.mp ⟨value, hvalue, rfl⟩
  · rintro ⟨target, value, ⟨htarget, hvalue⟩, rfl⟩
    obtain ⟨value, hgiven, rfl⟩ := given_asIs_iff.mpr hvalue
    exact ⟨value, hgiven, _, given_asText_iff.mpr htarget, target, rfl, rfl⟩

theorem measurement_eq_ok_iff :
    measurement fields = .ok action ↔ ∃ startDate endDate unit storeAs,
      HasPayload fields (.measure startDate endDate unit storeAs) ∧
        .measure startDate endDate unit storeAs = action := by
  simp only [measurement, bind_eq_ok_iff, required_eq_ok_iff]
  constructor
  · rintro ⟨_, hend, _, hstart, _, hstore, unit, hunit, startDate, rfl, endDate, rfl, storeAs, rfl,
      h⟩
    refine ⟨startDate, endDate, _, storeAs, ⟨given_asText_iff.mp hstart, given_asText_iff.mp hend,
      ?_, given_asText_iff.mp hstore⟩, Except.ok.inj h⟩
    exact given_optional_iff.mp ⟨unit, hunit, rfl⟩
  · rintro ⟨startDate, endDate, unit, storeAs, ⟨hstart, hend, hunit, hstore⟩, rfl⟩
    obtain ⟨unit, hgiven, rfl⟩ := given_optional_iff.mpr hunit
    exact ⟨_, given_asText_iff.mpr hend, _, given_asText_iff.mpr hstart, _,
      given_asText_iff.mpr hstore, unit, hgiven, startDate, rfl, endDate, rfl, storeAs, rfl, rfl⟩

theorem branching_eq_ok_iff :
    branching fields = .ok action ↔ ∃ condition yes no,
      HasPayload fields (.branch condition yes no) ∧ .branch condition yes no = action := by
  simp only [branching, bind_eq_ok_iff, required_eq_ok_iff]
  constructor
  · rintro ⟨_, hcondition, no, hno, yes, hyes, c, rfl, h⟩
    obtain ⟨raw, hfound, hraw⟩ := given_eq_some_iff.mp hcondition
    refine ⟨c, _, _, ⟨⟨raw, hfound, condition_eq_ok_iff.mp hraw⟩, ?_, ?_⟩, Except.ok.inj h⟩
    · exact given_texts_iff.mp ⟨yes, hyes, rfl⟩
    · exact given_texts_iff.mp ⟨no, hno, rfl⟩
  · rintro ⟨c, yes, no, ⟨⟨raw, hfound, hraw⟩, hyes, hno⟩, rfl⟩
    obtain ⟨yes, hthen, rfl⟩ := given_texts_iff.mpr hyes
    obtain ⟨no, helse, rfl⟩ := given_texts_iff.mpr hno
    have hcondition := given_eq_some_iff.mpr ⟨raw, hfound, condition_eq_ok_iff.mpr hraw⟩
    exact ⟨_, hcondition, no, helse, yes, hthen, c, rfl, rfl⟩

theorem looping_eq_ok_iff :
    looping fields = .ok action ↔ ∃ source item body,
      HasPayload fields (.loop source item body) ∧ .loop source item body = action := by
  simp only [looping, bind_eq_ok_iff, required_eq_ok_iff]
  constructor
  · rintro ⟨body, hbody, _, hsource, _, hitem, source, rfl, item, rfl, h⟩
    refine ⟨source, item, _, ⟨given_asText_iff.mp hsource, given_asText_iff.mp hitem, ?_⟩,
      Except.ok.inj h⟩
    exact given_texts_iff.mp ⟨body, hbody, rfl⟩
  · rintro ⟨source, item, body, ⟨hsource, hitem, hbody⟩, rfl⟩
    obtain ⟨body, hgiven, rfl⟩ := given_texts_iff.mpr hbody
    exact ⟨body, hgiven, _, given_asText_iff.mpr hsource, _, given_asText_iff.mpr hitem, source,
      rfl, item, rfl, rfl⟩

theorem stopping_eq_ok_iff :
    stopping fields = .ok action ↔ ∃ status reason,
      HasPayload fields (.stop status reason) ∧ .stop status reason = action := by
  simp only [stopping, bind_eq_ok_iff]
  constructor
  · rintro ⟨reason, hreason, passed, hstatus, h⟩
    refine ⟨_, _, ⟨?_, ?_⟩, Except.ok.inj h⟩
    · exact given_status_iff.mp ⟨passed, hstatus, rfl⟩
    · exact given_optional_iff.mp ⟨reason, hreason, rfl⟩
  · rintro ⟨passed, reason, ⟨hstatus, hreason⟩, rfl⟩
    obtain ⟨passed, hpassed, rfl⟩ := given_status_iff.mpr hstatus
    obtain ⟨reason, hgiven, rfl⟩ := given_optional_iff.mpr hreason
    exact ⟨reason, hgiven, passed, hpassed, rfl⟩

theorem logging_eq_ok_iff :
    logging fields = .ok action ↔ ∃ message level,
      HasPayload fields (.log message level) ∧ .log message level = action := by
  simp only [logging, bind_eq_ok_iff, required_eq_ok_iff]
  constructor
  · rintro ⟨level, hlevel, _, hmessage, message, rfl, h⟩
    refine ⟨message, _, ⟨given_asText_iff.mp hmessage, ?_⟩, Except.ok.inj h⟩
    exact given_optional_iff.mp ⟨level, hlevel, rfl⟩
  · rintro ⟨message, level, ⟨hmessage, hlevel⟩, rfl⟩
    obtain ⟨level, hgiven, rfl⟩ := given_optional_iff.mpr hlevel
    exact ⟨level, hgiven, _, given_asText_iff.mpr hmessage, message, rfl, rfl⟩

/-- A known action is read from fields if and only if they hold its payload. -/
theorem read_eq_ok_iff (hread : action? name = some read) :
    read fields = .ok action ↔ action.name = name ∧ HasPayload fields action := by
  unfold action? at hread
  split at hread <;> cases hread
  · rw [map_eq_ok_iff]
    simp only [query_eq_ok_iff]
    cases action <;> simp [Action.name, HasPayload]
  · rw [map_eq_ok_iff]
    simp only [query_eq_ok_iff]
    cases action <;> simp [Action.name, HasPayload]
  · rw [assignment_eq_ok_iff]
    cases action <;> simp [Action.name]
  · rw [measurement_eq_ok_iff]
    cases action <;> simp [Action.name]
  · rw [branching_eq_ok_iff]
    cases action <;> simp [Action.name]
  · rw [looping_eq_ok_iff]
    cases action <;> simp [Action.name]
  · cases action <;> simp [Action.name, HasPayload]
  · cases action <;> simp [Action.name, HasPayload]
  · rw [stopping_eq_ok_iff]
    cases action <;> simp [Action.name]
  · rw [logging_eq_ok_iff]
    cases action <;> simp [Action.name]

end StageGate.Rule
