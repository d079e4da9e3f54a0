import Mathlib.Tactic.SplitIfs
import StageGate.Proofs.Run.Unfolding
import StageGate.Proofs.Value.Scale

/-! What a single action can fail with, and which actions write their variable or fail. -/
namespace StageGate

/-- Why a value cannot be brought into an order with the expected one. -/
def Value.Disordered (actual expected : Value) : Disorder → Prop
  | .notANumber a b => a.compare? b = none
  | .unorderedKind kind => kind = actual.kind ∧ actual.isOrdered = false
  | .againstNull => expected = null

/-- The errors that an action has of its own on these variables; those of the steps it dispatches to
do not count. -/
inductive Action.Raises (store : Store) (vars : Variables) : Action → Error → Prop
  | blankName {action : Action} {name : String} (h : action.written? = some name)
    (hblank : Text.isBlank name = true) : Raises store vars action (.invalidName name)
  | noKind (query : Query) (hkind : store.spelling? query.entity = none) :
    Raises store vars (.fetch query) (.entityNotFound query.entity)
  | noKinds (query : Query) (hkind : store.spelling? query.entity = none) :
    Raises store vars (.fetchList query) (.entityNotFound query.entity)
  | severalMatches (query : Query) {found : List Value}
    (hfound : store.fetchList query.entity (query.resolve vars) = .ok found)
    (hseveral : 1 < found.length) :
    Raises store vars (.fetch query) (.store (.severalMatches query.entity found.length))
  | noSpan {startDate endDate : String} (unit : Option String) (storeAs : String)
    (hdates : ¬ ((∃ t, vars.resolve startDate = .dateTime t) ∧
      ∃ t, vars.resolve endDate = .dateTime t)) :
    Raises store vars (.measure startDate endDate unit storeAs)
      (.typeMismatch (.span (vars.resolve startDate).kind startDate (vars.resolve endDate).kind
        endDate))
  | noUnit (startDate endDate : String) {unit : String} (storeAs : String)
    (hunit : SpanUnit.read unit = .error (.unsupportedUnit unit)) :
    Raises store vars (.measure startDate endDate (some unit) storeAs) (.unsupportedUnit unit)
  | noOperator {condition : Condition} (yes no : List String) {text : String}
    (hfield : vars.resolve condition.field ≠ .null)
    (hop : Operator.read condition.operator = .error (.unsupportedOperator text)) :
    Raises store vars (.branch condition yes no) (.unsupportedOperator text)
  | mismatch {condition : Condition} (yes no : List String) (cause : Mismatch) {op : Operator}
    (hop : Operator.read condition.operator = .ok op) (hordering : op.IsOrdering)
    (hfield : (vars.resolve condition.field).isOrdered = true)
    (hvalue : vars.evaluate (.ofJson condition.value) ≠ .null) :
    Raises store vars (.branch condition yes no) (.typeMismatch cause)
  | disorder {condition : Condition} (yes no : List String) {cause : Disorder} {op : Operator}
    (hop : Operator.read condition.operator = .ok op) (hordering : op.IsOrdering)
    (hfield : vars.resolve condition.field ≠ .null)
    (hdisorder : (vars.resolve condition.field).Disordered
      (vars.evaluate (.ofJson condition.value)) cause) :
    Raises store vars (.branch condition yes no) (.notComparable cause)

section Lookups

variable {store : Store} {kind : String} {filter : Filter} {e : Error}

theorem Store.fetchList_error (h : store.fetchList kind filter = .error e) :
    store.spelling? kind = none ∧ e = .entityNotFound kind := by
  unfold Store.fetchList Store.records at h
  cases hname : store.spelling? kind with
  | some name =>
    rw [hname] at h
    cases h
  | none =>
    rw [hname] at h
    cases h
    exact ⟨rfl, rfl⟩

theorem Store.fetchOne_error (h : store.fetchOne kind filter = .error e) :
    (store.spelling? kind = none ∧ e = .entityNotFound kind) ∨
      ∃ found, store.fetchList kind filter = .ok found ∧ 1 < found.length ∧
        e = .store (.severalMatches kind found.length) := by
  unfold Store.fetchOne at h
  cases hfound : store.fetchList kind filter with
  | error fault =>
    rw [hfound] at h
    cases h
    exact Or.inl (fetchList_error hfound)
  | ok found =>
    rw [hfound] at h
    match found with
    | [] => cases h
    | [_] => cases h
    | _ :: _ :: _ =>
      cases h
      exact Or.inr ⟨_, rfl, by simp, rfl⟩

end Lookups

section Readings

variable {vars : Variables} {e : Error}

theorem SpanUnit.read_error {name : String} (h : SpanUnit.read name = .error e) :
    e = .unsupportedUnit name := by
  simp only [SpanUnit.read] at h
  split_ifs at h
  cases h
  rfl

theorem measuredSpan_error {startDate endDate : String} {unit : Option String}
    (h : measuredSpan startDate endDate unit vars = .error e) :
    (¬ ((∃ t, vars.resolve startDate = .dateTime t) ∧ ∃ t, vars.resolve endDate = .dateTime t) ∧
        e = .typeMismatch (.span (vars.resolve startDate).kind startDate
          (vars.resolve endDate).kind endDate)) ∨
      ∃ name, unit = some name ∧ SpanUnit.read name = .error (.unsupportedUnit name) ∧
        e = .unsupportedUnit name := by
  unfold measuredSpan at h
  split at h
  · cases unit with
    | none => cases h
    | some name =>
      cases hread : SpanUnit.read name with
      | ok unit =>
        simp only [hread] at h
        cases h
      | error fault =>
        simp only [hread] at h
        cases h
        obtain rfl := SpanUnit.read_error hread
        exact Or.inr ⟨name, rfl, hread, rfl⟩
  · next hother =>
    cases h
    refine Or.inl ⟨?_, rfl⟩
    rintro ⟨⟨start, hstart⟩, finish, hfinish⟩
    exact hother start finish hstart hfinish

/-- What two values that do not compare fail with, and why. -/
def Value.OrderFault (actual expected : Value) (e : Error) : Prop :=
  (∃ cause, e = .typeMismatch cause ∧ actual.isOrdered = true ∧ expected ≠ null) ∨
    ∃ cause, e = .notComparable cause ∧ actual.Disordered expected cause

theorem Value.compareTo_error {actual expected : Value}
    (h : actual.compareTo expected = .error e) : actual.OrderFault expected e := by
  have hcompared := compared actual expected
  rw [h] at hcompared
  cases hcompared with
  | unordered hunordered => exact Or.inr ⟨_, rfl, rfl, hunordered⟩
  | againstNull _ hnull => exact Or.inr ⟨_, rfl, hnull⟩
  | apart hscale hnull _ => exact Or.inl ⟨_, rfl, isOrdered_iff.mpr ⟨_, hscale⟩, hnull⟩
  | notANumber _ _ _ hnan => exact Or.inr ⟨_, rfl, Binary64.compare?_eq_none_iff.mpr hnan⟩

theorem Value.satisfies_error {actual expected : Value} {op : Operator}
    (h : actual.satisfies op expected = .error e) :
    op.IsOrdering ∧ actual.OrderFault expected e := by
  have hnull : actual.isNull = false := by
    by_contra hnull
    unfold Value.satisfies at h
    rw [if_pos (by simpa using hnull)] at h
    cases h
  by_cases hop : op.IsOrdering
  · exact ⟨hop, compareTo_error ((satisfies_eq_error_iff hnull hop).mp h)⟩
  · obtain ⟨holds, hholds⟩ := satisfies_equality actual expected hop
    cases h.symm.trans hholds

theorem Value.test_error {actual expected : Value} {operator : String}
    (h : actual.test operator expected = .error e) :
    actual ≠ null ∧
      ((∃ text, e = .unsupportedOperator text ∧ Operator.read operator = .error e) ∨
        ∃ op, Operator.read operator = .ok op ∧ op.IsOrdering ∧ actual.OrderFault expected e) := by
  unfold Value.test at h
  split_ifs at h with hnull
  refine ⟨fun hactual => hnull (isNull_iff.mpr hactual), ?_⟩
  cases hop : Operator.read operator with
  | ok op =>
    rw [hop] at h
    exact Or.inr ⟨op, rfl, satisfies_error h⟩
  | error fault =>
    rw [hop] at h
    cases h
    unfold Operator.read at hop
    split at hop
    · cases hop
    · cases hop
      exact Or.inl ⟨_, rfl, rfl⟩

theorem Condition.raises_of_holds {condition : Condition} (store : Store) (yes no : List String)
    (h : condition.holds vars = .error e) :
    (Action.branch condition yes no).Raises store vars e := by
  obtain ⟨hfield, ⟨text, rfl, hop⟩ | ⟨op, hop, hordering, hfault⟩⟩ := Value.test_error h
  · exact .noOperator yes no hfield hop
  · rcases hfault with ⟨cause, rfl, hordered, hvalue⟩ | ⟨cause, rfl, hdisorder⟩
    · exact .mismatch yes no cause hop hordering hordered hvalue
    · exact .disorder yes no hop hordering hfield hdisorder

end Readings

section Values

variable {store : Store} {chain : String → Exec Signal} {vars : Variables} {action : Action}
  {name : String} {s : Session} {value : Except Error Value} {e : Error}

theorem Action.raises_of_value (h : action.value? store vars = some (.error e)) :
    action.Raises store vars e := by
  cases action with
  | fetch query =>
    have hfetch : store.fetchOne query.entity (query.resolve vars) = .error e := Option.some.inj h
    rcases Store.fetchOne_error hfetch with ⟨hkind, rfl⟩ | ⟨found, hfound, hseveral, rfl⟩
    · exact .noKind query hkind
    · exact .severalMatches query hfound hseveral
  | fetchList query =>
    cases hfound : store.fetchList query.entity (query.resolve vars) with
    | ok found =>
      rw [Action.value?, hfound] at h
      cases h
    | error fault =>
      rw [Action.value?, hfound] at h
      cases h
      obtain ⟨hkind, rfl⟩ := Store.fetchList_error hfound
      exact .noKinds query hkind
  | measure startDate endDate unit storeAs =>
    have hspan : measuredSpan startDate endDate unit vars = .error e := Option.some.inj h
    rcases measuredSpan_error hspan with ⟨hdates, rfl⟩ | ⟨unitName, rfl, hunit, rfl⟩
    · exact .noSpan unit storeAs hdates
    · exact .noUnit startDate endDate storeAs hunit
  | _ => cases h

/-- An action that is there to write its variable does so, or fails for a cause of its own and
leaves everything as it is. -/
theorem runAction_settles (hname : action.written? = some name)
    (hvalue : action.value? store s.vars = some value) :
    (∃ e, action.Raises store s.vars e ∧ runAction store chain action s = (.failed e, s)) ∨
      ∃ v, runAction store chain action s = (.done .proceed, s.write name v) := by
  rw [runAction_value hname hvalue]
  cases value with
  | error e => exact Or.inl ⟨e, Action.raises_of_value hvalue, rfl⟩
  | ok v =>
    by_cases hblank : Text.isBlank name = true
    · exact Or.inl ⟨_, .blankName hname hblank, settle_blank hblank v⟩
    · exact Or.inr ⟨v, settle_ok hblank⟩

end Values

/-- No action fails for want of a step or of a state. -/
theorem Action.Raises.ne {store : Store} {vars : Variables} {action : Action} {e : Error}
    (h : action.Raises store vars e) :
    (∀ rule step, e ≠ .danglingReference rule step) ∧ ∀ name, e ≠ .unknownState name := by
  cases h <;> exact ⟨nofun, nofun⟩

end StageGate
