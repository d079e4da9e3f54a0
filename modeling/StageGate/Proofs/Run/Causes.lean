import StageGate.Proofs.Run.Targets

/-! What a run can fail with, each error with the step that is to blame for it, and what no step
fails for. -/
namespace StageGate

open Effect Exec

/-- What the error of a run says about the step that it comes from, on the variables as they are. -/
def Step.Causes (rule : Rule) (store : Store) (vars : Variables) (step : Step) : Error → Prop
  | .invalidName name => step.action.written? = some name ∧ Text.isBlank name = true
  | .danglingReference name id => name = rule.name ∧ id ∈ step.references ∧ rule.step? id = none
  | .entityNotFound kind =>
    ∃ query, (step.action = .fetch query ∨ step.action = .fetchList query) ∧
      kind = query.entity ∧ store.spelling? kind = none
  | .store fault =>
    ∃ query found, step.action = .fetch query ∧
      store.fetchList query.entity (query.resolve vars) = .ok found ∧ 1 < found.length ∧
      fault = .severalMatches query.entity found.length
  | .unsupportedOperator text =>
    ∃ condition yes no, step.action = .branch condition yes no ∧
      vars.resolve condition.field ≠ .null ∧
      Operator.read condition.operator = .error (.unsupportedOperator text)
  | .notComparable cause =>
    ∃ condition yes no op, step.action = .branch condition yes no ∧
      Operator.read condition.operator = .ok op ∧ op.IsOrdering ∧
      vars.resolve condition.field ≠ .null ∧
      (vars.resolve condition.field).Disordered (vars.evaluate (.ofJson condition.value)) cause
  | .typeMismatch cause =>
    (∃ condition yes no op, step.action = .branch condition yes no ∧
      Operator.read condition.operator = .ok op ∧ op.IsOrdering ∧
      (vars.resolve condition.field).isOrdered = true ∧
      vars.evaluate (.ofJson condition.value) ≠ .null) ∨
    ∃ startDate endDate unit storeAs, step.action = .measure startDate endDate unit storeAs ∧
      ¬ ((∃ t, vars.resolve startDate = .dateTime t) ∧ ∃ t, vars.resolve endDate = .dateTime t) ∧
      cause = .span (vars.resolve startDate).kind startDate (vars.resolve endDate).kind endDate
  | .unsupportedUnit text =>
    ∃ startDate endDate storeAs,
      step.action = .measure startDate endDate (some text) storeAs ∧
      SpanUnit.read text = .error (.unsupportedUnit text)
  | .notFound _ | .unknownAction _ _ | .missingStart _ | .unknownState _ | .parse _ | .config _
  | .io _ | .json _ => False

/-- A step that has been executed is to blame. -/
def Rule.Declares (rule : Rule) (store : Store) (e : Error) (s : Session) : Prop :=
  ∃ step ∈ rule.steps, .executed step ∈ s.events ∧ step.Causes rule store s.vars e

section Failures

variable {rule : Rule} {store : Store} {vars : Variables} {step : Step} {e : Error}

theorem causes_of_raises (h : step.action.Raises store vars e) :
    step.Causes rule store vars e := by
  generalize haction : step.action = action at h
  cases h with
  | blankName hname hblank => exact ⟨haction ▸ hname, hblank⟩
  | noKind query hkind => exact ⟨query, Or.inl haction, rfl, hkind⟩
  | noKinds query hkind => exact ⟨query, Or.inr haction, rfl, hkind⟩
  | severalMatches query hfound hseveral => exact ⟨query, _, haction, hfound, hseveral, rfl⟩
  | noSpan unit storeAs hdates => exact Or.inr ⟨_, _, unit, storeAs, haction, hdates, rfl⟩
  | noUnit startDate endDate storeAs hunit => exact ⟨startDate, endDate, storeAs, haction, hunit⟩
  | noOperator yes no hfield hop => exact ⟨_, yes, no, haction, hfield, hop⟩
  | mismatch yes no cause hop hordering hfield hvalue =>
    exact Or.inl ⟨_, yes, no, _, haction, hop, hordering, hfield, hvalue⟩
  | disorder yes no hop hordering hfield hdisorder =>
    exact ⟨_, yes, no, _, haction, hop, hordering, hfield, hdisorder⟩

theorem upholds_declares (rule : Rule) (store : Store) :
    Upholds rule store (fun _ => True) (fun _ => True)
      fun failure s => ∀ e, failure = some e → rule.Declares store e s where
  entered _ _ h := h
  bound _ _ _ h := h
  take _ _ _ h := h
  take_stopped _ _ _ h := h
  executed _ _ _ _ h := h
  stopped _ _ _ _ _ _ h := h
  write _ _ _ _ _ _ _ _ h := h
  say _ _ _ h := h
  warn _ _ h := h
  warn_stopped _ _ h := h
  raises s step hmem hexecuted e hraises _ := by
    rintro _ ⟨⟩
    exact ⟨step, hmem, hexecuted, causes_of_raises hraises⟩
  missing s step hmem hexecuted id href hmissing _ := by
    rintro _ ⟨⟩
    exact ⟨step, hmem, hexecuted, rfl, href, hmissing⟩

end Failures

/-- What the steps put up with, whatever chains they start: null values, sources that are no lists,
look-ups without a match and paths that lead nowhere. Only a duration needs its date-times, and an
order something to compare with. -/
structure Lenient (store : Store) (chain : String → Exec Signal) (s : Session) : Prop where
  null_field : ∀ condition yes no, s.vars.resolve condition.field = .null →
    runAction store chain (.branch condition yes no) s = runBranch chain no s
  equality : ∀ condition yes no op, Operator.read condition.operator = .ok op → ¬ op.IsOrdering →
    ∃ holds : Bool, runAction store chain (.branch condition yes no) s =
      runBranch chain (if holds then yes else no) s
  no_list : ∀ source item body, (∀ items, s.vars.resolve source ≠ .list items) →
    runAction store chain (.loop source item body) s = (.done .proceed, s)
  matches_found : ∀ query, store.spelling? query.entity ≠ none →
    ¬ Text.isBlank query.storeAs = true →
    ∃ found, store.fetchList query.entity (query.resolve s.vars) = .ok found ∧
      runAction store chain (.fetchList query) s =
        (.done .proceed, s.write query.storeAs (.list found)) ∧
      (found.length ≤ 1 → runAction store chain (.fetch query) s =
        (.done .proceed, s.write query.storeAs (found.head?.getD .null)))
  any_value : ∀ target raw, ¬ Text.isBlank target = true →
    runAction store chain (.assign target raw) s =
      (.done .proceed, s.write target (assignedValue raw s.vars))
  any_message : ∀ message level, ∃ line, runAction store chain (.log message level) s =
    (.done .proceed, s.say line)
  no_span : ∀ startDate endDate unit storeAs,
    (∀ t, s.vars.resolve startDate ≠ .dateTime t) ∨ (∀ t, s.vars.resolve endDate ≠ .dateTime t) →
    ∃ cause, runAction store chain (.measure startDate endDate unit storeAs) s =
      (.failed (.typeMismatch cause), s)
  null_value : ∀ condition yes no op, Operator.read condition.operator = .ok op → op.IsOrdering →
    s.vars.resolve condition.field ≠ .null →
    s.vars.evaluate (.ofJson condition.value) = .null →
    ∃ cause, runAction store chain (.branch condition yes no) s =
      (.failed (.notComparable cause), s)

section Leniency

variable {store : Store} {chain : String → Exec Signal} {vars : Variables} {s : Session}
  {condition : Condition} {yes no : List String} {actual : Value} {op : Operator} {e : Error}

theorem runAction_branch_ok {holds : Bool} (h : condition.holds s.vars = .ok holds) :
    runAction store chain (.branch condition yes no) s =
      runBranch chain (if holds then yes else no) s := by
  simp only [runAction, bind_apply, look_apply, h, lift_ok, pure_apply]

theorem runAction_branch_error (h : condition.holds s.vars = .error e) :
    runAction store chain (.branch condition yes no) s = (.failed e, s) := by
  simp only [runAction, bind_apply, look_apply, h, lift_error, fail_apply]

theorem Condition.holds_null_field (h : vars.resolve condition.field = .null) :
    condition.holds vars = .ok false :=
  if_pos (Value.isNull_iff.mpr h)

theorem Condition.holds_of_read (hop : Operator.read condition.operator = .ok op)
    (hfield : vars.resolve condition.field ≠ .null) :
    condition.holds vars =
      (vars.resolve condition.field).satisfies op
        (vars.evaluate (.ofJson condition.value)) := by
  unfold Condition.holds Value.test
  rw [if_neg (mt Value.isNull_iff.mp hfield), hop]
  rfl

theorem Value.satisfies_null (hop : op.IsOrdering) (hactual : actual ≠ null) :
    ∃ cause, actual.satisfies op null = .error (.notComparable cause) := by
  have hnull : actual.isNull = false := by simpa using mt isNull_iff.mp hactual
  obtain ⟨cause, hcompare⟩ := compareTo_notComparable_iff.mpr (Or.inr (Or.inl rfl))
  exact ⟨cause, (satisfies_eq_error_iff hnull hop).mpr hcompare⟩

theorem Store.fetchList_known {kind : String} (filter : Filter)
    (h : store.spelling? kind ≠ none) : ∃ found, store.fetchList kind filter = .ok found := by
  cases hfound : store.fetchList kind filter with
  | ok found => exact ⟨found, rfl⟩
  | error e => exact (h (fetchList_error hfound).1).elim

theorem Store.fetchOne_of_few {kind : String} {filter : Filter} {found : List Value}
    (hfound : store.fetchList kind filter = .ok found) (hfew : found.length ≤ 1) :
    store.fetchOne kind filter = .ok (found.head?.getD .null) := by
  unfold Store.fetchOne
  rw [hfound]
  match found with
  | [] => rfl
  | [_] => rfl
  | _ :: _ :: _ =>
    simp only [List.length_cons] at hfew
    omega

theorem measuredSpan_no_span {startDate endDate : String} (unit : Option String)
    (h : (∀ t, vars.resolve startDate ≠ .dateTime t) ∨ ∀ t, vars.resolve endDate ≠ .dateTime t) :
    ∃ cause, measuredSpan startDate endDate unit vars = .error (.typeMismatch cause) := by
  unfold measuredSpan
  split
  · next start finish hstart hfinish =>
    rcases h with hno | hno
    · exact (hno start hstart).elim
    · exact (hno finish hfinish).elim
  · exact ⟨_, rfl⟩

theorem lenient (store : Store) (chain : String → Exec Signal) (s : Session) :
    Lenient store chain s where
  null_field condition yes no hfield :=
    runAction_branch_ok (Condition.holds_null_field hfield)
  equality condition yes no op hop hordering := by
    by_cases hfield : s.vars.resolve condition.field = .null
    · exact ⟨false, runAction_branch_ok (Condition.holds_null_field hfield)⟩
    · obtain ⟨holds, hholds⟩ := Value.satisfies_equality (s.vars.resolve condition.field)
        (s.vars.evaluate (.ofJson condition.value)) hordering
      exact ⟨holds, runAction_branch_ok ((Condition.holds_of_read hop hfield).trans hholds)⟩
  no_list source item body hsource := by
    have hloop : runLoop chain source item body s = (.done .proceed, s) := by
      rw [runLoop_apply]
      split
      · next items hitems => exact (hsource items hitems).elim
      · rfl
    exact hloop
  matches_found query hkind hname := by
    obtain ⟨found, hfound⟩ := Store.fetchList_known (query.resolve s.vars) hkind
    refine ⟨found, hfound, ?_, fun hfew => ?_⟩
    · have hvalue : Action.value? store s.vars (.fetchList query) = some (.ok (.list found)) := by
        rw [Action.value?, hfound]
        rfl
      exact (runAction_value rfl hvalue).trans (settle_ok hname)
    · have hvalue : Action.value? store s.vars (.fetch query) =
          some (.ok (found.head?.getD .null)) :=
        congrArg some (Store.fetchOne_of_few hfound hfew)
      exact (runAction_value rfl hvalue).trans (settle_ok hname)
  any_value target raw hname := (runAction_value rfl rfl).trans (settle_ok hname)
  any_message message level := ⟨_, rfl⟩
  no_span startDate endDate unit storeAs hno := by
    obtain ⟨cause, hspan⟩ := measuredSpan_no_span unit hno
    have hvalue : Action.value? store s.vars (.measure startDate endDate unit storeAs) =
        some (.error (.typeMismatch cause)) := congrArg some hspan
    exact ⟨cause, runAction_value rfl hvalue⟩
  null_value condition yes no op hop hordering hfield hvalue := by
    obtain ⟨cause, hnull⟩ := Value.satisfies_null hordering hfield
    refine ⟨cause, runAction_branch_error ?_⟩
    rw [Condition.holds_of_read hop hfield, hvalue, hnull]

end Leniency

/-- A run fails only in the ways that its steps declare, and one of them that has been executed is
to blame. Values that are missing or of another kind do not make a step fail by themselves, except
where a duration is measured or an order asked for. -/
theorem Rule.run_fails_declared :
    (∀ (rule : Rule) (store : Store) (depth : Nat) (vars : Variables) (journal : Journal)
        (e : Error) (after : Session),
      rule.runWithin store depth ⟨vars, journal, []⟩ = (.failed e, after) →
        rule.Declares store e after) ∧
      ∀ (store : Store) (chain : String → Exec Signal) (s : Session), Lenient store chain s := by
  refine ⟨?_, lenient⟩
  intro rule store depth vars journal e after hrun
  have hdeclared := (upholds_declares rule store).triple_runWithin store
    (fun s _ e he => by cases he) depth
  exact hdeclared.of_failed trivial hrun e rfl

/-- Nothing that the steps ask for is there, and only the last one needs it. -/
def groping : Rule where
  name := "groping"
  steps := [⟨"start", some "each", .branch ⟨"gone.field", "~", .null⟩ ["start"] []⟩,
    ⟨"each", some "copy", .loop "gone" "x" ["start"]⟩,
    ⟨"copy", some "span", .assign "copied" (.string "@gone")⟩,
    ⟨"span", none, .measure "copied" "Status" none "days"⟩]
  distinct := by decide
  starts := by decide

theorem run_fails_declared_groping :
    ∃ after,
      groping.runWithin .empty 4 ⟨.initial, [], []⟩ =
          (.failed (.typeMismatch (.span "null" "copied" "bool" "Status")), after) ∧
        groping.Declares .empty (.typeMismatch (.span "null" "copied" "bool" "Status")) after ∧
        ∀ chain s, s.vars.resolve "gone.field" = .null →
          runAction .empty chain (.branch ⟨"gone.field", "~", .null⟩ ["start"] []) s =
            runBranch chain [] s := by
  let after := (groping.runWithin .empty 4 ⟨.initial, [], []⟩).2
  have hrun : groping.runWithin .empty 4 ⟨.initial, [], []⟩ =
      (.failed (.typeMismatch (.span "null" "copied" "bool" "Status")), after) := rfl
  have hdeclared := Rule.run_fails_declared.1 groping .empty 4 .initial [] _ after hrun
  refine ⟨after, hrun, hdeclared, fun chain s hfield => ?_⟩
  exact (Rule.run_fails_declared.2 .empty chain s).null_field _ ["start"] [] hfield

end StageGate
