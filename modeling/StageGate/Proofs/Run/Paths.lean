import StageGate.Run

/-! The paths that an action looks up: what they lead to is all that it knows of the variables. -/
namespace StageGate

/-- The path that is looked up for a value, if it is one. -/
def Value.path? : Value → Option String
  | .string s =>
    match s.toList with
    | '@' :: path => some (String.ofList path)
    | _ => none
  | _ => none

def assignedPath? (raw : Json) : Option String :=
  match Value.ofJson raw with
  | .string s =>
    if s.toList.head? = some '@' then (Value.string s).path?
    else if '.' ∈ s.toList then some s
    else none
  | _ => none

def Message.Piece.path? : Piece → Option String
  | char _ => none
  | reference path => some (String.ofList (splitDots path).1)

/-- Every path that an action looks up. -/
def Action.paths : Action → List String
  | fetch query | fetchList query => query.filter.filterMap fun (_, raw) => (Value.ofJson raw).path?
  | assign _ raw => (assignedPath? raw).toList
  | measure startDate endDate _ _ => [startDate, endDate]
  | branch condition _ _ => condition.field :: (Value.ofJson condition.value).path?.toList
  | loop source _ _ => [source]
  | leaveLoop | nextItem | stop _ _ => []
  | log message _ => (Message.pieces message.toList).filterMap Message.Piece.path?

section Lookups

variable {vars vars' : Variables}

theorem Variables.evaluate_congr {v : Value}
    (h : ∀ path, v.path? = some path → vars.resolve path = vars'.resolve path) :
    vars.evaluate v = vars'.evaluate v := by
  cases v with
  | string s =>
    simp only [Value.path?] at h
    simp only [evaluate]
    split
    · next path hs => exact h _ (by simp [hs])
    · rfl
  | _ => rfl

theorem assignedValue_congr {raw : Json}
    (h : ∀ path, assignedPath? raw = some path → vars.resolve path = vars'.resolve path) :
    assignedValue raw vars = assignedValue raw vars' := by
  unfold assignedPath? at h
  unfold assignedValue
  split
  · next s hs =>
    rw [hs] at h
    by_cases hat : s.toList.head? = some '@'
    · simp only [hat, if_true] at h ⊢
      exact Variables.evaluate_congr h
    · by_cases hdot : '.' ∈ s.toList
      · simp only [hat, hdot, if_true, if_false] at h ⊢
        exact h s rfl
      · simp only [hat, hdot, if_false]
  · rfl

theorem Query.resolve_congr {query : Query}
    (h : ∀ path ∈ (Action.fetch query).paths, vars.resolve path = vars'.resolve path) :
    query.resolve vars = query.resolve vars' := by
  refine List.map_congr_left fun ⟨field, raw⟩ hmem => congrArg (field, ·) ?_
  refine Variables.evaluate_congr fun path hpath => ?_
  exact h path (List.mem_filterMap.mpr ⟨(field, raw), hmem, hpath⟩)

theorem measuredSpan_congr {startDate endDate : String} (unit : Option String)
    (hstart : vars.resolve startDate = vars'.resolve startDate)
    (hend : vars.resolve endDate = vars'.resolve endDate) :
    measuredSpan startDate endDate unit vars = measuredSpan startDate endDate unit vars' := by
  unfold measuredSpan
  rw [hstart, hend]

theorem Condition.holds_congr {condition : Condition}
    (hfield : vars.resolve condition.field = vars'.resolve condition.field)
    (h : ∀ path, (Value.ofJson condition.value).path? = some path →
      vars.resolve path = vars'.resolve path) :
    condition.holds vars = condition.holds vars' := by
  unfold Condition.holds
  rw [hfield, Variables.evaluate_congr h]

theorem Message.render_congr {message : String}
    (h : ∀ path ∈ (pieces message.toList).filterMap Piece.path?,
      vars.resolve path = vars'.resolve path) :
    render vars message = render vars' message := by
  refine congrArg (fun texts : List (List Char) => String.ofList texts.flatten) ?_
  refine List.map_congr_left fun piece hmem => ?_
  cases piece with
  | char c => rfl
  | reference path =>
    have hpath := h _ (List.mem_filterMap.mpr ⟨_, hmem, rfl⟩)
    simp only [Piece.text, referenceText, hpath]

end Lookups

end StageGate
