import StageGate.Proofs.Rule.Acceptance

/-! Rules written as documents: they are read as the rules they were. -/
namespace StageGate

namespace Fields

variable {α : Type} {entries : List (String × α)}

theorem find?_foldl_insert (hnames : (names entries).Nodup) (fields : Fields α) (name : String) :
    find? (entries.foldl (fun fields entry => insert fields entry.1 entry.2) fields) name =
      (find? entries name).or (find? fields name) := by
  induction entries generalizing fields with
  | nil => rfl
  | cons entry entries ih =>
    obtain ⟨first, value⟩ := entry
    obtain ⟨hfresh, hnames⟩ := List.nodup_cons.mp hnames
    rw [List.foldl_cons, ih hnames, find?_insert, find?]
    by_cases hname : first = name
    · have hnone : find? entries name = none := by
        simpa [has, hname] using mt mem_names_iff.mpr hfresh
      rw [if_pos hname, if_pos hname, hnone, Option.none_or, Option.some_or]
    · rw [if_neg hname, if_neg hname]

theorem find?_ofList (hnames : (names entries).Nodup) (name : String) :
    find? (ofList entries) name = find? entries name := by
  rw [ofList, find?_foldl_insert hnames, find?, Option.or_none]

end Fields

namespace Rule

variable {rule : Rule} {document : Json} {step : Step} {fallback : Option String}

/-- The fields that a step is written with. -/
def written (step : Step) : List (String × Json) :=
  ("action", .string step.action.name) :: ("id", .string step.id) ::
    ("next", textOrNull step.next) :: step.action.fields

theorem nodup_written (step : Step) : (Fields.names (written step)).Nodup := by
  unfold written
  cases step.action <;> simp [Fields.names, Action.fields, Query.fields]

theorem isCondition_toJson (c : Condition) : IsCondition c.toJson c := by
  refine .object ?_ ?_ ?_ <;> simp [HasText, fieldOr, Fields.find?]

theorem fieldOr_congr {fields fields' : Fields Json}
    (h : ∀ name, Fields.find? fields name = Fields.find? fields' name) (name : String)
    (default : Json) : fieldOr fields name default = fieldOr fields' name default := by
  rw [fieldOr, fieldOr, h]

/-- Fields may stand in any order. -/
theorem hasPayload_congr {fields fields' : Fields Json} {action : Action}
    (h : ∀ name, Fields.find? fields name = Fields.find? fields' name) :
    HasPayload fields action ↔ HasPayload fields' action := by
  cases action <;> simp only [HasPayload, HasQuery, HasText, fieldOr_congr h, h]

theorem hasPayload_written (step : Step) : HasPayload (written step) step.action := by
  obtain ⟨id, next, action⟩ := step
  cases action with
  | branch condition yes no =>
    exact ⟨⟨condition.toJson, by simp [written, Fields.find?, Action.fields],
      isCondition_toJson condition⟩, by simp [fieldOr, written, Fields.find?, Action.fields]⟩
  | stop status reason =>
    exact ⟨.bool status, by simp [fieldOr, written, Fields.find?, Action.fields]⟩
  | _ =>
    simp [HasPayload, HasQuery, HasText, fieldOr, written, Fields.find?, Action.fields,
      Query.fields]

/-- A step is spelled out by what is written of it. -/
theorem spells_toJson (hid : Text.isBlank step.id = false) : Spells step.toJson step := by
  have hfind (name : String) :
      Fields.find? (Fields.ofList (written step)) name = Fields.find? (written step) name :=
    Fields.find?_ofList (nodup_written step) name
  refine .object ?_ hid ?_ ?_ ((hasPayload_congr hfind).mpr (hasPayload_written step))
  · exact hfind "id"
  · exact hfind "action"
  · exact fieldOr_congr hfind "next" .null

theorem toJson_steps (hids : ∀ step ∈ rule.steps, Text.isBlank step.id = false) :
    List.Forall₂ Spells (rule.steps.map Step.toJson) rule.steps :=
  List.forall₂_map_left_iff.mpr
    (List.forall₂_same.mpr fun step hmem => spells_toJson (hids step hmem))

theorem ofJson_toJson_of_named (hname : Text.isBlank rule.name = false)
    (hids : ∀ step ∈ rule.steps, Text.isBlank step.id = false) (fallback : Option String) :
    ofJson rule.toJson fallback = .ok rule :=
  ofJson_eq_ok_iff_renders.mpr
    ⟨_, _, rfl, rfl, renders_of_spells (.own rfl hname) (toJson_steps hids)⟩

theorem HasName.isBlank_eq_false {fields : Fields Json} {name : String}
    (h : HasName none fields name) : Text.isBlank name = false := by
  cases h with
  | absent | null | blank => decide
  | own _ hblank => exact hblank

theorem Spells.isBlank_id {raw : Json} (h : Spells raw step) : Text.isBlank step.id = false := by
  cases h with
  | object _ hnamed => exact hnamed

/-- A rule that was read from a document is read again, with the same name and the same steps, from
the document it is written as, and what is written then is that document. -/
theorem ofJson_toJson (h : ofJson document none = .ok rule) :
    ∃ again, ofJson rule.toJson none = .ok again ∧ again.name = rule.name ∧
      again.steps = rule.steps ∧ again.toJson = rule.toJson := by
  obtain ⟨fields, raws, rfl, -, hrule⟩ := ofJson_eq_ok_iff_renders.mp h
  have hids : ∀ step ∈ rule.steps, Text.isBlank step.id = false := by
    intro step hmem
    obtain ⟨raw, -, hspells⟩ := (mem_steps_iff_spells hrule.steps).mp hmem
    exact hspells.isBlank_id
  exact ⟨rule, ofJson_toJson_of_named hrule.name.isBlank_eq_false hids none, rfl, rfl, rfl⟩

/-- No name, a condition given as a list, a status given as text, and a field without meaning. -/
def terse : Json :=
  .object [("steps", .array [
    .object [("action", .string "if"),
      ("condition", .array [.string "subject.Age", .string ">="]), ("id", .string "start"),
      ("then", .array [.string "done"])],
    .object [("action", .string "stop"), ("id", .string "done"), ("note", .whole (.ofInt64 7)),
      ("reason", .null), ("status", .string " TRUE ")]])]

def terseRule : Rule where
  name := "rule"
  steps := [⟨"start", none, .branch ⟨"subject.Age", ">=", .null⟩ ["done"] []⟩,
    ⟨"done", none, .stop true none⟩]
  distinct := by decide
  starts := by decide

theorem ofJson_toJson_terse : ofJson terse none = .ok terseRule ∧
    ∃ again, ofJson terseRule.toJson none = .ok again ∧ again.name = terseRule.name ∧
      again.steps = terseRule.steps ∧ again.toJson = terseRule.toJson := by
  have hterse : ofJson terse none = .ok terseRule := by rfl
  exact ⟨hterse, ofJson_toJson hterse⟩

end Rule
end StageGate
