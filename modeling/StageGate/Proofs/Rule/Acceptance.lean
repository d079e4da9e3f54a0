import Mathlib.Data.List.Induction
import Mathlib.Data.List.Nodup
import StageGate.Proofs.Rule.Document
import StageGate.Proofs.Rule.Payload

/-! Which documents are rules, what becomes of their steps, and what is found wrong with the other
documents. -/
namespace StageGate.Rule

open Json

variable {name id action : String} {index : Nat} {raw : Json} {raws : List Json} {step : Step}
  {steps : List Step} {rule : Rule} {fields : Fields Json} {fallback : Option String} {e : Error}
  {document : Json} {read : Fields Json → Except Misfit Action}

/-- The raw step spells out the step. -/
inductive Spells : Json → Step → Prop
  | object {fields : Fields Json} {step : Step} (id : HasText fields "id" step.id)
    (named : Text.isBlank step.id = false) (action : HasText fields "action" step.action.name)
    (next : fieldOr fields "next" .null = textOrNull step.next)
    (payload : HasPayload fields step.action) : Spells (.object fields) step

def HasId (raw : Json) (id : String) : Prop :=
  raw.field? "id" = some (.string id) ∧ Text.isBlank id = false

/-- The names of the actions that there are. -/
def actionNames : List String :=
  ["fetch", "fetchList", "assign", "calculateDuration", "if", "foreach", "break", "continue",
    "stop", "log"]

/-- Reads what a step holds beside its id and the name of its action. -/
def readParts (id : String) (read : Fields Json → Except Misfit Action) (fields : Fields Json) :
    Except Misfit Step := do
  let next ← given fields "next" (asOptional asText)
  return ⟨id, next.join, ← read fields⟩

/-- The first thing wrong with the raw step at `index` of the rule called `name`. -/
inductive StepFault (name : String) (index : Nat) (raw : Json) : Error → Prop
  | id (h : ∀ id, ¬ HasId raw id) : StepFault name index raw (.parse (.stepWithoutId name index))
  | action {id : String} (hid : HasId raw id)
    (h : ∀ action, raw.field? "action" ≠ some (.string action)) :
    StepFault name index raw (.parse (.stepWithoutAction name id))
  | unknown {id action : String} (hid : HasId raw id)
    (haction : raw.field? "action" = some (.string action)) (h : action ∉ actionNames) :
    StepFault name index raw (.unknownAction id action)
  | payload {id action : String} {read : Fields Json → Except Misfit Action} {fields : Fields Json}
    {misfit : Misfit} (hid : HasId raw id) (haction : raw.field? "action" = some (.string action))
    (hread : action? action = some read) (hraw : raw = .object fields)
    (h : readParts id read fields = .error misfit) :
    StepFault name index raw (.parse (.badStep name id misfit))

theorem action?_eq_none_iff : action? action = none ↔ action ∉ actionNames := by
  unfold action?
  split <;> simp_all [actionNames]

theorem bind_string?_eq_some_iff {s : String} :
    (raw.field? name).bind Json.string? = some s ↔ raw.field? name = some (.string s) := by
  rw [Option.bind_eq_some_iff]
  constructor
  · rintro ⟨found, hfound, hs⟩
    cases found with
    | string s' =>
      cases hs
      exact hfound
    | _ => cases hs
  · intro h
    exact ⟨_, h, rfl⟩

theorem filter_eq_some_iff :
    ((raw.field? "id").bind Json.string?).filter (!Text.isBlank ·) = some id ↔ HasId raw id := by
  rw [Option.filter_eq_some_iff, bind_string?_eq_some_iff, HasId, Bool.not_eq_true']

theorem readParts_eq_ok_iff (hread : action? action = some read) :
    readParts id read fields = .ok step ↔ step.id = id ∧ step.action.name = action ∧
      fieldOr fields "next" .null = textOrNull step.next ∧ HasPayload fields step.action := by
  simp only [readParts, bind_eq_ok_iff, read_eq_ok_iff hread, ← given_optional_iff]
  constructor
  · rintro ⟨next, hnext, action, ⟨hname, hpayload⟩, h⟩
    cases h
    exact ⟨rfl, hname, ⟨next, hnext, rfl⟩, hpayload⟩
  · rintro ⟨rfl, hname, ⟨next, hnext, hstep⟩, hpayload⟩
    refine ⟨next, hnext, step.action, ⟨hname, hpayload⟩, ?_⟩
    rw [hstep]
    rfl

/-- Where the action is known, what is left are the step after this one and the payload. -/
theorem readStep_known (hid : HasId (.object fields) id) (haction : HasText fields "action" action)
    (hread : action? action = some read) :
    readStep name index (.object fields) =
      (readParts id read fields).mapError fun misfit => .parse (.badStep name id misfit) := by
  have htext : (object fields).field? "action" = some (.string action) := haction
  unfold readStep
  simp only [filter_eq_some_iff.mpr hid, bind_string?_eq_some_iff.mpr htext, hread]
  rfl

theorem readStep_of_fault (h : StepFault name index raw e) :
    readStep name index raw = .error e := by
  cases h with
  | id h =>
    have hnone : ((raw.field? "id").bind Json.string?).filter (!Text.isBlank ·) = none := by
      refine Option.eq_none_iff_forall_ne_some.mpr fun id hid => ?_
      exact h id (filter_eq_some_iff.mp hid)
    unfold readStep
    rw [hnone]
    rfl
  | action hid h =>
    have hnone : (raw.field? "action").bind Json.string? = none := by
      refine Option.eq_none_iff_forall_ne_some.mpr fun action haction => ?_
      exact h action (bind_string?_eq_some_iff.mp haction)
    unfold readStep
    simp only [filter_eq_some_iff.mpr hid, hnone]
    rfl
  | unknown hid haction h =>
    unfold readStep
    simp only [filter_eq_some_iff.mpr hid, bind_string?_eq_some_iff.mpr haction,
      action?_eq_none_iff.mpr h]
    rfl
  | payload hid haction hread hraw h =>
    subst hraw
    rw [readStep_known hid haction hread, h]
    rfl

theorem action_known (a : Action) : ∃ read, action? a.name = some read := by
  refine Option.ne_none_iff_exists'.mp ?_
  rw [Ne, action?_eq_none_iff, not_not]
  cases a <;> simp [Action.name, actionNames]

theorem readStep_of_spells (h : Spells raw step) : readStep name index raw = .ok step := by
  cases h with
  | @object fields _ hid hnamed haction hnext hpayload =>
    obtain ⟨read, hread⟩ := action_known step.action
    have hparts := (readParts_eq_ok_iff hread).mpr ⟨rfl, rfl, hnext, hpayload⟩
    rw [readStep_known ⟨hid, hnamed⟩ haction hread, hparts]
    rfl

/-- A raw step spells out a step, or something is wrong with it. -/
theorem spells_or_fault (name : String) (index : Nat) (raw : Json) :
    (∃ step, Spells raw step) ∨ ∃ e, StepFault name index raw e := by
  by_cases hid : ∃ id, HasId raw id
  swap
  · exact Or.inr ⟨_, .id (not_exists.mp hid)⟩
  obtain ⟨id, hid⟩ := hid
  by_cases haction : ∃ action, raw.field? "action" = some (.string action)
  swap
  · exact Or.inr ⟨_, .action hid (not_exists.mp haction)⟩
  obtain ⟨action, haction⟩ := haction
  cases hread : action? action with
  | none => exact Or.inr ⟨_, .unknown hid haction (action?_eq_none_iff.mp hread)⟩
  | some read =>
    cases raw with
    | object fields =>
      cases hparts : readParts id read fields with
      | error misfit => exact Or.inr ⟨_, .payload hid haction hread rfl hparts⟩
      | ok step =>
        obtain ⟨rfl, rfl, hnext, hpayload⟩ := (readParts_eq_ok_iff hread).mp hparts
        exact Or.inl ⟨step, .object hid.1 hid.2 haction hnext hpayload⟩
    | _ => cases haction

theorem readStep_eq_ok_iff : readStep name index raw = .ok step ↔ Spells raw step := by
  refine ⟨fun h => ?_, readStep_of_spells⟩
  obtain ⟨step', hspells⟩ | ⟨e, hfault⟩ := spells_or_fault name index raw
  · cases h.symm.trans (readStep_of_spells hspells)
    exact hspells
  · cases h.symm.trans (readStep_of_fault hfault)

theorem readsAs_iff_spells : ReadsAs name raw step ↔ Spells raw step := by
  constructor
  · intro h
    exact readStep_eq_ok_iff.mp (h 0)
  · intro h index
    exact readStep_of_spells h

theorem readSteps_of_spells (h : List.Forall₂ Spells raws steps) :
    readSteps name index raws = .ok steps :=
  (readSteps_eq_ok_iff index).mpr (h.imp fun _ _ hspells => readsAs_iff_spells.mpr hspells)

/-- Steps are read from the left, so the first fault is the one that counts. -/
theorem readSteps_of_fault {front back : List Json}
    (hfront : ∀ raw ∈ front, ∃ step, Spells raw step)
    (h : StepFault name (index + front.length) raw e) :
    readSteps name index (front ++ raw :: back) = .error e := by
  induction front generalizing index with
  | nil =>
    rw [List.length_nil, Nat.add_zero] at h
    rw [List.nil_append, readSteps, readStep_of_fault h]
    rfl
  | cons first front ih =>
    obtain ⟨⟨step, hspells⟩, hfront⟩ := List.forall_mem_cons.mp hfront
    have hplace : index + (first :: front).length = index + 1 + front.length := by
      rw [List.length_cons]
      omega
    have hrest := ih hfront (hplace ▸ h)
    rw [List.cons_append, readSteps, readStep_of_spells hspells, hrest]
    rfl

theorem spelled_or_fault (name : String) (index : Nat) (raws : List Json) :
    (∃ steps, List.Forall₂ Spells raws steps) ∨
      ∃ front raw back e, raws = front ++ raw :: back ∧ (∀ raw ∈ front, ∃ step, Spells raw step) ∧
        StepFault name (index + front.length) raw e := by
  induction raws generalizing index with
  | nil => exact Or.inl ⟨[], .nil⟩
  | cons first raws ih =>
    obtain ⟨step, hfirst⟩ | ⟨e, h⟩ := spells_or_fault name index first
    · obtain ⟨steps, hspells⟩ | ⟨front, raw, back, e, rfl, hfront, h⟩ := ih (index + 1)
      · exact Or.inl ⟨step :: steps, .cons hfirst hspells⟩
      · refine Or.inr ⟨first :: front, raw, back, e, rfl, ?_, ?_⟩
        · exact List.forall_mem_cons.mpr ⟨⟨step, hfirst⟩, hfront⟩
        · have hplace : index + (first :: front).length = index + 1 + front.length := by
            rw [List.length_cons]
            omega
          exact hplace ▸ h
    · exact Or.inr ⟨[], first, raws, e, rfl, List.forall_mem_nil _, h⟩

section Ids

variable {ids front back seen : List String}

theorem go_eq_some (hdistinct : front.Nodup) (hfresh : ∀ other ∈ front, other ∉ seen)
    (hid : id ∈ seen ∨ id ∈ front) : repeated?.go seen (front ++ id :: back) = some id := by
  induction front generalizing seen with
  | nil =>
    have hseen : id ∈ seen := hid.resolve_right (List.not_mem_nil)
    rw [List.nil_append, repeated?.go, if_pos hseen]
  | cons first front ih =>
    obtain ⟨hfirst, hdistinct⟩ := List.nodup_cons.mp hdistinct
    obtain ⟨hnew, hfresh⟩ := List.forall_mem_cons.mp hfresh
    rw [List.cons_append, repeated?.go, if_neg hnew]
    refine ih hdistinct (fun other hmem => ?_) ?_
    · rw [List.mem_cons, not_or]
      exact ⟨fun heq => hfirst (heq ▸ hmem), hfresh other hmem⟩
    · rcases hid with hid | hid
      · exact Or.inl (List.mem_cons_of_mem first hid)
      · obtain rfl | hid := List.mem_cons.mp hid
        · exact Or.inl List.mem_cons_self
        · exact Or.inr hid

theorem repeated?_eq_some (hdistinct : front.Nodup) (hmem : id ∈ front) :
    repeated? (front ++ id :: back) = some id :=
  go_eq_some hdistinct (fun _ _ => List.not_mem_nil) (Or.inr hmem)

theorem nodup_or_repeated (ids : List String) :
    ids.Nodup ∨ ∃ front id back, ids = front ++ id :: back ∧ front.Nodup ∧ id ∈ front := by
  induction ids using List.reverseRecOn with
  | nil => exact Or.inl List.nodup_nil
  | append_singleton ids last ih =>
    obtain hdistinct | ⟨front, id, back, rfl, hdistinct, hmem⟩ := ih
    · by_cases hlast : last ∈ ids
      · exact Or.inr ⟨ids, last, [], rfl, hdistinct, hlast⟩
      · left
        rw [← List.concat_eq_append]
        exact hdistinct.concat hlast
    · exact Or.inr ⟨front, id, back ++ [last], by simp, hdistinct, hmem⟩

theorem ofSteps_of_repeated (hids : steps.map Step.id = front ++ id :: back)
    (hdistinct : front.Nodup) (hmem : id ∈ front) :
    ofSteps name steps = .error (.parse (.duplicateStep name id)) := by
  have hrepeated : ¬ (steps.map Step.id).Nodup := by
    rw [hids]
    intro h
    exact (List.nodup_middle.mp h).notMem (List.mem_append_left back hmem)
  rw [ofSteps, dif_neg hrepeated, hids, repeated?_eq_some hdistinct hmem]
  rfl

end Ids

/-- The name of the rule: its own, or the fallback where it has none or a blank one. -/
inductive HasName (fallback : Option String) (fields : Fields Json) : String → Prop
  | absent (h : Fields.find? fields "name" = none) : HasName fallback fields (fallback.getD "rule")
  | null (h : Fields.find? fields "name" = some .null) :
    HasName fallback fields (fallback.getD "rule")
  | blank {name : String} (h : HasText fields "name" name) (hblank : Text.isBlank name = true) :
    HasName fallback fields (fallback.getD "rule")
  | own {name : String} (h : HasText fields "name" name) (hblank : Text.isBlank name = false) :
    HasName fallback fields name

/-- The first thing wrong with the document. -/
inductive Fault (fallback : Option String) : Json → Error → Prop
  | root {document : Json} (h : ∀ fields, document ≠ .object fields) :
    Fault fallback document (.parse .ruleNotObject)
  | name {fields : Fields Json} {found : Json} (hfound : Fields.find? fields "name" = some found)
    (hnull : found ≠ .null) (htext : ∀ s, found ≠ .string s) :
    Fault fallback (.object fields) (.parse (.nameNotString found))
  | missing {fields : Fields Json} {name : String} (hname : HasName fallback fields name)
    (h : Fields.find? fields "steps" = none) :
    Fault fallback (.object fields) (.parse (.stepsMissing name))
  | notList {fields : Fields Json} {name : String} {found : Json}
    (hname : HasName fallback fields name) (hfound : Fields.find? fields "steps" = some found)
    (h : ∀ raws, found ≠ .array raws) :
    Fault fallback (.object fields) (.parse (.stepsNotList name))
  | step {fields : Fields Json} {name : String} {front back : List Json} {raw : Json} {e : Error}
    (hname : HasName fallback fields name)
    (hsteps : Fields.find? fields "steps" = some (.array (front ++ raw :: back)))
    (hfront : ∀ raw ∈ front, ∃ step, Spells raw step) (h : StepFault name front.length raw e) :
    Fault fallback (.object fields) e
  | repeated {fields : Fields Json} {name : String} {raws : List Json} {steps : List Step}
    {front back : List String} {id : String} (hname : HasName fallback fields name)
    (hsteps : Fields.find? fields "steps" = some (.array raws))
    (hspells : List.Forall₂ Spells raws steps) (hids : steps.map Step.id = front ++ id :: back)
    (hdistinct : front.Nodup) (hmem : id ∈ front) :
    Fault fallback (.object fields) (.parse (.duplicateStep name id))
  | noStart {fields : Fields Json} {name : String} {raws : List Json} {steps : List Step}
    (hname : HasName fallback fields name)
    (hsteps : Fields.find? fields "steps" = some (.array raws))
    (hspells : List.Forall₂ Spells raws steps) (hdistinct : (steps.map Step.id).Nodup)
    (hstart : startId ∉ steps.map Step.id) : Fault fallback (.object fields) (.missingStart name)

/-- The documents that are rules. -/
inductive WellFormed : Json → Prop
  | object {fields : Fields Json} {raws : List Json} {steps : List Step}
    (hname : ∀ found, Fields.find? fields "name" = some found →
      found = .null ∨ ∃ s, found = .string s)
    (hsteps : Fields.find? fields "steps" = some (.array raws))
    (hspells : List.Forall₂ Spells raws steps) (hdistinct : (steps.map Step.id).Nodup)
    (hstarts : startId ∈ steps.map Step.id) : WellFormed (.object fields)

/-- The rule has the steps that the raw steps spell out, in their order, and finds them by id. -/
structure Renders (fallback : Option String) (fields : Fields Json) (raws : List Json)
    (rule : Rule) : Prop where
  name : HasName fallback fields rule.name
  steps : List.Forall₂ Spells raws rule.steps
  size : rule.size = raws.length
  found : ∀ raw ∈ raws, ∀ step, Spells raw step → rule.step step.id = .ok step
  missed : ∀ id, (∀ raw ∈ raws, raw.field? "id" ≠ some (.string id)) →
    rule.step id = .error (.danglingReference rule.name id)

theorem readName_of_hasName (h : HasName fallback fields name) :
    readName fallback fields = .ok name := by
  unfold readName
  cases h with
  | absent h => rw [h]
  | null h => rw [h]
  | blank h hblank =>
    rw [HasText] at h
    simp only [h, hblank, if_true]
  | own h hblank =>
    rw [HasText] at h
    simp [h, hblank]

theorem readName_of_fault {found : Json} (hfound : Fields.find? fields "name" = some found)
    (hnull : found ≠ .null) (htext : ∀ s, found ≠ .string s) :
    readName fallback fields = .error (.parse (.nameNotString found)) := by
  unfold readName
  rw [hfound]
  cases found with
  | null => exact (hnull rfl).elim
  | string s => exact (htext s rfl).elim
  | _ => rfl

theorem hasName_or_fault (fallback : Option String) (fields : Fields Json) :
    (∃ name, HasName fallback fields name) ∨ ∃ found, Fields.find? fields "name" = some found ∧
      found ≠ .null ∧ ∀ s, found ≠ .string s := by
  cases hfound : Fields.find? fields "name" with
  | none => exact Or.inl ⟨_, .absent hfound⟩
  | some found =>
    cases found with
    | null => exact Or.inl ⟨_, .null hfound⟩
    | string s =>
      cases hblank : Text.isBlank s with
      | true => exact Or.inl ⟨_, .blank hfound hblank⟩
      | false => exact Or.inl ⟨s, .own hfound hblank⟩
    | _ => exact Or.inr ⟨_, rfl, nofun, nofun⟩

theorem ofJson_of_steps (hname : HasName fallback fields name)
    (hsteps : Fields.find? fields "steps" = some (.array raws)) :
    ofJson (.object fields) fallback = readSteps name 0 raws >>= ofSteps name := by
  simp only [ofJson, readName_of_hasName hname, hsteps]
  rfl

theorem ofJson_of_fault (h : Fault fallback document e) : ofJson document fallback = .error e := by
  cases h with
  | root h =>
    cases document with
    | object fields => exact (h fields rfl).elim
    | _ => rfl
  | name hfound hnull htext =>
    simp only [ofJson, readName_of_fault hfound hnull htext]
    rfl
  | missing hname h =>
    simp only [ofJson, readName_of_hasName hname, h]
    rfl
  | @notList _ _ found hname hfound h =>
    simp only [ofJson, readName_of_hasName hname, hfound]
    cases found with
    | array raws => exact (h raws rfl).elim
    | _ => rfl
  | step hname hsteps hfront h =>
    rw [ofJson_of_steps hname hsteps, readSteps_of_fault hfront (by rwa [Nat.zero_add])]
    rfl
  | repeated hname hsteps hspells hids hdistinct hmem =>
    rw [ofJson_of_steps hname hsteps, readSteps_of_spells hspells]
    exact ofSteps_of_repeated hids hdistinct hmem
  | noStart hname hsteps hspells hdistinct hstart =>
    rw [ofJson_of_steps hname hsteps, readSteps_of_spells hspells]
    exact (dif_pos hdistinct).trans (dif_neg hstart)

/-- A document is well-formed, or something is wrong with it. -/
theorem wellFormed_or_fault (fallback : Option String) (document : Json) :
    WellFormed document ∨ ∃ e, Fault fallback document e := by
  cases document with
  | object fields =>
    obtain ⟨name, hname⟩ | ⟨found, hfound, hnull, htext⟩ := hasName_or_fault fallback fields
    swap
    · exact Or.inr ⟨_, .name hfound hnull htext⟩
    cases hsteps : Fields.find? fields "steps" with
    | none => exact Or.inr ⟨_, .missing hname hsteps⟩
    | some found =>
      cases found with
      | array raws =>
        obtain ⟨steps, hspells⟩ | ⟨front, raw, back, e, rfl, hfront, h⟩ :=
          spelled_or_fault name 0 raws
        swap
        · exact Or.inr ⟨e, .step hname hsteps hfront (by rwa [Nat.zero_add] at h)⟩
        obtain hdistinct | ⟨front, id, back, hids, hfront, hmem⟩ :=
          nodup_or_repeated (steps.map Step.id)
        swap
        · exact Or.inr ⟨_, .repeated hname hsteps hspells hids hfront hmem⟩
        by_cases hstarts : startId ∈ steps.map Step.id
        · refine Or.inl (.object (fun found hfound => ?_) hsteps hspells hdistinct hstarts)
          cases hname with
          | absent h => cases hfound.symm.trans h
          | null h =>
            cases hfound.symm.trans h
            exact Or.inl rfl
          | blank h | own h =>
            cases hfound.symm.trans h
            exact Or.inr ⟨_, rfl⟩
        · exact Or.inr ⟨_, .noStart hname hsteps hspells hdistinct hstarts⟩
      | _ => exact Or.inr ⟨_, .notList hname hsteps nofun⟩
  | _ => exact Or.inr ⟨_, .root nofun⟩

theorem ofJson_of_wellFormed (h : WellFormed document) :
    ∃ rule, ofJson document fallback = .ok rule := by
  obtain ⟨hname, hsteps, hspells, hdistinct, hstarts⟩ := h
  rename_i fields raws steps
  obtain ⟨name, hread⟩ | ⟨found, hfound, hnull, htext⟩ := hasName_or_fault fallback fields
  · refine ⟨⟨name, steps, hdistinct, hstarts⟩, ?_⟩
    rw [ofJson_of_steps hread hsteps, readSteps_of_spells hspells]
    exact ofSteps_eq_ok_iff.mpr ⟨rfl, rfl⟩
  · obtain rfl | ⟨s, rfl⟩ := hname found hfound
    · exact (hnull rfl).elim
    · exact (htext s rfl).elim

theorem exists_ofJson_iff :
    (∃ rule, ofJson document fallback = .ok rule) ↔ WellFormed document := by
  refine ⟨fun ⟨rule, hrule⟩ => ?_, ofJson_of_wellFormed⟩
  refine (wellFormed_or_fault fallback document).resolve_right fun ⟨e, h⟩ => ?_
  cases hrule.symm.trans (ofJson_of_fault h)

theorem ofJson_eq_error_iff : ofJson document fallback = .error e ↔ Fault fallback document e := by
  refine ⟨fun h => ?_, ofJson_of_fault⟩
  obtain hwell | ⟨e', hfault⟩ := wellFormed_or_fault fallback document
  · obtain ⟨rule, hrule⟩ : ∃ rule, ofJson document fallback = .ok rule :=
      ofJson_of_wellFormed hwell
    cases h.symm.trans hrule
  · cases h.symm.trans (ofJson_of_fault hfault)
    exact hfault

theorem readName_eq_ok_iff :
    readName fallback fields = .ok name ↔ HasName fallback fields name := by
  refine ⟨fun h => ?_, readName_of_hasName⟩
  obtain ⟨name', hname⟩ | ⟨found, hfound, hnull, htext⟩ := hasName_or_fault fallback fields
  · cases h.symm.trans (readName_of_hasName hname)
    exact hname
  · cases h.symm.trans (readName_of_fault hfound hnull htext)

theorem mem_steps_iff_spells (h : List.Forall₂ Spells raws steps) :
    step ∈ steps ↔ ∃ raw ∈ raws, Spells raw step := by
  -- the name of the rule makes no difference to the steps
  have hreads : List.Forall₂ (ReadsAs "") raws steps :=
    h.imp fun _ _ hspells => readsAs_iff_spells.mpr hspells
  simp only [mem_steps_iff hreads, readsAs_iff_spells]

theorem renders_of_spells (hname : HasName fallback fields rule.name)
    (hspells : List.Forall₂ Spells raws rule.steps) : Renders fallback fields raws rule := by
  refine ⟨hname, hspells, hspells.length_eq.symm, ?_, ?_⟩
  · intro raw hraw step hstep
    exact step_of_mem ((mem_steps_iff_spells hspells).mpr ⟨raw, hraw, hstep⟩)
  · intro id hid
    refine step_of_unknown fun step hmem heq => ?_
    obtain ⟨raw, hraw, hstep⟩ := (mem_steps_iff_spells hspells).mp hmem
    subst heq
    cases hstep with
    | object hfound => exact hid _ hraw hfound

theorem ofJson_eq_ok_iff_renders : ofJson document fallback = .ok rule ↔ ∃ fields raws,
    document = .object fields ∧ Fields.find? fields "steps" = some (.array raws) ∧
      Renders fallback fields raws rule := by
  constructor
  · intro h
    obtain ⟨-, hsteps, -⟩ := exists_ofJson_iff.mp ⟨rule, h⟩
    obtain ⟨hname, hreads⟩ := (ofJson_eq_ok_iff hsteps).mp h
    have hspells := hreads.imp fun _ _ hstep => readsAs_iff_spells.mp hstep
    exact ⟨_, _, rfl, hsteps, renders_of_spells (readName_eq_ok_iff.mp hname) hspells⟩
  · rintro ⟨fields, raws, rfl, hsteps, hrule⟩
    have hreads : List.Forall₂ (ReadsAs rule.name) raws rule.steps :=
      hrule.steps.imp fun _ _ hstep => readsAs_iff_spells.mpr hstep
    exact (ofJson_eq_ok_iff hsteps).mpr ⟨readName_of_hasName hrule.name, hreads⟩

/-- A document is read as a rule if and only if it is well-formed. The rule then has the steps of
the document in their order, and finds each of them by its id and nothing else; otherwise the error
is the first thing wrong with the document. -/
theorem ofJson_settles (document : Json) (fallback : Option String) :
    ((∃ rule, ofJson document fallback = .ok rule) ↔ WellFormed document) ∧
    (∀ rule, ofJson document fallback = .ok rule ↔ ∃ fields raws, document = .object fields ∧
      Fields.find? fields "steps" = some (.array raws) ∧ Renders fallback fields raws rule) ∧
    ∀ e, ofJson document fallback = .error e ↔ Fault fallback document e :=
  ⟨exists_ofJson_iff, fun _ => ofJson_eq_ok_iff_renders, fun _ => ofJson_eq_error_iff⟩

end StageGate.Rule
