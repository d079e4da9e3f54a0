import Mathlib.Data.List.Perm.Basic
import StageGate.Proofs.Except
import StageGate.Rule.Decode

/-! Which documents are read as a rule, and what becomes of their steps. -/
namespace StageGate.Rule

variable {name : String} {index : Nat} {raw : Json} {raws raws' : List Json} {step : Step}
  {steps : List Step} {rule : Rule} {fields : Fields Json} {fallback : Option String}

/-- What the raw step is read as, wherever it stands. -/
def ReadsAs (name : String) (raw : Json) (step : Step) : Prop :=
  ∀ index, readStep name index raw = .ok step

theorem readsAs_of_readStep (h : readStep name index raw = .ok step) : ReadsAs name raw step := by
  intro index'
  -- the place of a step is told only where it is refused
  unfold readStep at h ⊢
  split at h
  case h_2 => cases h
  split at h
  case h_2 => cases h
  split at h
  case h_2 => cases h
  split at h
  case h_2 => cases h
  exact h

theorem readSteps_eq_ok_iff (index : Nat) :
    readSteps name index raws = .ok steps ↔ List.Forall₂ (ReadsAs name) raws steps := by
  induction raws generalizing index steps with
  | nil => simp [readSteps, eq_comm]
  | cons raw raws ih =>
    rw [readSteps, bind_eq_ok_iff]
    constructor
    · rintro ⟨step, hraw, h⟩
      obtain ⟨rest, hraws, hrest⟩ := bind_eq_ok_iff.mp h
      cases hrest
      exact .cons (readsAs_of_readStep hraw) ((ih _).mp hraws)
    · rintro (_ | ⟨hraw, hraws⟩)
      exact ⟨_, hraw index, bind_eq_ok_iff.mpr ⟨_, (ih _).mpr hraws, rfl⟩⟩

theorem ofSteps_eq_ok_iff :
    ofSteps name steps = .ok rule ↔ rule.name = name ∧ rule.steps = steps := by
  unfold ofSteps
  constructor
  · intro h
    split at h
    · split at h
      · cases h
        exact ⟨rfl, rfl⟩
      · cases h
    · cases h
  · rintro ⟨rfl, rfl⟩
    rw [dif_pos rule.distinct, dif_pos rule.starts]

theorem ofJson_eq_ok_iff (hsteps : Fields.find? fields "steps" = some (.array raws)) :
    ofJson (.object fields) fallback = .ok rule ↔
      readName fallback fields = .ok rule.name ∧
        List.Forall₂ (ReadsAs rule.name) raws rule.steps := by
  simp only [ofJson, hsteps, bind_eq_ok_iff, readSteps_eq_ok_iff, ofSteps_eq_ok_iff]
  constructor
  · rintro ⟨name, hname, steps, hraws, rfl, rfl⟩
    exact ⟨hname, hraws⟩
  · rintro ⟨hname, hraws⟩
    exact ⟨rule.name, hname, rule.steps, hraws, rfl, rfl⟩

section Steps

/-- A step is there if and only if some raw step is read as it. -/
theorem mem_steps_iff (h : List.Forall₂ (ReadsAs name) raws steps) :
    step ∈ steps ↔ ∃ raw ∈ raws, ReadsAs name raw step := by
  induction h with
  | nil => simp
  | @cons raw head _ _ hraw _ ih =>
    have hhead : ReadsAs name raw step ↔ step = head := by
      constructor
      · intro hstep
        exact Except.ok.inj ((hstep 0).symm.trans (hraw 0))
      · rintro rfl
        exact hraw
    simp [ih, hhead]

theorem readName_congr {fields' : Fields Json}
    (h : Fields.find? fields' "name" = Fields.find? fields "name") :
    readName fallback fields' = readName fallback fields := by
  unfold readName
  rw [h]

variable {fields' : Fields Json}

/-- The steps of a document may stand in any order. -/
theorem ofJson_of_perm (hname : Fields.find? fields' "name" = Fields.find? fields "name")
    (hsteps : Fields.find? fields "steps" = some (.array raws))
    (hsteps' : Fields.find? fields' "steps" = some (.array raws')) (hperm : raws'.Perm raws)
    (hrule : ofJson (.object fields) fallback = .ok rule) :
    ∃ rule', ofJson (.object fields') fallback = .ok rule' ∧ rule'.name = rule.name ∧
      rule'.steps.Perm rule.steps := by
  obtain ⟨hread, hraws⟩ := (ofJson_eq_ok_iff hsteps).mp hrule
  obtain ⟨steps', hraws', hperm'⟩ := List.perm_comp_forall₂ hperm hraws
  have hids := hperm'.map Step.id
  let rule' : Rule :=
    ⟨rule.name, steps', hids.nodup_iff.mpr rule.distinct, hids.mem_iff.mpr rule.starts⟩
  refine ⟨rule', (ofJson_eq_ok_iff hsteps').mpr ⟨?_, hraws'⟩, rfl, hperm'⟩
  rw [readName_congr hname, hread]

theorem subset_of_ofJson {rule' : Rule}
    (hname : Fields.find? fields' "name" = Fields.find? fields "name")
    (hsteps : Fields.find? fields "steps" = some (.array raws))
    (hsteps' : Fields.find? fields' "steps" = some (.array raws')) (hsub : raws ⊆ raws')
    (hrule : ofJson (.object fields) fallback = .ok rule)
    (hrule' : ofJson (.object fields') fallback = .ok rule') :
    rule.name = rule'.name ∧ rule.steps ⊆ rule'.steps := by
  obtain ⟨hread, hraws⟩ := (ofJson_eq_ok_iff hsteps).mp hrule
  obtain ⟨hread', hraws'⟩ := (ofJson_eq_ok_iff hsteps').mp hrule'
  have hsame : rule.name = rule'.name := by
    rw [readName_congr hname, hread] at hread'
    exact Except.ok.inj hread'
  refine ⟨hsame, fun step hmem => ?_⟩
  obtain ⟨raw, hraw, hreads⟩ := (mem_steps_iff hraws).mp hmem
  exact (mem_steps_iff hraws').mpr ⟨raw, hsub hraw, hsame ▸ hreads⟩

end Steps

section Lookup

theorem find?_id (hdistinct : (steps.map Step.id).Nodup) (hmem : step ∈ steps) :
    steps.find? (·.id == step.id) = some step := by
  induction steps with
  | nil => cases hmem
  | cons head steps ih =>
    obtain ⟨hfresh, hdistinct⟩ := List.nodup_cons.mp hdistinct
    obtain rfl | hmem := List.mem_cons.mp hmem
    · simp
    · have hne : head.id ≠ step.id := fun heq => hfresh (heq ▸ List.mem_map_of_mem hmem)
      simp [hne, ih hdistinct hmem]

theorem step?_of_mem (hmem : step ∈ rule.steps) : rule.step? step.id = some step :=
  find?_id rule.distinct hmem

theorem step_of_mem (hmem : step ∈ rule.steps) : rule.step step.id = .ok step := by
  rw [Rule.step, step?_of_mem hmem]

theorem step_of_unknown {id : String} (h : ∀ step ∈ rule.steps, step.id ≠ id) :
    rule.step id = .error (.danglingReference rule.name id) := by
  have hnone : rule.step? id = none :=
    List.find?_eq_none.mpr fun step hmem => by simpa using h step hmem
  rw [Rule.step, hnone]

end Lookup

end StageGate.Rule
