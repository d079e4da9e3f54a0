import StageGate.Proofs.Rule.Document
import StageGate.Proofs.Run.Depth

/-! The part of a rule that its runs can come to. What else is in the rule, and in which order,
makes no difference to them. -/
namespace StageGate

open Effect Exec

namespace Rule

/-- The ids that a run may come to: the start, and from each step on what it refers to. -/
inductive MayReach (rule : Rule) : String → Prop
  | start : MayReach rule startId
  | follow {id ref : String} {step : Step} (h : MayReach rule id)
    (hstep : rule.step? id = some step) (href : ref ∈ step.references) : MayReach rule ref

/-- Two rules of one name that have the same step, or none, wherever runs of the first may come. -/
structure Agrees (rule rule' : Rule) : Prop where
  name : rule.name = rule'.name
  step? : ∀ {id}, rule.MayReach id → rule.step? id = rule'.step? id

section Runs

variable {rule rule' : Rule} {store : Store} {depth : Nat} {id : String} {s : Session}

theorem Agrees.step (h : rule.Agrees rule') (hid : rule.MayReach id) :
    rule.step id = rule'.step id := by
  unfold Rule.step
  rw [h.step? hid, h.name]

theorem respects_eq (action : Action) : Respects (fun x y => x = y) action where
  rel_pure _ := rfl
  rel_bind hx hf := by rw [hx, funext hf]
  rel_lift _ := rfl
  rel_look _ := rfl
  rel_assign _ _ _ := rfl
  rel_say _ _ := rfl
  rel_bound _ _ := rfl
  rel_entered _ := rfl
  rel_take _ := rfl

/-- Every chain within a run starts at an id that the run may come to, and so it is the same chain
in both rules. -/
theorem Agrees.runChain_eq (h : rule.Agrees rule') (hid : rule.MayReach id) :
    runChain rule store depth id = runChain rule' store depth id := by
  induction depth generalizing id with
  | zero => rfl
  | succ depth ih =>
    refine rel_runChain_succ depth depth (h.step hid) (fun step _ => respects_eq step.action)
      (fun _ _ => rfl) fun step hstep ref href => ih ?_
    exact .follow hid (step?_of_step hstep) href

theorem Agrees.runWithin_eq (h : rule.Agrees rule') :
    rule.runWithin store depth = rule'.runWithin store depth := by
  unfold runWithin
  rw [h.runChain_eq .start, h.name]

/-- Runs that end within two depths are the same. -/
theorem runWithin_unique {depth' : Nat} (hends : (rule.runWithin store depth s).1 ≠ .unfinished)
    (hends' : (rule.runWithin store depth' s).1 ≠ .unfinished) :
    rule.runWithin store depth s = rule.runWithin store depth' s := by
  obtain hle | hle := Nat.le_total depth depth'
  · exact ((extends_runWithin rule store hle).eq_of_ends hends).symm
  · exact (extends_runWithin rule store hle).eq_of_ends hends'

theorem Agrees.run_eq (h : rule.Agrees rule') (hends : (rule.run store s).1 ≠ .unfinished)
    (hends' : (rule'.run store s).1 ≠ .unfinished) : rule.run store s = rule'.run store s := by
  unfold run at hends hends' ⊢
  rw [← h.runWithin_eq] at hends' ⊢
  exact runWithin_unique hends hends'

end Runs

section Steps

variable {rule rule' : Rule} {steps : List Step} {step : Step}

/-- Steps may change their places, and more may join where no run comes. -/
theorem agrees_of_subset (hname : rule.name = rule'.name) (hsub : rule.steps ⊆ rule'.steps)
    (hnew : ∀ step ∈ rule'.steps, step ∉ rule.steps → ¬rule.MayReach step.id) :
    rule.Agrees rule' := by
  refine ⟨hname, fun {id} hid => ?_⟩
  cases hstep : rule.step? id with
  | some step =>
    obtain rfl : step.id = id := by simpa using List.find?_some hstep
    exact (step?_of_mem (hsub (List.mem_of_find?_eq_some hstep))).symm
  | none =>
    cases hstep' : rule'.step? id with
    | none => rfl
    | some step =>
      obtain rfl : step.id = id := by simpa using List.find?_some hstep'
      by_cases hold : step ∈ rule.steps
      · rw [step?_of_mem hold] at hstep
        cases hstep
      · exact (hnew step (List.mem_of_find?_eq_some hstep') hold hid).elim

theorem agrees_of_perm (hname : rule.name = rule'.name) (hperm : rule'.steps.Perm rule.steps) :
    rule.Agrees rule' :=
  agrees_of_subset hname hperm.symm.subset fun _ hmem hnew => (hnew (hperm.subset hmem)).elim

theorem run_eq_of_perm (hname : rule'.name = rule.name) (hperm : rule'.steps.Perm rule.steps)
    (store : Store) : rule'.run store = rule.run store := by
  have hsize : rule'.size = rule.size := hperm.length_eq
  unfold run
  rw [(agrees_of_perm hname hperm.symm).runWithin_eq, hsize]

/-- Ids that hold the start, and with each step what it refers to, hold all that can be reached. -/
theorem MayReach.mem {id : String} {ids : List String} (hid : rule.MayReach id)
    (hstart : startId ∈ ids)
    (hclosed : ∀ step ∈ rule.steps, step.id ∈ ids → ∀ ref ∈ step.references, ref ∈ ids) :
    id ∈ ids := by
  induction hid with
  | start => exact hstart
  | @follow id ref step _ hstep href ih =>
    have hid : step.id = id := by simpa using List.find?_some hstep
    exact hclosed step (List.mem_of_find?_eq_some hstep) (hid ▸ ih) ref href

end Steps

/-- Rules that agree wherever runs of the first may come run alike at every depth, on every store
and from every session, and leave the same behind; so do runs without a bound to them, if they end.
Hence the order of the steps in a document, and steps that no run comes to, change no run. -/
theorem runWithin_eq_of_reach :
    (∀ rule rule' : Rule, rule.Agrees rule' → ∀ (store : Store) (s : Session),
      (∀ depth, rule.runWithin store depth s = rule'.runWithin store depth s) ∧
        ((rule.run store s).1 ≠ .unfinished → (rule'.run store s).1 ≠ .unfinished →
          rule.run store s = rule'.run store s)) ∧
      ∀ (fields fields' : Fields Json) (raws raws' : List Json) (fallback : Option String)
        (rule : Rule),
        Fields.find? fields' "name" = Fields.find? fields "name" →
        Fields.find? fields "steps" = some (.array raws) →
        Fields.find? fields' "steps" = some (.array raws') →
        ofJson (.object fields) fallback = .ok rule →
          (raws'.Perm raws → ∃ rule', ofJson (.object fields') fallback = .ok rule' ∧
            ∀ store, rule'.run store = rule.run store) ∧
          ∀ rule', raws ⊆ raws' → ofJson (.object fields') fallback = .ok rule' →
            (∀ step ∈ rule'.steps, step ∉ rule.steps → ¬rule.MayReach step.id) →
              ∀ store depth, rule'.runWithin store depth = rule.runWithin store depth := by
  refine ⟨fun rule rule' h store s => ⟨fun depth => ?_, h.run_eq⟩, ?_⟩
  · rw [h.runWithin_eq]
  · intro fields fields' raws raws' fallback rule hname hsteps hsteps' hrule
    refine ⟨fun hperm => ?_, fun rule' hsub hrule' hnew store depth => ?_⟩
    · obtain ⟨rule', hrule', hsame, hperm'⟩ := ofJson_of_perm hname hsteps hsteps' hperm hrule
      exact ⟨rule', hrule', run_eq_of_perm hsame hperm'⟩
    · obtain ⟨hsame, hsub'⟩ := subset_of_ofJson hname hsteps hsteps' hsub hrule hrule'
      exact (agrees_of_subset hsame hsub' hnew).runWithin_eq.symm

/-- A loop, a reference to a step that is missing, and an end. -/
def kept : Rule where
  name := "kept"
  steps := [⟨"start", some "pass", .loop "xs" "x" ["check"]⟩,
    ⟨"check", none, .branch ⟨"x", "==", .whole (.ofInt64 1)⟩ ["gone"] []⟩,
    ⟨"pass", none, .stop true none⟩]
  distinct := by decide
  starts := by decide

/-- The same steps the other way round, among others that lead to them. -/
def overgrown : Rule where
  name := "kept"
  steps := [⟨"weed", some "start", .leaveLoop⟩, ⟨"pass", none, .stop true none⟩,
    ⟨"check", none, .branch ⟨"x", "==", .whole (.ofInt64 1)⟩ ["gone"] []⟩,
    ⟨"start", some "pass", .loop "xs" "x" ["check"]⟩, ⟨"bramble", some "gone", .nextItem⟩]
  distinct := by decide
  starts := by decide

theorem runWithin_eq_of_reach_overgrown :
    kept.Agrees overgrown ∧ ∀ store s depth,
      kept.runWithin store depth s = overgrown.runWithin store depth s := by
  have hreach : ∀ id, kept.MayReach id → id ∈ ["start", "check", "gone", "pass"] :=
    fun id hid => hid.mem (by decide) (by decide)
  have hagrees : kept.Agrees overgrown := by
    refine agrees_of_subset rfl (by simp [kept, overgrown]) fun step hmem hnew hid => ?_
    have hold := hreach step.id hid
    simp only [overgrown, List.mem_cons, List.not_mem_nil, or_false] at hmem
    obtain rfl | rfl | rfl | rfl | rfl := hmem
    · revert hold
      decide
    · exact hnew (by simp [kept])
    · exact hnew (by simp [kept])
    · exact hnew (by simp [kept])
    · revert hold
      decide
  exact ⟨hagrees, fun store s => (runWithin_eq_of_reach.1 kept overgrown hagrees store s).1⟩

end Rule
end StageGate
