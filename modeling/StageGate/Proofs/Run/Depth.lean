import Mathlib.Data.List.Count
import Mathlib.Order.Nat
import StageGate.Proofs.Run.Moves

/-! How deep runs go. Runs that end are the same however much deeper they might have gone, and runs
of a rule without circles end before they are deeper than the rule has steps. -/
namespace StageGate

open Effect Exec

theorem ends_assign (name : String) (v : Value) : Ends (assign name v) := by
  intro s
  rw [assign_apply]
  split <;> nofun

theorem ends_lift {α : Type} (r : Except Error α) : Ends (lift r : Exec α) := by
  cases r <;> nofun

/-- Besides the chains that it starts, an action has nothing to it that might not end. -/
theorem respects_ends (action : Action) : Respects (fun x _ => Ends x) action where
  rel_pure _ := nofun
  rel_bind := Ends.bind
  rel_lift := ends_lift
  rel_look _ := nofun
  rel_assign name v _ := ends_assign name v
  rel_say _ _ := nofun
  rel_bound _ _ := nofun
  rel_entered _ := nofun
  rel_take _ := nofun

theorem respects_extends (action : Action) : Respects Extends action where
  rel_pure _ := extends_refl _
  rel_bind := Extends.bind
  rel_lift _ := extends_refl _
  rel_look _ := extends_refl _
  rel_assign _ _ _ := extends_refl _
  rel_say _ _ := extends_refl _
  rel_bound _ _ := extends_refl _
  rel_entered _ := extends_refl _
  rel_take _ := extends_refl _

section Deeper

variable (rule : Rule) (store : Store) {depth depth' : Nat}

theorem extends_runChain (h : depth ≤ depth') (id : String) :
    Extends (runChain rule store depth id) (runChain rule store depth' id) := by
  induction depth generalizing depth' id with
  | zero => exact fun _ => Or.inl rfl
  | succ depth ih =>
    cases depth' with
    | zero => exact absurd h (Nat.not_succ_le_zero depth)
    | succ depth' =>
      have hle := Nat.le_of_succ_le_succ h
      exact rel_runChain_succ depth depth' rfl (fun step _ => respects_extends step.action)
        (fun _ _ => extends_refl _) fun _ _ ref _ => ih hle ref

/-- Who is allowed to go deeper gets the same as far as the others come. -/
theorem extends_runWithin (h : depth ≤ depth') :
    Extends (rule.runWithin store depth) (rule.runWithin store depth') :=
  (extends_runChain rule store h startId).bind fun _ => extends_refl _

theorem runWith_of_le {key : String} {v : Value} {journal : Journal} {allowance allowance' : Nat}
    (h : allowance ≤ allowance')
    (hends : (rule.runWith store key v journal allowance).1 ≠ .unfinished) :
    rule.runWith store key v journal allowance' = rule.runWith store key v journal allowance := by
  unfold Rule.runWith at hends ⊢
  split
  · next vars hset =>
    rw [hset] at hends
    exact (extends_runWithin rule store (Nat.add_le_add_left h rule.size)).eq_of_ends hends
  · rfl

theorem runWith_ends_of_le {key : String} {v : Value} {journal : Journal}
    {allowance allowance' : Nat} (h : allowance ≤ allowance')
    (hends : (rule.runWith store key v journal allowance).1 ≠ .unfinished) :
    (rule.runWith store key v journal allowance').1 ≠ .unfinished := by
  rw [runWith_of_le rule store h hends]
  exact hends

end Deeper

section Ranks

variable {α : Type*} [Preorder α] {rule : Rule} {rank : String → α}

/-- Ranks go down from each step to the steps that it refers to. -/
def Rule.Descends (rule : Rule) (rank : String → α) : Prop :=
  ∀ step ∈ rule.steps, ∀ target ∈ rule.steps, target.id ∈ step.references →
    rank target.id < rank step.id

variable [DecidableLT α]

instance : Decidable (rule.Descends rank) :=
  inferInstanceAs (Decidable (∀ step ∈ rule.steps, ∀ target ∈ rule.steps,
    target.id ∈ step.references → rank target.id < rank step.id))

/-- How many steps rank below an id. -/
def Rule.below (rule : Rule) (rank : String → α) (id : String) : Nat :=
  rule.steps.countP fun step => rank step.id < rank id

theorem Rule.below_lt_size (rank : String → α) {step : Step} (hmem : step ∈ rule.steps) :
    rule.below rank step.id < rule.size :=
  List.countP_lt_length_iff.mpr ⟨step, hmem, by simp⟩

theorem Rule.below_lt_below {step : Step} (hmem : step ∈ rule.steps) {id : String}
    (h : rank step.id < rank id) : rule.below rank step.id < rule.below rank id := by
  -- the step itself ranks below `id`, and not below itself
  let lower := rule.steps.filter fun other => rank other.id < rank id
  calc rule.below rank step.id
      = lower.countP fun other => rank other.id < rank step.id := by
        rw [List.countP_filter]
        refine List.countP_congr fun other _ => ?_
        simpa using fun hother => lt_trans hother h
    _ < lower.length :=
        List.countP_lt_length_iff.mpr ⟨step, List.mem_filter.mpr ⟨hmem, by simpa using h⟩, by simp⟩
    _ = rule.below rank id := List.countP_eq_length_filter.symm

/-- Where ranks go down, a chain goes at most one step deeper than there are steps below its first,
and then finds a step or none. -/
theorem ends_runChain (hrank : rule.Descends rank) (store : Store) {depth : Nat} {id : String}
    (hdepth : 0 < depth)
    (hbelow : ∀ step, rule.step id = .ok step → rule.below rank step.id + 1 < depth) :
    Ends (runChain rule store depth id) := by
  induction depth generalizing id with
  | zero => exact absurd hdepth (Nat.lt_irrefl 0)
  | succ depth ih =>
    have hrespects : ∀ step ∈ rule.steps, Respects (fun x _ => Ends x) step.action :=
      fun step _ => respects_ends step.action
    refine rel_runChain_succ depth depth rfl hrespects (fun _ _ => nofun) ?_
    intro step hstep ref href
    -- a reference to no step needs a level as well, hence the one to spare in `hbelow`
    have hstart := hbelow step hstep
    refine ih (by omega) fun target htarget => ?_
    have hmem := Rule.mem_of_step htarget
    obtain rfl := Rule.id_of_step htarget
    have hlower := Rule.below_lt_below hmem (hrank step (Rule.mem_of_step hstep) target hmem href)
    omega

/-- Whatever it is run on and whatever it does there, a rule without circles ends, and the allowance
for circles makes no difference to it. -/
theorem Rule.run_ends (hrank : rule.Descends rank) (store : Store) (s : Session) :
    ((∃ verdict t, rule.run store s = (.done verdict, t)) ∨
        ∃ e t, rule.run store s = (.failed e, t)) ∧
      ∀ depth, rule.size < depth → rule.runWithin store depth s = rule.run store s := by
  have hends : ∀ depth, rule.size < depth → Ends (rule.runWithin store depth) := by
    intro depth hdepth
    have hchain : Ends (runChain rule store depth startId) := by
      refine ends_runChain hrank store (Nat.zero_lt_of_lt hdepth) fun step hstep => ?_
      have hlower := below_lt_size rank (mem_of_step hstep)
      omega
    refine hchain.bind fun signal => Ends.bind nofun fun left => Ends.bind nofun fun skipped => ?_
    split
    · exact Ends.bind nofun fun _ => nofun
    · nofun
  have hdeep : rule.size < rule.size + circleAllowance := Nat.lt_add_of_pos_right (by decide)
  have hsame : ∀ depth, rule.size < depth →
      rule.runWithin store depth s = rule.runWithin store (rule.size + 1) s := fun depth hdepth =>
    (extends_runWithin rule store hdepth).eq_of_ends (hends _ (Nat.lt_succ_self _) s)
  exact ⟨(hends _ hdeep).cases s, fun depth hdepth => (hsame depth hdepth).trans (hsame _ hdeep).symm⟩

end Ranks

/-- The body of the loop gives its source more items, and refers to a step that is missing. -/
def regrowing : Rule where
  name := "regrowing"
  steps := [⟨"start", none, .loop "xs" "x" ["grow"]⟩,
    ⟨"grow", some "check", .assign "xs" (.string "@more")⟩,
    ⟨"check", none, .branch ⟨"x", "==", .whole (.ofInt64 3)⟩ ["gone"] []⟩]
  distinct := by decide
  starts := by decide

/-- The place of a step of `regrowing` counted from the end. -/
def regrowingRank (id : String) : Nat :=
  if id = "start" then 2 else if id = "grow" then 1 else 0

def regrowingStart : Session where
  vars := (Variables.initial.put "xs" (.list [.int 1, .int 2])).put "more"
    (.list [.int 1, .int 2, .int 3])
  journal := []
  events := []

theorem run_ends_regrowing :
    regrowing.Descends regrowingRank ∧
      ((∃ verdict t, regrowing.run .empty regrowingStart = (.done verdict, t)) ∨
        ∃ e t, regrowing.run .empty regrowingStart = (.failed e, t)) ∧
      regrowing.runWithin .empty 4 regrowingStart = regrowing.run .empty regrowingStart := by
  have hrank : regrowing.Descends regrowingRank := by decide
  obtain ⟨hends, hdeeper⟩ := Rule.run_ends hrank .empty regrowingStart
  exact ⟨hrank, hends, hdeeper 4 (by decide)⟩

end StageGate
