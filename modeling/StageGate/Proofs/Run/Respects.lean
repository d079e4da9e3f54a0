import StageGate.Proofs.Run.Paths
import StageGate.Proofs.Run.Unfolding

/-! Relations between computations that go through actions: they hold between two runs of an action
if they hold between the chains that it starts. -/
namespace StageGate

open Effect Exec

/-- `f` makes no difference between variables that agree on the paths. -/
def LooksUp {α : Type} (paths : List String) (f : Variables → α) : Prop :=
  ∀ vars vars' : Variables, (∀ path ∈ paths, vars.resolve path = vars'.resolve path) →
    f vars = f vars'

/-- The relation goes through everything that the action does besides starting chains. -/
structure Respects (Rel : ∀ {α : Type}, Exec α → Exec α → Prop) (action : Action) : Prop where
  rel_pure : ∀ {α : Type} (a : α), Rel (pure a) (pure a)
  rel_bind : ∀ {α β : Type} {x y : Exec α} {f g : α → Exec β}, Rel x y → (∀ a, Rel (f a) (g a)) →
    Rel (x >>= f) (y >>= g)
  rel_lift : ∀ {α : Type} (r : Except Error α), Rel (lift r) (lift r)
  rel_look : ∀ {α : Type} {f : Variables → α}, LooksUp action.paths f → Rel (look f) (look f)
  rel_assign : ∀ name v, action.Writes name v → Rel (assign name v) (assign name v)
  rel_say : ∀ level message, Rel (say .rule level message) (say .rule level message)
  rel_bound : ∀ name item, Rel (record (.bound name item)) (record (.bound name item))
  rel_entered : ∀ id, Rel (record (.entered id)) (record (.entered id))
  rel_take : ∀ signal, Rel (takeSignal signal) (takeSignal signal)

namespace Respects

variable {Rel : ∀ {α : Type}, Exec α → Exec α → Prop} {action : Action}
  (chain chain' : String → Exec Signal)

theorem rel_runBranch (h : Respects Rel action) {ids : List String}
    (hchain : ∀ id ∈ ids, Rel (chain id) (chain' id)) :
    Rel (runBranch chain ids) (runBranch chain' ids) := by
  induction ids with
  | nil => exact h.rel_pure _
  | cons id ids ih =>
    obtain ⟨hid, hids⟩ := List.forall_mem_cons.mp hchain
    refine h.rel_bind hid fun signal => ?_
    split
    · exact h.rel_pure _
    · exact ih hids

theorem rel_runTurn (h : Respects Rel action) {id : String} (hchain : Rel (chain id) (chain' id)) :
    Rel (runTurn chain id) (runTurn chain' id) := by
  refine h.rel_bind (h.rel_entered id) fun _ => ?_
  refine h.rel_bind hchain fun signal => ?_
  refine h.rel_bind (h.rel_take _) fun left => ?_
  exact h.rel_bind (h.rel_take _) fun skipped => h.rel_pure _

theorem rel_runBody (h : Respects Rel action) {ids : List String}
    (hchain : ∀ id ∈ ids, Rel (chain id) (chain' id)) :
    Rel (runBody chain ids) (runBody chain' ids) := by
  induction ids with
  | nil => exact h.rel_pure _
  | cons id ids ih =>
    obtain ⟨hid, hids⟩ := List.forall_mem_cons.mp hchain
    rw [runBody_cons, runBody_cons]
    refine h.rel_bind (h.rel_runTurn chain chain' hid) fun signal => ?_
    split
    · exact ih hids
    · exact h.rel_pure _

theorem rel_runItems (h : Respects Rel action) {name : String} {body : List String}
    (hname : ∀ v, action.Writes name v) (hchain : ∀ id ∈ body, Rel (chain id) (chain' id))
    (items : List Value) :
    Rel (runItems chain name body items) (runItems chain' name body items) := by
  induction items with
  | nil => exact h.rel_pure _
  | cons item items ih =>
    rw [runItems_cons, runItems_cons]
    refine h.rel_bind (h.rel_assign name item (hname item)) fun _ => ?_
    refine h.rel_bind (h.rel_bound name item) fun _ => ?_
    refine h.rel_bind (h.rel_runBody chain chain' hchain) fun signal => ?_
    split
    · exact h.rel_pure _
    split
    · exact h.rel_pure _
    · exact ih

theorem rel_runAction (h : Respects Rel action) (store : Store)
    (hchain : ∀ id ∈ action.stepIds, Rel (chain id) (chain' id)) :
    Rel (runAction store chain action) (runAction store chain' action) := by
  have stored : ∀ name, action.written? = some name → ∀ v : Value,
      Rel (assign name v >>= fun _ => pure Signal.proceed)
        (assign name v >>= fun _ => pure Signal.proceed) :=
    fun name hname v => h.rel_bind (h.rel_assign name v (.target hname v)) fun _ => h.rel_pure _
  cases action with
  | fetch query =>
    refine h.rel_bind (h.rel_look fun _ _ hpaths => Query.resolve_congr hpaths) fun filter => ?_
    exact h.rel_bind (h.rel_lift _) fun found => stored _ rfl _
  | fetchList query =>
    refine h.rel_bind (h.rel_look fun _ _ hpaths => Query.resolve_congr hpaths) fun filter => ?_
    exact h.rel_bind (h.rel_lift _) fun found => stored _ rfl _
  | assign name raw =>
    refine h.rel_bind (h.rel_look fun _ _ hpaths => ?_) fun v => stored name rfl v
    exact assignedValue_congr fun path hpath => hpaths path (by simp [Action.paths, hpath])
  | measure startDate endDate unit storeAs =>
    refine h.rel_bind (h.rel_look fun _ _ hpaths => ?_) fun span => ?_
    · exact measuredSpan_congr unit (hpaths startDate (by simp [Action.paths]))
        (hpaths endDate (by simp [Action.paths]))
    · exact h.rel_bind (h.rel_lift _) fun v => stored storeAs rfl v
  | branch condition yes no =>
    refine h.rel_bind (h.rel_look fun _ _ hpaths => ?_) fun test => ?_
    · exact Condition.holds_congr (hpaths _ (by simp [Action.paths])) fun path hpath =>
        hpaths path (by simp [Action.paths, hpath])
    · refine h.rel_bind (h.rel_lift _) fun holds => ?_
      refine h.rel_runBranch chain chain' fun id hid => hchain id ?_
      cases holds with
      | true => exact List.mem_append_left no hid
      | false => exact List.mem_append_right yes hid
  | loop source item body =>
    refine h.rel_bind (h.rel_look fun _ _ hpaths => hpaths source (by simp [Action.paths]))
      fun found => ?_
    cases found with
    | list items => exact h.rel_runItems chain chain' (fun v => .target rfl v) hchain items
    | _ => exact h.rel_pure _
  | leaveLoop => exact h.rel_bind (h.rel_assign _ _ .leaveLoop) fun _ => h.rel_pure _
  | nextItem => exact h.rel_bind (h.rel_assign _ _ .nextItem) fun _ => h.rel_pure _
  | stop status reason =>
    refine h.rel_bind (h.rel_assign _ _ (.status status reason)) fun _ => ?_
    exact h.rel_bind (h.rel_assign _ _ (.reason status reason)) fun _ => h.rel_pure _
  | log message level =>
    refine h.rel_bind (h.rel_look fun _ _ hpaths => Message.render_congr hpaths) fun text => ?_
    exact h.rel_bind (h.rel_say _ _) fun _ => h.rel_pure _

end Respects

/-- Chains of two rules that have the same step here are related if those that go on from it are. -/
theorem rel_runChain_succ {Rel : ∀ {α : Type}, Exec α → Exec α → Prop} {rule rule' : Rule}
    {store : Store} (depth depth' : Nat) {id : String} (hsame : rule.step id = rule'.step id)
    (hrespects : ∀ step ∈ rule.steps, Respects Rel step.action)
    (hexecuted : ∀ step ∈ rule.steps,
      Rel (record (.executed step)) (record (.executed step)))
    (hdeeper : ∀ step, rule.step id = .ok step → ∀ ref ∈ step.references,
      Rel (runChain rule store depth ref) (runChain rule' store depth' ref)) :
    Rel (runChain rule store (depth + 1) id) (runChain rule' store (depth' + 1) id) := by
  rw [runChain_succ, runChain_succ, ← hsame]
  cases hstep : rule.step id with
  | error e =>
    obtain ⟨first, hfirst, -⟩ := List.mem_map.mp rule.starts
    exact (hrespects first hfirst).rel_lift (Except.error e : Except Error Signal)
  | ok step =>
    have hmem := Rule.mem_of_step hstep
    have h := hrespects step hmem
    rw [lift_ok_bind, lift_ok_bind]
    refine h.rel_bind (hexecuted step hmem) fun _ => ?_
    have haction := h.rel_runAction (runChain rule store depth) (runChain rule' store depth') store
      fun ref href => hdeeper step hstep ref (List.mem_append_right _ href)
    refine h.rel_bind haction fun signal => ?_
    split
    · cases hnext : step.next with
      | none => exact h.rel_pure _
      | some next => exact hdeeper step hstep next (by simp [Step.references, hnext])
    · exact h.rel_pure _

end StageGate
