import StageGate.Proofs.Effect
import StageGate.Proofs.Run.Respects

/-! What holds of whole runs because it holds of each single thing a run does. -/
namespace StageGate

open Effect Exec

/-- `S` survives each single thing that a run of the rule does. -/
structure Closed (rule : Rule) (S : Session → Session → Prop) : Prop where
  refl : ∀ s, S s s
  trans : ∀ {s t u}, S s t → S t u → S s u
  executed : ∀ s, ∀ step ∈ rule.steps, S s (s.push (.executed step))
  bound : ∀ s name item, S s (s.push (.bound name item))
  entered : ∀ s id, S s (s.push (.entered id))
  say : ∀ s line, S s (s.say line)
  write : ∀ s name v, rule.Writes name v → S s (s.write name v)
  take : ∀ s signal, S s (s.take signal)

namespace Closed

variable {rule : Rule} {S : Session → Session → Prop}

theorem bind {α β : Type} (h : Closed rule S) {x : Exec α} {f : α → Exec β} (hx : Moves S x)
    (hf : ∀ a, Moves S (f a)) : Moves S (x >>= f) :=
  hx.bind h.trans hf

theorem moves_assign (h : Closed rule S) {name : String} {v : Value} (hw : rule.Writes name v) :
    Moves S (assign name v) := by
  intro s
  rw [assign_apply]
  split
  · exact h.refl s
  · exact h.write s name v hw

theorem respects (h : Closed rule S) {action : Action}
    (hw : ∀ name v, action.Writes name v → rule.Writes name v) :
    Respects (fun x _ => Moves S x) action where
  rel_pure := moves_pure h.refl
  rel_bind := h.bind
  rel_lift := moves_lift h.refl
  rel_look _ := h.refl
  rel_assign _ _ hwrites := h.moves_assign (hw _ _ hwrites)
  rel_say _ _ := moves_update fun s => h.say s _
  rel_bound name item := moves_update fun s => h.bound s name item
  rel_entered id := moves_update fun s => h.entered s id
  rel_take signal := fun s => h.take s signal

/-- Whatever one thing after another keeps, a chain keeps, however deep it goes. -/
theorem moves_runChain (h : Closed rule S) (store : Store) (depth : Nat) (id : String) :
    Moves S (runChain rule store depth id) := by
  induction depth generalizing id with
  | zero => exact moves_unfinished h.refl
  | succ depth ih =>
    have hrespects : ∀ step ∈ rule.steps, Respects (fun x _ => Moves S x) step.action :=
      fun step hmem => h.respects fun _ _ hwrites => ⟨step, hmem, hwrites⟩
    refine rel_runChain_succ depth depth rfl hrespects (fun step hmem => ?_) fun _ _ ref _ => ih ref
    exact moves_update fun s => h.executed s step hmem

end Closed

/-- Events are only ever added. -/
theorem closed_suffix (rule : Rule) : Closed rule fun s t => s.events <:+ t.events where
  refl _ := List.suffix_rfl
  trans := List.IsSuffix.trans
  executed _ _ _ := List.suffix_cons _ _
  bound _ _ _ := List.suffix_cons _ _
  entered _ _ := List.suffix_cons _ _
  say _ _ := List.suffix_rfl
  write _ _ _ _ := List.suffix_cons _ _
  take _ _ := List.suffix_cons _ _

end StageGate
