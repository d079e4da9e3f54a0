import StageGate.Proofs.Run.Moves

/-! Runs of one rule from two sessions that its steps cannot tell apart. -/
namespace StageGate

open Effect Exec

/-- `R` survives each single thing that runs of the rule do on both sides, and its steps look up the
same on both; where signals are taken, the first side may come to a `stop` instead. -/
structure Carried (rule : Rule) (stop : Session → Prop) (R : Session → Session → Prop) : Prop where
  stop_push : ∀ s event, stop s → stop (s.push event)
  stop_say : ∀ s line, stop s → stop (s.say line)
  stop_write : ∀ s name v, stop s → stop (s.write name v)
  stop_take : ∀ s signal, stop s → stop (s.take signal)
  executed : ∀ s t step, R s t → R (s.push (.executed step)) (t.push (.executed step))
  bound : ∀ s t name item, R s t → R (s.push (.bound name item)) (t.push (.bound name item))
  entered : ∀ s t id, R s t → R (s.push (.entered id)) (t.push (.entered id))
  say : ∀ s t line, R s t → R (s.say line) (t.say line)
  write : ∀ s t name v, R s t → R (s.write name v) (t.write name v)
  take : ∀ s t signal, R s t → stop (s.take signal) ∨
    (s.vars.isRaised signal = t.vars.isRaised signal ∧ R (s.take signal) (t.take signal))
  reads : ∀ step ∈ rule.steps, ∀ path ∈ step.action.paths, ∀ s t, R s t →
    s.vars.resolve path = t.vars.resolve path

namespace Carried

variable {rule : Rule} {stop : Session → Prop} {R : Session → Session → Prop}
  {chain : String → Exec Signal}

theorem alike_assign (h : Carried rule stop R) (name : String) (v : Value) :
    Alike stop R (assign name v) (assign name v) := by
  refine ⟨fun s hs => ?_, fun s t hst => Or.inr ?_⟩
  · rw [assign_apply]
    split
    · exact hs
    · exact h.stop_write s name v hs
  · simp only [assign_apply]
    split
    · exact ⟨rfl, hst⟩
    · exact ⟨rfl, h.write s t name v hst⟩

theorem alike_record (h : Carried rule stop R) {event : Event}
    (hevent : ∀ s t, R s t → R (s.push event) (t.push event)) :
    Alike stop R (record event) (record event) :=
  alike_update (fun s => h.stop_push s event) hevent

theorem alike_say (h : Carried rule stop R) (speaker : Speaker) (level : Level)
    (message : String) :
    Alike stop R (Exec.say speaker level message) (Exec.say speaker level message) :=
  alike_update (fun s => h.stop_say s _) fun s t => h.say s t _

theorem alike_takeSignal (h : Carried rule stop R) (signal : String) :
    Alike stop R (takeSignal signal) (takeSignal signal) where
  stays s := h.stop_take s signal
  related s t hst := (h.take s t signal hst).imp_right fun ⟨hraised, hR⟩ =>
    ⟨congrArg Ending.done hraised, hR⟩

theorem alike_look {α : Type} {f : Variables → α}
    (hf : ∀ s t, R s t → f s.vars = f t.vars) : Alike stop R (look f) (look f) :=
  ⟨fun _ => id, fun s t hst => Or.inr ⟨congrArg Ending.done (hf s t hst), hst⟩⟩

theorem respects (h : Carried rule stop R) {step : Step} (hmem : step ∈ rule.steps) :
    Respects (Alike stop R) step.action where
  rel_pure := alike_pure
  rel_bind := Alike.bind
  rel_lift := alike_lift
  rel_look hf := alike_look fun s t hst =>
    hf s.vars t.vars fun path hpath => h.reads step hmem path hpath s t hst
  rel_assign name v _ := h.alike_assign name v
  rel_say _ _ := h.alike_say _ _ _
  rel_bound name item := h.alike_record fun s t => h.bound s t name item
  rel_entered id := h.alike_record fun s t => h.entered s t id
  rel_take := h.alike_takeSignal

theorem alike_runAction (h : Carried rule stop R) (store : Store)
    (hchain : ∀ id, Alike stop R (chain id) (chain id)) {step : Step} (hmem : step ∈ rule.steps) :
    Alike stop R (runAction store chain step.action) (runAction store chain step.action) :=
  (h.respects hmem).rel_runAction chain chain store fun id _ => hchain id

theorem alike_runChain (h : Carried rule stop R) (store : Store) (depth : Nat) (id : String) :
    Alike stop R (runChain rule store depth id) (runChain rule store depth id) := by
  induction depth generalizing id with
  | zero => exact alike_unfinished
  | succ depth ih =>
    refine rel_runChain_succ depth depth rfl (fun step => h.respects) ?_ fun _ _ ref _ => ih ref
    exact fun step _ => h.alike_record fun s t => h.executed s t step

theorem alike_runWithin (h : Carried rule stop R) (store : Store) (depth : Nat)
    (hverdict : ∀ s t, R s t → s.vars.verdict = t.vars.verdict) :
    Alike stop R (rule.runWithin store depth) (rule.runWithin store depth) := by
  refine (h.alike_runChain store depth _).bind fun signal => ?_
  refine (h.alike_takeSignal _).bind fun left => (h.alike_takeSignal _).bind fun skipped => ?_
  split
  · exact (h.alike_say _ _ _).bind fun _ => alike_look hverdict
  · exact alike_look hverdict

end Carried
end StageGate
