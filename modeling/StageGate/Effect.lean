import StageGate.Error

/-! Computations that change a state. They end with a result or an error, or do not end within their
allowance; the state survives in each case. -/
namespace StageGate

inductive Ending (α : Type)
  | done (a : α)
  | failed (e : Error)
  | unfinished

def Effect (σ α : Type) : Type :=
  σ → Ending α × σ

namespace Effect

variable {σ α β : Type}

def bind (x : Effect σ α) (f : α → Effect σ β) : Effect σ β := fun s =>
  match x s with
  | (.done a, s') => f a s'
  | (.failed e, s') => (.failed e, s')
  | (.unfinished, s') => (.unfinished, s')

instance : Monad (Effect σ) where
  pure a := fun s => (.done a, s)
  bind := bind

def state : Effect σ σ := fun s => (.done s, s)

def update (f : σ → σ) : Effect σ Unit := fun s => (.done (), f s)

def fail (e : Error) : Effect σ α := fun s => (.failed e, s)

def unfinished : Effect σ α := fun s => (.unfinished, s)

def lift : Except Error α → Effect σ α
  | .ok a => pure a
  | .error e => fail e

@[simp] theorem pure_apply (a : α) (s : σ) : (pure a : Effect σ α) s = (.done a, s) := rfl

@[simp] theorem state_apply (s : σ) : (state : Effect σ σ) s = (.done s, s) := rfl

@[simp] theorem update_apply (f : σ → σ) (s : σ) : update f s = (.done (), f s) := rfl

@[simp] theorem fail_apply (e : Error) (s : σ) : (fail e : Effect σ α) s = (.failed e, s) := rfl

@[simp] theorem unfinished_apply (s : σ) : (unfinished : Effect σ α) s = (.unfinished, s) := rfl

@[simp] theorem lift_ok (a : α) : (lift (.ok a) : Effect σ α) = pure a := rfl

@[simp] theorem lift_error (e : Error) : (lift (.error e) : Effect σ α) = fail e := rfl

@[simp] theorem lift_ok_bind (a : α) (f : α → Effect σ β) : (lift (.ok a) >>= f) = f a := rfl

@[simp] theorem lift_error_bind (e : Error) (f : α → Effect σ β) :
    (lift (.error e) >>= f) = fail e := rfl

theorem bind_apply (x : Effect σ α) (f : α → Effect σ β) (s : σ) :
    (x >>= f) s = match x s with
      | (.done a, s') => f a s'
      | (.failed e, s') => (.failed e, s')
      | (.unfinished, s') => (.unfinished, s') := rfl

theorem bind_eq_done_iff {x : Effect σ α} {f : α → Effect σ β} {s t : σ} {b : β} :
    (x >>= f) s = (.done b, t) ↔ ∃ a u, x s = (.done a, u) ∧ f a u = (.done b, t) := by
  rw [bind_apply]
  obtain ⟨ending, u⟩ := x s
  cases ending with
  | done a =>
    refine ⟨fun h => ⟨a, u, rfl, h⟩, ?_⟩
    rintro ⟨_, _, ⟨⟩, h⟩
    exact h
  | failed e => simp
  | unfinished => simp

end Effect
end StageGate
