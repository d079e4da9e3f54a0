import StageGate.Effect

/-! How far a computation may move its state, whether it ends, how two of them go alike, and what
one leads to from where. -/
namespace StageGate.Effect

variable {σ α β : Type} {S R : σ → σ → Prop} {stop : σ → Prop}

/-- However the computation ends, `S` holds from the state before it to the state after it. -/
def Moves (S : σ → σ → Prop) (x : Effect σ α) : Prop :=
  ∀ s, S s (x s).2

theorem moves_pure (hrefl : ∀ s, S s s) (a : α) : Moves S (pure a : Effect σ α) := hrefl

theorem moves_lift (hrefl : ∀ s, S s s) (e : Except Error α) : Moves S (lift e : Effect σ α) := by
  intro s
  cases e <;> exact hrefl s

theorem moves_unfinished (hrefl : ∀ s, S s s) : Moves S (unfinished : Effect σ α) := hrefl

theorem moves_update {f : σ → σ} (h : ∀ s, S s (f s)) : Moves S (update f) := h

theorem Moves.bind {x : Effect σ α} {f : α → Effect σ β} (hx : Moves S x)
    (htrans : ∀ {s t u}, S s t → S t u → S s u) (hf : ∀ a, Moves S (f a)) :
    Moves S (x >>= f) := by
  intro s
  have hs := hx s
  rw [bind_apply]
  generalize x s = after at hs
  obtain ⟨ending, t⟩ := after
  cases ending with
  | done a => exact htrans hs (hf a t)
  | failed e => exact hs
  | unfinished => exact hs

/-- Every result is one of `P`. -/
def Yields (P : α → Prop) (x : Effect σ α) : Prop :=
  ∀ s a, (x s).1 = .done a → P a

theorem yields_pure {P : α → Prop} {a : α} (h : P a) : Yields P (pure a : Effect σ α) := by
  intro s b hb
  cases hb
  exact h

theorem Yields.bind {P : α → Prop} {Q : β → Prop} {x : Effect σ α} {f : α → Effect σ β}
    (hx : Yields P x) (hf : ∀ a, P a → Yields Q (f a)) : Yields Q (x >>= f) := by
  intro s b hb
  obtain ⟨a, t, hs, ht⟩ := bind_eq_done_iff.mp (Prod.ext hb rfl)
  exact hf a (hx s a (congrArg Prod.fst hs)) t b (congrArg Prod.fst ht)

/-- What follows decides about the result. -/
theorem yields_bind {P : β → Prop} {x : Effect σ α} {f : α → Effect σ β}
    (hf : ∀ a, Yields P (f a)) : Yields P (x >>= f) :=
  Yields.bind (P := fun _ => True) (fun _ _ _ => trivial) fun a _ => hf a

/-- From states that `R` relates, both end alike and in related states, unless the first comes to a
`stop` on its way. Once there, it does not leave it. -/
structure Alike (stop : σ → Prop) (R : σ → σ → Prop) (x y : Effect σ α) : Prop where
  stays : ∀ s, stop s → stop (x s).2
  related : ∀ s t, R s t → stop (x s).2 ∨ ((x s).1 = (y t).1 ∧ R (x s).2 (y t).2)

theorem alike_pure (a : α) : Alike stop R (pure a : Effect σ α) (pure a) :=
  ⟨fun _ => id, fun _ _ h => Or.inr ⟨rfl, h⟩⟩

theorem alike_fail (e : Error) : Alike stop R (fail e : Effect σ α) (fail e) :=
  ⟨fun _ => id, fun _ _ h => Or.inr ⟨rfl, h⟩⟩

theorem alike_lift (e : Except Error α) : Alike stop R (lift e : Effect σ α) (lift e) := by
  cases e with
  | ok a => exact alike_pure a
  | error e => exact alike_fail e

theorem alike_unfinished : Alike stop R (unfinished : Effect σ α) unfinished :=
  ⟨fun _ => id, fun _ _ h => Or.inr ⟨rfl, h⟩⟩

theorem alike_update {f : σ → σ} (hstop : ∀ s, stop s → stop (f s))
    (h : ∀ s t, R s t → R (f s) (f t)) : Alike stop R (update f) (update f) :=
  ⟨hstop, fun s t hst => Or.inr ⟨rfl, h s t hst⟩⟩

theorem Alike.bind {x y : Effect σ α} {f g : α → Effect σ β} (hx : Alike stop R x y)
    (hf : ∀ a, Alike stop R (f a) (g a)) : Alike stop R (x >>= f) (y >>= g) := by
  have onwards : ∀ s, stop (x s).2 → stop ((x >>= f) s).2 := by
    intro s hs
    rw [bind_apply]
    generalize x s = after at hs
    obtain ⟨ending, s'⟩ := after
    cases ending with
    | done a => exact (hf a).stays s' hs
    | failed e => exact hs
    | unfinished => exact hs
  refine ⟨fun s hs => onwards s (hx.stays s hs), fun s t hst => ?_⟩
  obtain hs | hs := hx.related s t hst
  · exact Or.inl (onwards s hs)
  · rw [bind_apply, bind_apply]
    generalize x s = after at hs
    generalize y t = after' at hs
    obtain ⟨ending, s'⟩ := after
    obtain ⟨ending', t'⟩ := after'
    obtain ⟨hending, hs⟩ := hs
    change ending = ending' at hending
    subst ending'
    cases ending with
    | done a => exact (hf a).related s' t' hs
    | failed e => exact Or.inr ⟨rfl, hs⟩
    | unfinished => exact Or.inr ⟨rfl, hs⟩

/-- Where there is nothing to stop at, both always end alike. -/
theorem Alike.endings {x y : Effect σ α} (h : Alike (fun _ => False) R x y) {s t : σ}
    (hst : R s t) : (x s).1 = (y t).1 ∧ R (x s).2 (y t).2 :=
  (h.related s t hst).resolve_left id

/-- The computation never runs out of allowance. -/
def Ends (x : Effect σ α) : Prop :=
  ∀ s, (x s).1 ≠ .unfinished

theorem Ends.bind {x : Effect σ α} {f : α → Effect σ β} (hx : Ends x) (hf : ∀ a, Ends (f a)) :
    Ends (x >>= f) := by
  intro s
  have hs := hx s
  rw [bind_apply]
  generalize x s = after at hs
  obtain ⟨ending, t⟩ := after
  cases ending with
  | done a => exact hf a t
  | failed e => nofun
  | unfinished => exact (hs rfl).elim

theorem Ends.cases {x : Effect σ α} (h : Ends x) (s : σ) :
    (∃ a t, x s = (.done a, t)) ∨ ∃ e t, x s = (.failed e, t) := by
  have hs := h s
  generalize x s = after at hs
  obtain ⟨ending, t⟩ := after
  cases ending with
  | done a => exact Or.inl ⟨a, t, rfl⟩
  | failed e => exact Or.inr ⟨e, t, rfl⟩
  | unfinished => exact (hs rfl).elim

/-- `y` does what `x` does, and may go on where `x` runs out of allowance. -/
def Extends (x y : Effect σ α) : Prop :=
  ∀ s, (x s).1 = .unfinished ∨ x s = y s

theorem extends_refl (x : Effect σ α) : Extends x x := fun _ => Or.inr rfl

theorem Extends.bind {x y : Effect σ α} {f g : α → Effect σ β} (hx : Extends x y)
    (hf : ∀ a, Extends (f a) (g a)) : Extends (x >>= f) (y >>= g) := by
  intro s
  rw [bind_apply, bind_apply]
  obtain hs | hs := hx s
  · generalize x s = after at hs
    obtain ⟨ending, t⟩ := after
    obtain rfl : ending = .unfinished := hs
    exact Or.inl rfl
  · rw [← hs]
    generalize x s = after
    obtain ⟨ending, t⟩ := after
    cases ending with
    | done a => exact hf a t
    | failed e => exact Or.inr rfl
    | unfinished => exact Or.inl rfl

theorem Extends.eq_of_ends {x y : Effect σ α} (h : Extends x y) {s : σ}
    (hs : (x s).1 ≠ .unfinished) : y s = x s :=
  ((h s).resolve_left hs).symm

section Triples

variable {P P' F : σ → Prop} {Q Q' : α → σ → Prop} {E : Option Error → σ → Prop}

/-- From a state of `P`, a result comes with a state of `Q`; without one, be it for an error or for
want of allowance, the state is one of `E`. -/
def Triple (P : σ → Prop) (x : Effect σ α) (Q : α → σ → Prop) (E : Option Error → σ → Prop) :
    Prop :=
  ∀ s, P s → match x s with
    | (.done a, t) => Q a t
    | (.failed e, t) => E (some e) t
    | (.unfinished, t) => E none t

theorem Triple.of_failed {x : Effect σ α} {s t : σ} {e : Error} (h : Triple P x Q E) (hs : P s)
    (hrun : x s = (.failed e, t)) : E (some e) t := by
  have hafter := h s hs
  rwa [hrun] at hafter

theorem triple_pure {a : α} (h : ∀ s, P s → Q a s) : Triple P (pure a) Q E := h

theorem triple_fail {e : Error} (h : ∀ s, P s → E (some e) s) :
    Triple P (fail e : Effect σ α) Q E := h

theorem triple_unfinished (h : ∀ s, P s → E none s) :
    Triple P (unfinished : Effect σ α) Q E := h

theorem triple_lift {r : Except Error α} (hok : ∀ a, r = .ok a → ∀ s, P s → Q a s)
    (herror : ∀ e, r = .error e → ∀ s, P s → E (some e) s) : Triple P (lift r) Q E := by
  cases r with
  | ok a => exact hok a rfl
  | error e => exact herror e rfl

theorem triple_update {f : σ → σ} {Q : Unit → σ → Prop} (h : ∀ s, P s → Q () (f s)) :
    Triple P (update f) Q E := h

theorem Triple.bind {R : α → σ → Prop} {Q : β → σ → Prop} {x : Effect σ α}
    {f : α → Effect σ β} (hx : Triple P x R E) (hf : ∀ a, Triple (R a) (f a) Q E) :
    Triple P (x >>= f) Q E := by
  intro s hs
  have hafter := hx s hs
  rw [bind_apply]
  generalize x s = after at hafter
  obtain ⟨ending, t⟩ := after
  cases ending with
  | done a => exact hf a t hafter
  | failed e => exact hafter
  | unfinished => exact hafter

theorem Triple.weaken {x : Effect σ α} (h : Triple P x Q E) (hP : ∀ s, P' s → P s)
    (hQ : ∀ a s, Q a s → Q' a s) : Triple P' x Q' E := by
  intro s hs
  have hafter := h s (hP s hs)
  generalize x s = after at hafter
  obtain ⟨ending, t⟩ := after
  cases ending with
  | done a => exact hQ a t hafter
  | failed e => exact hafter
  | unfinished => exact hafter

theorem Triple.narrow {x : Effect σ α} (h : Triple P x Q E) (hP : ∀ s, P' s → P s) :
    Triple P' x Q E := fun s hs => h s (hP s hs)

theorem triple_of_fact {p : Prop} {x : Effect σ α} (h : p → Triple P x Q E) :
    Triple (fun s => p ∧ P s) x Q E := fun s hs => h hs.1 s hs.2

theorem triple_of_imp {p : Prop} {x : Effect σ α} (hp : ∀ s, P s → p) (h : p → Triple P x Q E) :
    Triple P x Q E := fun s hs => h (hp s hs) s hs

/-- What holds of each ending with its state, told of a run as a whole. -/
theorem Triple.outcome {F : Ending α → σ → Prop} {x : Effect σ α} {s : σ}
    (h : Triple P x (fun a => F (.done a)) fun e => F (e.elim .unfinished .failed)) (hs : P s) :
    F (x s).1 (x s).2 := by
  have hafter := h s hs
  generalize x s = after at hafter
  obtain ⟨ending, t⟩ := after
  cases ending with
  | done a => exact hafter
  | failed e => exact hafter
  | unfinished => exact hafter

/-- What the computation leaves as it is may be told along with the rest. -/
theorem Triple.frame {x : Effect σ α} (h : Triple P x Q E) (hF : ∀ s, F s → F (x s).2) :
    Triple (fun s => P s ∧ F s) x (fun a s => Q a s ∧ F s) E := by
  intro s hs
  have hafter := h s hs.1
  have hframe := hF s hs.2
  generalize x s = after at hafter hframe
  obtain ⟨ending, t⟩ := after
  cases ending with
  | done a => exact ⟨hafter, hframe⟩
  | failed e => exact hafter
  | unfinished => exact hafter

end Triples

end StageGate.Effect
