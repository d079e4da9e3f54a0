import StageGate.Proofs.StateOrder
import StageGate.Proofs.Text.Blank

/-! Which lists of states are accepted, and that accepted ones are chains: from each state, the
successors lead through all that are behind it and end at the terminal one. -/
namespace StageGate.StateOrder

variable {order : StateOrder} {name : String} {names seen rest states : List String}
  {e : Error} {n : Nat}

theorem firstFault_eq_none_iff :
    firstFault seen names = none ↔ "" ∉ names ∧ names.Nodup ∧ ∀ name ∈ names, name ∉ seen := by
  constructor
  · intro h
    refine ⟨?_, distinct_of_firstFault h⟩
    induction names generalizing seen with
    | nil => simp
    | cons name names ih =>
      simp only [firstFault] at h
      split at h
      · cases h
      · next hname =>
        split at h
        · cases h
        · rintro (_ | ⟨_, hmem⟩)
          · exact hname rfl
          · exact ih h hmem
  · rintro ⟨hblank, hdistinct, hfresh⟩
    induction names generalizing seen with
    | nil => rfl
    | cons name names ih =>
      rw [List.mem_cons, not_or] at hblank
      obtain ⟨hnew, hdistinct⟩ := List.nodup_cons.mp hdistinct
      obtain ⟨hfirst, hfresh⟩ := List.forall_mem_cons.mp hfresh
      rw [firstFault, if_neg (Ne.symm hblank.1), if_neg hfirst]
      refine ih hblank.2 hdistinct fun other hmem => ?_
      rw [List.mem_cons, not_or]
      refine ⟨?_, hfresh other hmem⟩
      rintro rfl
      exact hnew hmem

theorem ofList_eq_ok_iff :
    ofList states = .ok order ↔ order.names = states.map Text.trim ∧ "" ∉ order.names := by
  constructor
  · intro h
    have hnames := names_of_ofList h
    refine ⟨hnames, ?_⟩
    unfold ofList at h
    split at h
    · cases h
    · next hfault =>
      rw [hnames]
      exact (firstFault_eq_none_iff.mp hfault).1
  · rintro ⟨hnames, hblank⟩
    have hfault : firstFault [] (states.map Text.trim) = none := by
      rw [← hnames]
      exact firstFault_eq_none_iff.mpr ⟨hblank, order.distinct, fun _ _ => List.not_mem_nil⟩
    unfold ofList
    split
    · next hsome =>
      rw [hfault] at hsome
      cases hsome
    · rw [dif_pos (hnames ▸ order.nonempty)]
      cases order
      cases hnames
      rfl

theorem exists_ofList_iff : (∃ order, ofList states = .ok order) ↔
    states ≠ [] ∧ "" ∉ states.map Text.trim ∧ (states.map Text.trim).Nodup := by
  constructor
  · rintro ⟨order, h⟩
    obtain ⟨hnames, hblank⟩ := ofList_eq_ok_iff.mp h
    have hnonempty := order.nonempty
    have hdistinct := order.distinct
    rw [hnames] at hblank hnonempty hdistinct
    exact ⟨by simpa using hnonempty, hblank, hdistinct⟩
  · rintro ⟨hnonempty, hblank, hdistinct⟩
    exact ⟨⟨states.map Text.trim, by simpa using hnonempty, hdistinct⟩,
      ofList_eq_ok_iff.mpr ⟨rfl, hblank⟩⟩

theorem known_or_unknown (order : StateOrder) (name : String) :
    (∃ n : Nat, order.names[n]? = some name) ∨ name ∉ order.names := by
  rw [← List.mem_iff_getElem?]
  exact em _

theorem terminal_mem (order : StateOrder) : order.terminal ∈ order.names :=
  List.getLast_mem order.nonempty

theorem isTerminal_eq_true_iff : order.isTerminal name = .ok true ↔ name = order.terminal := by
  obtain ⟨n, hn⟩ | hunknown := order.known_or_unknown name
  · rw [isTerminal_eq hn, Except.ok.injEq, decide_eq_true_iff, eq_terminal_iff hn]
  · rw [isTerminal_unknown hunknown]
    refine iff_of_false (by simp) ?_
    rintro rfl
    exact hunknown order.terminal_mem

theorem successor_eq_none_iff : order.successor name = .ok none ↔ name = order.terminal := by
  obtain ⟨n, hn⟩ | hunknown := order.known_or_unknown name
  · have hlt := (List.getElem?_eq_some_iff.mp hn).1
    rw [successor_eq hn, Except.ok.injEq, List.getElem?_eq_none_iff, eq_terminal_iff hn]
    omega
  · rw [successor_unknown hunknown]
    refine iff_of_false (by simp) ?_
    rintro rfl
    exact hunknown order.terminal_mem

theorem isTerminal_eq_error_iff :
    order.isTerminal name = .error e ↔ e = .unknownState name ∧ name ∉ order.names := by
  obtain ⟨n, hn⟩ | hunknown := order.known_or_unknown name
  · simp [isTerminal_eq hn, List.mem_of_getElem? hn]
  · simp [isTerminal_unknown hunknown, hunknown, eq_comm]

theorem successor_eq_error_iff :
    order.successor name = .error e ↔ e = .unknownState name ∧ name ∉ order.names := by
  obtain ⟨n, hn⟩ | hunknown := order.known_or_unknown name
  · simp [successor_eq hn, List.mem_of_getElem? hn]
  · simp [successor_unknown hunknown, hunknown, eq_comm]

/-- Following successors from a state gives the listed ones, and then there is none. -/
inductive Trail (order : StateOrder) : String → List String → Prop
  | last {name : String} (h : order.successor name = .ok none) : Trail order name []
  | step {name next : String} {rest : List String} (h : order.successor name = .ok (some next))
    (hrest : Trail order next rest) : Trail order name (next :: rest)

theorem Trail.known (h : order.Trail name rest) : ∃ n : Nat, order.names[n]? = some name := by
  refine (order.known_or_unknown name).resolve_right fun hunknown => ?_
  cases h with
  | last h => cases (successor_unknown hunknown).symm.trans h
  | step h => cases (successor_unknown hunknown).symm.trans h

/-- The positions of the states are what a trail goes by. -/
theorem trail_iff (h : order.names[n]? = some name) :
    order.Trail name rest ↔ rest = order.names.drop (n + 1) := by
  constructor
  · intro htrail
    induction htrail generalizing n with
    | last hlast =>
      rw [successor_eq h, Except.ok.injEq] at hlast
      exact (List.drop_eq_nil_of_le (List.getElem?_eq_none_iff.mp hlast)).symm
    | step hnext _ ih =>
      rw [successor_eq h, Except.ok.injEq] at hnext
      obtain ⟨hn, rfl⟩ := List.getElem?_eq_some_iff.mp hnext
      rw [ih hnext, List.drop_eq_getElem_cons hn]
  · rintro rfl
    generalize hrest : order.names.drop (n + 1) = rest
    induction rest generalizing n name with
    | nil =>
      refine .last ?_
      rw [successor_eq h, List.getElem?_eq_none_iff.mpr (List.drop_eq_nil_iff.mp hrest)]
    | cons next rest ih =>
      have hnext : order.names[n + 1]? = some next := by
        rw [← List.head?_drop, hrest, List.head?_cons]
      refine .step (by rw [successor_eq h, hnext]) (ih hnext ?_)
      rw [← List.tail_drop, hrest, List.tail_cons]

/-- With the state that it starts from, a trail is a last part of the states. -/
theorem Trail.suffix (h : order.Trail name rest) : name :: rest <:+ order.names := by
  obtain ⟨n, hn⟩ := h.known
  rw [(trail_iff hn).mp h, ← road_eq_cons hn, road_eq_drop hn]
  exact List.drop_suffix n order.names

theorem Trail.getLast?_eq (h : order.Trail name rest) :
    (name :: rest).getLast? = some order.terminal := by
  induction h with
  | last h => rw [List.getLast?_singleton, successor_eq_none_iff.mp h]
  | step _ _ ih => rw [List.getLast?_cons_cons, ih]

/-- From each state, the successors lead through the states behind it and no others. They never
come back to a state, and end at the terminal one. -/
structure IsChain (order : StateOrder) : Prop where
  trail_iff : ∀ (n : Nat) name rest, order.names[n]? = some name →
    (order.Trail name rest ↔ rest = order.names.drop (n + 1))
  nodup : ∀ name rest, order.Trail name rest → (name :: rest).Nodup
  ends : ∀ name rest, order.Trail name rest → (name :: rest).getLast? = some order.terminal
  isTerminal_iff : ∀ name, order.isTerminal name = .ok true ↔ order.successor name = .ok none
  terminal_iff : ∀ name, order.successor name = .ok none ↔ name = order.terminal
  isTerminal_fails_iff : ∀ name e,
    order.isTerminal name = .error e ↔ e = .unknownState name ∧ name ∉ order.names
  successor_fails_iff : ∀ name e,
    order.successor name = .error e ↔ e = .unknownState name ∧ name ∉ order.names

theorem isChain (order : StateOrder) : order.IsChain where
  trail_iff _ _ _ h := StateOrder.trail_iff h
  nodup _ _ h := order.distinct.sublist h.suffix.sublist
  ends _ _ h := h.getLast?_eq
  isTerminal_iff _ := isTerminal_eq_true_iff.trans successor_eq_none_iff.symm
  terminal_iff _ := successor_eq_none_iff
  isTerminal_fails_iff _ _ := isTerminal_eq_error_iff
  successor_fails_iff _ _ := successor_eq_error_iff

/-- A list is accepted exactly if there is something in it and its trimmed entries are neither
blank nor repeated. These are the states then, in their order, and they are a chain. -/
theorem ofList_isChain (states : List String) :
    ((∃ order, ofList states = .ok order) ↔
      states ≠ [] ∧ (∀ name ∈ states.map Text.trim, Text.isBlank name = false) ∧
        (states.map Text.trim).Nodup) ∧
      ∀ order, ofList states = .ok order →
        order.names = states.map Text.trim ∧ order.IsChain := by
  refine ⟨?_, fun order h => ⟨names_of_ofList h, order.isChain⟩⟩
  have hblank : (∀ name ∈ states.map Text.trim, Text.isBlank name = false) ↔
      "" ∉ states.map Text.trim := by
    rw [List.forall_mem_map, List.mem_map, not_exists]
    refine forall_congr' fun state => ?_
    rw [not_and, ← Bool.not_eq_true, ← Text.trim_eq_empty_iff, Text.trim_trim]
  rw [hblank]
  exact exists_ofList_iff

theorem ofList_isChain_padded :
    ∃ order, ofList [" New", "Open\t", "Done"] = .ok order ∧
      order.names = ["New", "Open", "Done"] ∧ order.IsChain ∧
      order.Trail "New" ["Open", "Done"] := by
  obtain ⟨haccepted, hchain⟩ := ofList_isChain [" New", "Open\t", "Done"]
  obtain ⟨order, h⟩ := haccepted.mpr (by decide)
  obtain ⟨hnames, hischain⟩ := hchain order h
  have hlist : order.names = ["New", "Open", "Done"] := hnames.trans (by decide)
  exact ⟨order, h, hlist, hischain,
    (hischain.trail_iff 0 "New" _ (by rw [hlist]; rfl)).mpr (by rw [hlist]; rfl)⟩

end StageGate.StateOrder
