import Mathlib.Data.List.TakeWhile
import StageGate.StateOrder

/-! The order of the states, told by positions. -/
namespace StageGate.StateOrder

variable {order : StateOrder} {name : String} {n : Nat}

theorem names_of_ofList {states : List String} (h : ofList states = .ok order) :
    order.names = states.map Text.trim := by
  unfold ofList at h
  split at h
  · cases h
  · split at h
    · cases h
      rfl
    · cases h

theorem trim_name {states : List String} (h : ofList states = .ok order)
    (hmem : name ∈ order.names) : Text.trim name = name := by
  rw [names_of_ofList h] at hmem
  obtain ⟨state, -, rfl⟩ := List.mem_map.mp hmem
  exact Text.trim_trim state

/-- Names that differ once they are trimmed differ as they are spelled. -/
theorem nodup_of_ofList {states : List String} (h : ofList states = .ok order) : states.Nodup := by
  have hdistinct := order.distinct
  rw [names_of_ofList h] at hdistinct
  exact List.Pairwise.of_map Text.trim (fun _ _ hne heq => hne (congrArg Text.trim heq)) hdistinct

theorem dropWhile_eq_drop {names : List String} (hdistinct : names.Nodup)
    (h : names[n]? = some name) : names.dropWhile (· != name) = names.drop n := by
  induction names generalizing n with
  | nil => simp at h
  | cons head names ih =>
    obtain ⟨hfresh, hdistinct⟩ := List.nodup_cons.mp hdistinct
    cases n with
    | zero =>
      obtain rfl : head = name := by simpa using h
      simp
    | succ n =>
      have hne : head ≠ name := fun heq => hfresh (heq ▸ List.mem_of_getElem? h)
      simp [hne, ih hdistinct h]

theorem road_eq_drop (h : order.names[n]? = some name) : order.road name = order.names.drop n :=
  dropWhile_eq_drop order.distinct h

theorem road_eq_cons (h : order.names[n]? = some name) :
    order.road name = name :: order.names.drop (n + 1) := by
  obtain ⟨hn, rfl⟩ := List.getElem?_eq_some_iff.mp h
  rw [road_eq_drop h, List.drop_eq_getElem_cons hn]

/-- The transitions along the road: each of its states with the one after it. -/
def hops (order : StateOrder) (name : String) : List (String × String) :=
  (order.road name).zip (order.road name).tail

theorem hops_eq {start state next : String} (hstate : (order.road start)[n]? = some state)
    (hnext : (order.road start)[n + 1]? = some next) :
    (order.hops start)[n]? = some (state, next) :=
  List.getElem?_zip_eq_some.mpr ⟨hstate, by rw [List.getElem?_tail, hnext]⟩

theorem isTerminal_eq (h : order.names[n]? = some name) :
    order.isTerminal name = .ok (decide (n + 1 = order.names.length)) := by
  have hn := (List.getElem?_eq_some_iff.mp h).1
  simp only [isTerminal, road_eq_cons h]
  rw [Except.ok.injEq, Bool.eq_iff_iff, List.isEmpty_iff, List.drop_eq_nil_iff, decide_eq_true_iff]
  omega

theorem successor_eq (h : order.names[n]? = some name) :
    order.successor name = .ok order.names[n + 1]? := by
  simp [successor, road_eq_cons h, List.head?_drop]

theorem road_eq_nil (h : name ∉ order.names) : order.road name = [] := by
  refine List.dropWhile_eq_nil_iff.mpr fun other hmem => ?_
  simpa using fun heq : other = name => h (heq ▸ hmem)

theorem isTerminal_unknown (h : name ∉ order.names) :
    order.isTerminal name = .error (.unknownState name) := by
  simp [isTerminal, road_eq_nil h]

theorem successor_unknown (h : name ∉ order.names) :
    order.successor name = .error (.unknownState name) := by
  simp [successor, road_eq_nil h]

/-- Only the last position holds the terminal state. -/
theorem eq_terminal_iff (h : order.names[n]? = some name) :
    name = order.terminal ↔ n + 1 = order.names.length := by
  have hn := (List.getElem?_eq_some_iff.mp h).1
  have hlast : order.names[order.names.length - 1]? = some order.terminal := by
    rw [terminal, List.getLast_eq_getElem, List.getElem?_eq_getElem]
  constructor
  · rintro rfl
    have hsame := (List.getElem?_inj hn order.distinct).mp (h.trans hlast.symm)
    omega
  · intro heq
    obtain rfl : n = order.names.length - 1 := by omega
    exact Option.some.inj (h.symm.trans hlast)

end StageGate.StateOrder
