import StageGate.Error
import StageGate.Text.Blank

/-! The states of a workflow, in the order in which subjects pass through them. -/
namespace StageGate

/-- The last state is terminal. -/
structure StateOrder where
  names : List String
  nonempty : names ≠ []
  distinct : names.Nodup

namespace StateOrder

/-- The first blank name, or the first that was `seen` before. -/
def firstFault (seen : List String) : List String → Option SettingsFault
  | [] => none
  | name :: names =>
    if name = "" then some .blankState
    else if name ∈ seen then some (.duplicateState name)
    else firstFault (name :: seen) names

theorem distinct_of_firstFault {seen names : List String} (h : firstFault seen names = none) :
    names.Nodup ∧ ∀ name ∈ names, name ∉ seen := by
  induction names generalizing seen with
  | nil => simp
  | cons name names ih =>
    simp only [firstFault] at h
    split at h
    · simp at h
    · split at h
      · simp at h
      · next hseen =>
        obtain ⟨hnodup, hfresh⟩ := ih h
        refine ⟨List.nodup_cons.mpr ⟨fun hmem => ?_, hnodup⟩, ?_⟩
        · exact hfresh name hmem (by simp)
        · intro other hother
          rcases List.mem_cons.mp hother with rfl | hmem
          · exact hseen
          · intro hold
            exact hfresh other hmem (by simp [hold])

/-- Names are trimmed; blank or repeated ones are refused, and so is having none. -/
def ofList (states : List String) : Except Error StateOrder :=
  match h : firstFault [] (states.map Text.trim) with
  | some fault => .error (.config fault)
  | none =>
    if hne : states.map Text.trim ≠ [] then
      .ok ⟨states.map Text.trim, hne, (distinct_of_firstFault h).1⟩
    else .error (.config .noStates)

def standard : StateOrder :=
  ⟨["A", "B", "Final"], by simp, by decide⟩

/-- The states from the given one on; none if it is not known. -/
def road (order : StateOrder) (name : String) : List String :=
  order.names.dropWhile (· != name)

def isTerminal (order : StateOrder) (name : String) : Except Error Bool :=
  match order.road name with
  | [] => .error (.unknownState name)
  | _ :: rest => .ok rest.isEmpty

def successor (order : StateOrder) (name : String) : Except Error (Option String) :=
  match order.road name with
  | [] => .error (.unknownState name)
  | _ :: rest => .ok rest.head?

def terminal (order : StateOrder) : String :=
  order.names.getLast order.nonempty

end StateOrder
end StageGate
