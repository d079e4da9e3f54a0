/-! Texts with holes: the pieces of a text around the occurrences of a marker, and filling them. -/
namespace StageGate.Text

/-- The rest of `cs` behind `lead`, if `cs` begins with it. -/
def afterLead : List Char → List Char → Option (List Char)
  | [], cs => some cs
  | _ :: _, [] => none
  | p :: ps, c :: cs => if p = c then afterLead ps cs else none

theorem afterLead_eq_some {lead cs rest : List Char} (h : afterLead lead cs = some rest) :
    cs = lead ++ rest := by
  induction lead generalizing cs with
  | nil => simpa [afterLead] using h
  | cons p ps ih =>
    cases cs with
    | nil => simp [afterLead] at h
    | cons c cs =>
      simp only [afterLead] at h
      split at h
      · next hp => simp [hp, ih h]
      · simp at h

/-- The pieces around the occurrences of the marker `m :: ms`, found from the left and without
overlap. -/
def piecesAround (m : Char) (ms : List Char) (cs : List Char) : List (List Char) :=
  match _h : afterLead (m :: ms) cs with
  | some rest => [] :: piecesAround m ms rest
  | none =>
    match cs with
    | [] => [[]]
    | c :: cs =>
      match piecesAround m ms cs with
      | [] => [[c]]
      | piece :: pieces => (c :: piece) :: pieces
termination_by cs.length
decreasing_by
  · have := congrArg List.length (afterLead_eq_some ‹_›)
    simp at this
    omega
  · simp

/-- How often `lead` stands at the front, and what is behind it. -/
def stripLeads (lead cs : List Char) : Nat × List Char :=
  match _h : afterLead lead cs with
  | some rest =>
    if rest.length < cs.length then
      let (count, rest) := stripLeads lead rest
      (count + 1, rest)
    else (1, rest)
  | none => (0, cs)
termination_by cs.length

/-- The pieces joined by `filling`. -/
def fill (filling : List Char) : List (List Char) → List Char
  | [] => []
  | [piece] => piece
  | piece :: pieces => piece ++ filling ++ fill filling pieces

end StageGate.Text
