import StageGate.Text.Hole

/-! What becomes of a text when the occurrences of a marker are replaced, and that the filling can
be told from the result if there is an occurrence at all. -/
namespace StageGate.Text

variable {m c : Char} {ms cs lead mark filling out rest a b piece : List Char}
  {pieces : List (List Char)}

theorem afterLead_append (lead rest : List Char) : afterLead lead (lead ++ rest) = some rest := by
  induction lead with
  | nil => rfl
  | cons c lead ih => rw [List.cons_append, afterLead, if_pos rfl, ih]

theorem afterLead_eq_none_iff : afterLead lead cs = none ↔ ¬ lead <+: cs := by
  rw [Option.eq_none_iff_forall_ne_some, List.prefix_iff_exists_append_eq, not_exists]
  refine forall_congr' fun rest => not_congr ⟨fun h => (afterLead_eq_some h).symm, ?_⟩
  rintro rfl
  exact afterLead_append lead rest

theorem piecesAround_mark (m : Char) (ms rest : List Char) :
    piecesAround m ms (m :: ms ++ rest) = [] :: piecesAround m ms rest := by
  rw [piecesAround]
  split
  · next found hfound =>
    rw [afterLead_append] at hfound
    cases hfound
    rfl
  · next hnone =>
    rw [afterLead_append] at hnone
    cases hnone

theorem piecesAround_nil (m : Char) (ms : List Char) : piecesAround m ms [] = [[]] := by
  rw [piecesAround]
  rfl

theorem piecesAround_ne_nil (m : Char) (ms cs : List Char) : piecesAround m ms cs ≠ [] := by
  rw [piecesAround]
  split
  · exact List.cons_ne_nil _ _
  · split
    · exact List.cons_ne_nil _ _
    · split <;> exact List.cons_ne_nil _ _

theorem piecesAround_char (h : ¬ m :: ms <+: c :: cs)
    (hpieces : piecesAround m ms cs = piece :: pieces) :
    piecesAround m ms (c :: cs) = (c :: piece) :: pieces := by
  rw [piecesAround]
  split
  · next hfound =>
    rw [afterLead_eq_none_iff.mpr h] at hfound
    cases hfound
  · simp [hpieces]

/-- Each occurrence of the mark is replaced by the filling. Occurrences are found from the left,
and none begins within another. -/
inductive Replaced (mark filling : List Char) : List Char → List Char → Prop
  | nil : Replaced mark filling [] []
  | mark {rest out : List Char} (h : Replaced mark filling rest out) :
    Replaced mark filling (mark ++ rest) (filling ++ out)
  | char {c : Char} {rest out : List Char} (hmark : ¬ mark <+: c :: rest)
    (h : Replaced mark filling rest out) : Replaced mark filling (c :: rest) (c :: out)

theorem fill_cons (filling piece : List Char) (h : pieces ≠ []) :
    fill filling (piece :: pieces) = piece ++ filling ++ fill filling pieces := by
  cases pieces with
  | nil => exact absurd rfl h
  | cons next pieces => rfl

theorem fill_cons_char (filling : List Char) (c : Char) (piece : List Char)
    (pieces : List (List Char)) :
    fill filling ((c :: piece) :: pieces) = c :: fill filling (piece :: pieces) := by
  cases pieces <;> rfl

theorem replaced_fill (m : Char) (ms filling cs : List Char) :
    Replaced (m :: ms) filling cs (fill filling (piecesAround m ms cs)) := by
  fun_induction piecesAround m ms cs with
  | case1 cs rest hlead ih =>
    obtain rfl := afterLead_eq_some hlead
    rw [fill_cons _ _ (piecesAround_ne_nil m ms rest)]
    exact .mark ih
  | case2 => exact .nil
  | case3 c cs hlead hnil =>
    exact absurd hnil (piecesAround_ne_nil m ms cs)
  | case4 c cs hlead piece pieces hpieces ih =>
    rw [hpieces] at ih
    rw [fill_cons_char]
    exact .char (afterLead_eq_none_iff.mp hlead) ih

theorem Replaced.eq_fill (h : Replaced (m :: ms) filling cs out) :
    out = fill filling (piecesAround m ms cs) := by
  induction h with
  | nil => rw [piecesAround_nil, fill]
  | @mark rest out h ih =>
    rw [piecesAround_mark, fill_cons _ _ (piecesAround_ne_nil m ms rest), ih]
    rfl
  | @char c rest out hmark h ih =>
    obtain ⟨piece, pieces, hpieces⟩ := List.exists_cons_of_ne_nil (piecesAround_ne_nil m ms rest)
    rw [piecesAround_char hmark hpieces, fill_cons_char, ← hpieces, ih]

theorem Replaced.eq_self (h : Replaced mark filling cs out) (hmark : ¬ mark <:+: cs) :
    out = cs := by
  induction h with
  | nil => rfl
  | mark _ _ => exact absurd (List.prefix_append _ _).isInfix hmark
  | char _ _ ih => rw [ih fun hrest => hmark (List.infix_cons hrest)]

theorem two_le_length_piecesAround_iff :
    2 ≤ (piecesAround m ms cs).length ↔ m :: ms <:+: cs := by
  fun_induction piecesAround m ms cs with
  | case1 cs rest hlead ih =>
    have hpos := List.length_pos_iff.mpr (piecesAround_ne_nil m ms rest)
    obtain rfl := afterLead_eq_some hlead
    rw [List.length_cons]
    exact iff_of_true (by omega) (List.prefix_append _ _).isInfix
  | case2 => simp
  | case3 c cs hlead hnil =>
    exact absurd hnil (piecesAround_ne_nil m ms cs)
  | case4 c cs hlead piece pieces hpieces ih =>
    rw [hpieces] at ih
    rw [List.infix_cons_iff, or_iff_right (afterLead_eq_none_iff.mp hlead), ← ih]
    rfl

theorem length_fill (filling piece : List Char) (pieces : List (List Char)) :
    (fill filling (piece :: pieces)).length =
      (fill [] (piece :: pieces)).length + pieces.length * filling.length := by
  induction pieces generalizing piece with
  | nil => simp [fill]
  | cons next pieces ih =>
    rw [fill_cons filling piece (List.cons_ne_nil next pieces),
      fill_cons [] piece (List.cons_ne_nil next pieces), List.length_append, List.length_append, ih,
      List.length_append, List.append_nil, List.length_cons, Nat.succ_mul]
    omega

/-- Texts with the same pieces and of the same length have fillings of the same length. These
begin at the same place, so they are the same. -/
theorem fill_inj (h : 2 ≤ pieces.length) (heq : fill a pieces = fill b pieces) : a = b := by
  match pieces, h with
  | piece :: next :: pieces, _ =>
    have hlength := congrArg List.length heq
    rw [length_fill a, length_fill b, Nat.add_left_cancel_iff] at hlength
    have hsame := Nat.eq_of_mul_eq_mul_left (Nat.succ_pos _) hlength
    have hrest := List.cons_ne_nil next pieces
    rw [fill_cons a piece hrest, fill_cons b piece hrest, List.append_assoc,
      List.append_assoc] at heq
    exact (List.append_inj (List.append_cancel_left heq) hsame).1

end StageGate.Text
