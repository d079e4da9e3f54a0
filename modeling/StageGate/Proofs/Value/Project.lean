import StageGate.Proofs.DateTime.Text
import StageGate.Value

/-! What reads as a date-time is one in stored data: no other value has a text that reads as one. -/
namespace StageGate

open Text

namespace DateTime

namespace Scan

variable {α β : Type} {x : Scan α} {f : α → Scan β} {n m : Nat}

/-- The scan passes over so many dashes at least. -/
def Spends (n : Nat) (x : Scan α) : Prop :=
  ∀ cs a rest, x.run cs = some (a, rest) → rest.count '-' + n ≤ cs.count '-'

theorem bind_run_eq_some {cs rest : List Char} {b : β} (h : (x >>= f).run cs = some (b, rest)) :
    ∃ a mid, x.run cs = some (a, mid) ∧ (f a).run mid = some (b, rest) := by
  rw [StateT.run_bind] at h
  obtain ⟨⟨a, mid⟩, hx, hf⟩ := Option.bind_eq_some_iff.mp h
  exact ⟨a, mid, hx, hf⟩

theorem spends_pure (a : α) : Spends 0 (pure a : Scan α) := by
  rintro cs a rest ⟨⟩
  exact Nat.le_refl _

theorem Spends.bind (hx : Spends n x) (hf : ∀ a, Spends m (f a)) : Spends (n + m) (x >>= f) := by
  intro cs b rest h
  obtain ⟨a, mid, hfirst, hsecond⟩ := bind_run_eq_some h
  have hfirst := hx _ _ _ hfirst
  have hsecond := hf _ _ _ _ hsecond
  omega

theorem spends_trimLeft : Spends 0 (modify trimLeft : Scan Unit) := by
  rintro cs ⟨⟩ rest h
  cases h
  exact (List.dropWhile_suffix isBlankChar).sublist.count_le _

theorem spends_digits (least most : Nat) : Spends 0 (digits least most) := by
  intro cs a rest h
  simp only [digits_apply] at h
  split at h
  · cases h
  · cases h
    exact (List.drop_suffix _ cs).sublist.count_le _

theorem spends_dash : Spends 1 (literal '-') := by
  rintro (_ | ⟨c, cs⟩) a rest h
  · cases h
  · change (if c = '-' then set cs else failure : Scan Unit).run (c :: cs) = _ at h
    split at h
    · next hc =>
      cases h
      simp [hc]
    · cases h

theorem spends_exactly (width : Nat) : Spends 0 (exactly width) :=
  (spends_digits width width).bind fun _ => spends_pure _

theorem spends_field : Spends 0 field :=
  spends_trimLeft.bind fun _ => (spends_digits 1 2).bind fun _ => spends_pure _

theorem spends_yearField : Spends 0 yearField := by
  intro cs a rest h
  unfold yearField at h
  obtain ⟨_, mid, htrim, h⟩ := bind_run_eq_some h
  have htrim := spends_trimLeft _ _ _ htrim
  rw [run_bind_of (get_run _)] at h
  split at h
  · next digits =>
    rw [run_bind_of (set_run _ _)] at h
    have hdigits := ((spends_digits _ _).bind fun _ => spends_pure _) _ _ _ h
    rw [List.count_cons_self] at htrim
    omega
  · next digits =>
    rw [run_bind_of (set_run _ _)] at h
    have hdigits := ((spends_digits _ _).bind fun _ => spends_pure _) _ _ _ h
    rw [List.count_cons_of_ne (by decide)] at htrim
    omega
  · have hdigits := ((spends_digits _ _).bind fun _ => spends_pure _) _ _ _ h
    omega

theorem spends_calendarDate : Spends 2 calendarDate :=
  spends_yearField.bind fun _ => spends_dash.bind fun _ => spends_field.bind fun _ =>
    spends_dash.bind fun _ => spends_field.bind fun _ => spends_pure _

/-- The scan finds so many dashes at least. -/
def Needs (n : Nat) (x : Scan α) : Prop :=
  ∀ cs p, x.run cs = some p → n ≤ cs.count '-'

theorem needs_zero (x : Scan α) : Needs 0 x :=
  fun _ _ _ => Nat.zero_le _

theorem Spends.needs (hx : Spends n x) (hf : ∀ a, Needs m (f a)) : Needs (n + m) (x >>= f) := by
  rintro cs ⟨b, rest⟩ h
  obtain ⟨a, mid, hfirst, hsecond⟩ := bind_run_eq_some h
  have hfirst := hx _ _ _ hfirst
  have hsecond := hf _ _ _ hsecond
  omega

theorem needs_exchanged : Needs 2 exchanged :=
  (spends_exactly 4).needs fun _ => spends_dash.needs fun _ => (spends_exactly 2).needs fun _ =>
    spends_dash.needs fun _ => needs_zero _

theorem needs_wallClock (separator : Scan Unit) : Needs 2 (wallClock separator) :=
  spends_calendarDate.needs fun _ => needs_zero _

theorem needs_dateOnly : Needs 2 dateOnly :=
  spends_calendarDate.needs fun _ => needs_zero _

theorem calendarDate_of_first {c : Char} (cs : List Char) (hblank : isBlankChar c = false)
    (hdigit : c.isDigit = false) (hminus : c ≠ '-') (hplus : c ≠ '+') :
    calendarDate.run (c :: cs) = none := by
  have htrim : trimLeft (c :: cs) = c :: cs :=
    trimLeft_eq_self_iff.mpr fun _ h => Option.some.inj h ▸ hblank
  refine run_bind_of_none ?_
  rw [yearField, run_bind_of (trimLeft_run htrim), run_bind_of (get_run _)]
  split
  · next h =>
    cases h
    exact (hminus rfl).elim
  · next h =>
    cases h
    exact (hplus rfl).elim
  · exact run_bind_of_none (digits_of_first hdigit (by decide))

theorem whole_eq_some {form : Scan DateTime} {cs : List Char} {t : DateTime}
    (h : form.whole cs = some t) : form.run cs = some (t, []) := by
  unfold whole at h
  split at h
  · next hrun =>
    cases h
    exact hrun
  · cases h

end Scan

variable {s : String} {t : DateTime}

/-- A text that reads as a date-time has one of the four forms. -/
theorem form_of_read? (h : read? s = some t) :
    ∃ form ∈ [Scan.exchanged, Scan.wallClock (Scan.literal 'T'), Scan.wallClock (modify trimLeft),
      Scan.dateOnly], form.run (trimChars s.toList) = some (t, []) := by
  simp only [read?, Option.ite_none_left_eq_some, Option.orElse_eq_orElse, Option.orElse_eq_or,
    Option.or_eq_some_iff] at h
  obtain ⟨-, h | ⟨-, h | ⟨-, h | ⟨-, h⟩⟩⟩⟩ := h
  · exact ⟨_, by simp, Scan.whole_eq_some h⟩
  · exact ⟨_, by simp, Scan.whole_eq_some h⟩
  · exact ⟨_, by simp, Scan.whole_eq_some h⟩
  · exact ⟨_, by simp, Scan.whole_eq_some h⟩

/-- A date has two dashes. -/
theorem two_le_count_of_read? (h : read? s = some t) : 2 ≤ s.toList.count '-' := by
  obtain ⟨form, hform, hrun⟩ := form_of_read? h
  have hneeds : Scan.Needs 2 form := by
    simp only [List.mem_cons, List.not_mem_nil, or_false] at hform
    rcases hform with rfl | rfl | rfl | rfl
    · exact Scan.needs_exchanged
    · exact Scan.needs_wallClock _
    · exact Scan.needs_wallClock _
    · exact Scan.needs_dateOnly
  exact Nat.le_trans (hneeds _ _ hrun) ((trimChars_sublist s.toList).count_le _)

/-- A date begins with a year. -/
theorem first_of_read? {c : Char} {cs : List Char} (h : read? s = some t)
    (hcs : trimChars s.toList = c :: cs) : c.isDigit = true ∨ c = '-' ∨ c = '+' := by
  refine Decidable.byContradiction fun hno => ?_
  simp only [not_or, Bool.not_eq_true] at hno
  obtain ⟨hdigit, hminus, hplus⟩ := hno
  have hblank : isBlankChar c = false := by
    refine (trimChars_eq_self_iff.mp (trimChars_trimChars s.toList)).1 c ?_
    rw [hcs]
    rfl
  have hnone := Scan.calendarDate_of_first cs hblank hdigit hminus hplus
  obtain ⟨form, hform, hrun⟩ := form_of_read? h
  rw [hcs] at hrun
  simp only [List.mem_cons, List.not_mem_nil, or_false] at hform
  rcases hform with rfl | rfl | rfl | rfl
  · cases (Scan.exchanged_of_first hdigit).symm.trans hrun
  · cases (Scan.run_bind_of_none hnone).symm.trans hrun
  · cases (Scan.run_bind_of_none hnone).symm.trans hrun
  · cases (Scan.run_bind_of_none hnone).symm.trans hrun

theorem read?_trim (s : String) : read? (trim s) = read? s := by
  simp only [read?, trim, String.toList_ofList, trimChars_trimChars]

end DateTime

theorem dash_notMem_digits {n : Nat} : '-' ∉ Nat.toDigits 10 n := fun h => by
  cases Nat.isDigit_of_mem_toDigits (by decide) (by decide) h

theorem Decimal.dash_notMem_positional (d : Decimal) : '-' ∉ d.positional := by
  have hdigits : '-' ∉ d.digitChars := dash_notMem_digits
  have hzeros (k : Nat) : '-' ∉ List.replicate k '0' := fun h => by
    cases List.eq_of_mem_replicate h
  have htake (k : Nat) : '-' ∉ d.digitChars.take k := fun h => hdigits (List.mem_of_mem_take h)
  have hdrop (k : Nat) : '-' ∉ d.digitChars.drop k := fun h => hdigits (List.mem_of_mem_drop h)
  simp only [positional]
  split
  · simp [hdigits, hzeros]
  · split
    · simp [htake, hdrop]
    · simp [hdigits, hzeros]

theorem count_dash_signed {cs : List Char} (h : '-' ∉ cs) (negative : Bool) :
    (signed negative cs).toList.count '-' ≤ 1 := by
  rw [signed, String.toList_ofList]
  split
  · simp [List.count_eq_zero_of_not_mem h]
  · rw [List.count_eq_zero_of_not_mem h]
    exact Nat.zero_le 1

theorem Binary64.count_dash (x : Binary64) : x.toText.toList.count '-' ≤ 1 := by
  cases x with
  | finite x => exact count_dash_signed (Decimal.dash_notMem_positional _) _
  | infinite negative => exact count_dash_signed (by decide) negative
  | nan => decide

theorem count_dash_int (i : Int) : (toString i).toList.count '-' ≤ 1 := by
  cases i with
  | ofNat n =>
    change (toString n).toList.count '-' ≤ 1
    rw [Nat.toString_eq_ofList_toDigits, String.toList_ofList,
      List.count_eq_zero_of_not_mem dash_notMem_digits]
    exact Nat.zero_le 1
  | negSucc n =>
    change ("-" ++ toString (n + 1)).toList.count '-' ≤ 1
    rw [Nat.toString_eq_ofList_toDigits, String.toList_append, String.toList_ofList,
      String.toList_ofList, List.count_append, List.count_eq_zero_of_not_mem dash_notMem_digits]
    decide

namespace Value

theorem read?_of_few_dashes {s : String} (h : s.toList.count '-' ≤ 1) :
    DateTime.read? s = none := by
  cases hread : DateTime.read? s with
  | none => rfl
  | some t =>
    have htwo := DateTime.two_le_count_of_read? hread
    omega

theorem read?_of_mark {s : String} {c : Char} (h : s.toList.head? = some c)
    (hc : c ∈ ['[', '\x7b', '@']) : DateTime.read? s = none := by
  obtain ⟨cs, hcs⟩ := List.head?_eq_some_iff.mp h
  have hfacts : isBlankChar c = false ∧ c.isDigit = false ∧ c ≠ '-' ∧ c ≠ '+' := by
    simp only [List.mem_cons, List.not_mem_nil, or_false] at hc
    rcases hc with rfl | rfl | rfl <;> decide
  obtain ⟨hblank, hdigit, hminus, hplus⟩ := hfacts
  have htrim : trimChars s.toList = c :: trimRight cs := by
    have hleft : trimLeft (c :: cs) = c :: cs :=
      trimLeft_eq_self_iff.mpr fun _ hfirst => Option.some.inj hfirst ▸ hblank
    rw [hcs, trimChars, hleft, trimRight_cons hblank]
  cases hread : DateTime.read? s with
  | none => rfl
  | some t =>
    have hfirst := DateTime.first_of_read? hread htrim
    simp [hdigit, hminus, hplus] at hfirst

/-- Of the values of stored data only date-times have texts that read as one. -/
theorem read?_toText_project {raw : Json} {t : DateTime}
    (h : DateTime.read? (project raw).toText = some t) :
    ∃ t', project raw = .dateTime t' ∧ t'.toTheSecond = t := by
  have hfew {s : String} (hs : s.toList.count '-' ≤ 1) : DateTime.read? s ≠ some t := by
    simp [read?_of_few_dashes hs]
  cases raw with
  | null => cases h
  | bool b => cases b <;> exact absurd h (hfew (by decide))
  | whole n =>
    unfold project ofJsonWith at h
    split at h
    · exact absurd h (hfew (count_dash_int _))
    · exact absurd h (hfew (Binary64.count_dash _))
  | float x => exact absurd h (hfew (Binary64.count_dash _))
  | string s =>
    have hproject : project (.string s) = ofText s := rfl
    rw [hproject, ofText] at h ⊢
    cases hs : DateTime.read? s with
    | some t' =>
      rw [hs] at h
      refine ⟨t', rfl, ?_⟩
      exact Option.some.inj ((DateTime.read?_toText t').symm.trans h)
    | none =>
      rw [hs] at h
      cases hs.symm.trans h
  | array items =>
    have hfirst : (project (.array items)).toText.toList.head? = some '[' := by
      simp [project, ofJsonWith, toText, toJson, Json.render]
    cases (read?_of_mark hfirst (by simp)).symm.trans h
  | object fields =>
    have hfirst : (project (.object fields)).toText.toList.head? = some '\x7b' := by
      simp [project, ofJsonWith, toText, toJson, Json.render]
    cases (read?_of_mark hfirst (by simp)).symm.trans h

theorem find?_ofFieldsWith (leaf : String → Value) (fields : Fields Json) (name : String) :
    Fields.find? (ofFieldsWith leaf fields) name =
      (Fields.find? fields name).map (ofJsonWith leaf) := by
  induction fields with
  | nil => rfl
  | cons entry fields ih =>
    obtain ⟨other, raw⟩ := entry
    simp only [ofFieldsWith, Fields.find?, ih]
    split <;> rfl

/-- The fields of a projected record are those of the record, projected. -/
theorem field?_project (record : Json) (name : String) :
    (project record).field? name = (record.field? name).map project := by
  cases record with
  | object fields => exact find?_ofFieldsWith ofText fields name
  | string s =>
    have hproject : project (.string s) = ofText s := rfl
    rw [hproject, ofText]
    split <;> rfl
  | whole n =>
    unfold project ofJsonWith
    split <;> rfl
  | _ => rfl

end Value
end StageGate
