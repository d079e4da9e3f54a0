import StageGate.Proofs.DateTime.Text

/-! Reading a date-time back from its text: between blanks, and with an offset behind it. -/
namespace StageGate

open Text

/-- An offset from universal time, less than a day ahead of it or behind it. -/
inductive Offset
  | universal
  | ahead (hours : Fin 24) (minutes : Fin 60)
  | behind (hours : Fin 24) (minutes : Fin 60)

namespace Offset

def clockChars (hours : Fin 24) (minutes : Fin 60) : List Char :=
  padded 2 hours ++ ':' :: padded 2 minutes

def chars : Offset → List Char
  | universal => ['Z']
  | ahead hours minutes => '+' :: clockChars hours minutes
  | behind hours minutes => '-' :: clockChars hours minutes

def toText (offset : Offset) : String :=
  String.ofList offset.chars

theorem chars_ne_nil (offset : Offset) : offset.chars ≠ [] := by
  cases offset <;> exact List.cons_ne_nil _ _

theorem head?_chars (offset : Offset) : offset.chars.head? ≠ some '.' := by
  cases offset <;> simp [chars]

theorem not_blank_clockChars {hours : Fin 24} {minutes : Fin 60} {c : Char}
    (h : c ∈ clockChars hours minutes) : isBlankChar c = false := by
  have hdigit {n : Nat} (hc : c ∈ padded 2 n) : isBlankChar c = false :=
    not_isBlankChar_of_isDigit (isDigit_of_mem_padded hc)
  obtain h | h := List.mem_append.mp h
  · exact hdigit h
  · obtain rfl | h := List.mem_cons.mp h
    · rfl
    · exact hdigit h

theorem not_blank (offset : Offset) : ∀ c ∈ offset.chars, isBlankChar c = false := by
  cases offset with
  | universal => exact List.forall_mem_singleton.mpr rfl
  | ahead _ _ => exact List.forall_mem_cons.mpr ⟨rfl, fun _ => not_blank_clockChars⟩
  | behind _ _ => exact List.forall_mem_cons.mpr ⟨rfl, fun _ => not_blank_clockChars⟩

end Offset

namespace DateTime

/-- There is no fraction of a second: nothing of it has passed, or of the leap second behind it. -/
def IsWholeSecond (t : DateTime) : Prop :=
  t.clock.nanosecond = 0 ∨ t.clock.nanosecond = 1000000000

instance (t : DateTime) : Decidable t.IsWholeSecond := by
  unfold IsWholeSecond
  infer_instance

theorem toTheSecond_eq_self_iff {t : DateTime} : t.toTheSecond = t ↔ t.IsWholeSecond := by
  obtain ⟨date, ⟨hour, minute, second, nanosecond, isClock⟩⟩ := t
  simp only [toTheSecond, IsWholeSecond, Clock.inLeapSecond, DateTime.mk.injEq, Clock.mk.injEq,
    true_and, decide_eq_true_eq]
  split <;> omega

namespace Scan

/-- Hours and minutes behind a sign are those of an offset. -/
theorem offset_signed {sign : Char} (hsign : sign = '+' ∨ sign = '-') (hours : Fin 24)
    (minutes : Fin 60) (rest : List Char) :
    offset.run (sign :: (Offset.clockChars hours minutes ++ rest)) = some ((), rest) := by
  have hletter : ¬(sign = 'Z' ∨ sign = 'z') := by
    rcases hsign with rfl | rfl <;> decide
  have hmark : sign = '+' ∨ sign = '-' ∨ sign = '−' := by
    rcases hsign with rfl | rfl <;> decide
  rw [offset, run_bind_of (get_run _)]
  dsimp only
  rw [run_bind_of (set_run _ _), if_neg hletter, if_pos hmark, Offset.clockChars,
    List.append_assoc, List.cons_append,
    run_bind_of (exactly_run (length_padded_two (by omega))), run_bind_of (literal_run _ _),
    run_bind_of (exactly_run (length_padded_two (by omega))), if_pos ⟨hours.isLt, minutes.isLt⟩]
  rfl

theorem offset_run (offset : Offset) (rest : List Char) :
    Scan.offset.run (offset.chars ++ rest) = some ((), rest) := by
  cases offset with
  | universal => rfl
  | ahead hours minutes => exact offset_signed (.inl rfl) hours minutes rest
  | behind hours minutes => exact offset_signed (.inr rfl) hours minutes rest

theorem field_of_letter (rest : List Char) : field.run ('T' :: rest) = none := by
  rw [field, run_bind_of (trimLeft_run rfl)]
  exact run_bind_of_none (digits_of_first rfl (by decide))

end Scan

/-- A date-time text is no date with a time behind blanks. -/
theorem spaced_run (t : DateTime) (rest : List Char) :
    (Scan.wallClock (modify trimLeft)).run (t.chars ++ rest) = none := by
  obtain ⟨hmonth, hday, -⟩ := fields_lt t
  rw [chars_append, Scan.wallClock, Scan.run_bind_of (Scan.calendarDate_run hmonth hday)]
  dsimp only
  rw [Scan.run_bind_of (Scan.trimLeft_run rfl)]
  exact Scan.run_bind_of_none (Scan.run_bind_of_none (Scan.field_of_letter _))

/-- Behind the date of a date-time text there is more. -/
theorem dateOnly_whole (t : DateTime) (rest : List Char) :
    Scan.dateOnly.whole (t.chars ++ rest) = none := by
  obtain ⟨hmonth, hday, -⟩ := fields_lt t
  rw [chars_append, Scan.whole, Scan.dateOnly,
    Scan.run_bind_of (Scan.calendarDate_run hmonth hday)]
  dsimp only
  cases ofFields? t.date.year t.date.month t.date.day 0 0 0 0 <;> rfl

/-- An offset is passed over behind the text of a date-time whose year has four digits, and behind
no other. -/
theorem read?_with_offset (t : DateTime) (offset : Offset) :
    read? (t.toText ++ offset.toText) =
      if 0 ≤ t.date.year ∧ t.date.year ≤ 9999 then some t.toTheSecond else none := by
  have htrim : trimChars (t.toText ++ offset.toText).toList = t.chars ++ offset.chars := by
    rw [String.toList_append, toText, Offset.toText, String.toList_ofList, String.toList_ofList]
    exact trimChars_append (trimChars_chars t) (trimChars_of_no_blank offset.not_blank)
  have hlength : 10 ≤ (t.chars ++ offset.chars).length := by
    have hfront := length_chars t
    rw [List.length_append]
    omega
  have hrun := Scan.offset_run offset []
  rw [List.append_nil] at hrun
  rw [read?_eq_of_trimChars htrim hlength]
  split
  · next hyear =>
    rw [Scan.whole, exchanged_run hyear offset.head?_chars, hrun]
    rfl
  · next hyear =>
    have hsigned : Scan.exchanged.whole (t.chars ++ offset.chars) = none := by
      rw [Scan.whole, exchanged_signed hyear]
    have hclock : (Scan.wallClock (Scan.literal 'T')).whole (t.chars ++ offset.chars) = none := by
      obtain ⟨c, cs, hcs⟩ := List.exists_cons_of_ne_nil offset.chars_ne_nil
      rw [Scan.whole, wallClock_run offset.head?_chars, hcs]
    have hspaced : (Scan.wallClock (modify trimLeft)).whole (t.chars ++ offset.chars) = none := by
      rw [Scan.whole, spaced_run]
    rw [hsigned, hclock, hspaced, dateOnly_whole]
    rfl

theorem read?_surrounded {before after : String} (hbefore : isBlank before = true)
    (hafter : isBlank after = true) (s : String) : read? (before ++ s ++ after) = read? s := by
  have htrim : trimChars (before ++ s ++ after).toList = trimChars s.toList := by
    rw [String.toList_append, String.toList_append]
    exact trimChars_surrounded (List.all_eq_true.mp hbefore) (List.all_eq_true.mp hafter) _
  simp only [read?, htrim]

/-- A date-time comes back from its text, with or without blanks around it, if and only if it tells
no fraction of a second. Where the year has four digits, and only there, it does so from its text
with an offset behind it as well, and no offset moves it. -/
theorem reads_back_iff (t : DateTime) (before after : String) (hbefore : isBlank before = true)
    (hafter : isBlank after = true) :
    (read? (before ++ t.toText ++ after) = some t ↔ t.IsWholeSecond) ∧
      ∀ offset : Offset, read? (before ++ (t.toText ++ offset.toText) ++ after) = some t ↔
        t.IsWholeSecond ∧ 0 ≤ t.date.year ∧ t.date.year ≤ 9999 := by
  refine ⟨?_, fun offset => ?_⟩
  · rw [read?_surrounded hbefore hafter, read?_toText, Option.some_inj, toTheSecond_eq_self_iff]
  · rw [read?_surrounded hbefore hafter, read?_with_offset]
    split
    · next hyear => rw [Option.some_inj, toTheSecond_eq_self_iff, and_iff_left hyear]
    · next hyear => simp [hyear]

/-- The leap second at the end of the last year with four digits. -/
def lastLeapSecond : DateTime where
  date := ⟨9999, 12, 31, by decide⟩
  clock := ⟨23, 59, 59, 1000000000, by decide⟩

example : lastLeapSecond.toText = "9999-12-31T23:59:60" := by rfl

theorem reads_back_lastLeapSecond :
    isBlank " \t" = true ∧ isBlank "\n" = true ∧
      read? " \t9999-12-31T23:59:60\n" = some lastLeapSecond ∧
      read? " \t9999-12-31T23:59:60-23:59\n" = some lastLeapSecond := by
  have hback := reads_back_iff lastLeapSecond " \t" "\n" rfl rfl
  exact ⟨rfl, rfl, hback.1.mpr (by decide), (hback.2 (.behind 23 59)).mpr (by decide)⟩

end DateTime
end StageGate
