import StageGate.DateTime.Printer
import StageGate.DateTime.Reader
import StageGate.Proofs.Text.Blank

/-! The text of a date-time is read as the same date-time without the fraction of its second. -/
namespace StageGate

open Text

theorem length_le_utf8ByteSize (cs : List Char) : cs.length ≤ (String.ofList cs).utf8ByteSize := by
  induction cs with
  | nil => simp
  | cons c cs ih =>
    have hone := c.utf8Size_pos
    rw [String.ofList_cons, String.utf8ByteSize_append, String.utf8ByteSize_singleton,
      List.length_cons]
    omega

section Padded

variable {width n : Nat} {c : Char}

theorem isDigit_of_mem_padded (h : c ∈ padded width n) : c.isDigit = true := by
  rcases List.mem_append.mp h with h | h
  · rw [List.eq_of_mem_replicate h]
    rfl
  · exact Nat.isDigit_of_mem_toDigits (by decide) (by decide) h

theorem digitsValue_padded (width n : Nat) : digitsValue (padded width n) = n := by
  have hvalue : digitsValue (padded width n) = Nat.ofDigitChars 10 (padded width n) 0 :=
    Nat.ofDigitChars_eq_foldl.symm
  rw [hvalue, padded, Nat.ofDigitChars_append, Nat.ofDigitChars_replicate_zero, Nat.mul_zero,
    Nat.ofDigitChars_ten_toDigits]

theorem length_padded_pos (width n : Nat) : 0 < (padded width n).length := by
  have hdigits : 0 < (Nat.toDigits 10 n).length := Nat.length_toDigits_pos
  simp only [padded, List.length_append]
  omega

theorem length_padded (h : (Nat.toDigits 10 n).length ≤ width) :
    (padded width n).length = width := by
  simp only [padded, List.length_append, List.length_replicate]
  omega

theorem length_padded_two (h : n < 100) : (padded 2 n).length = 2 :=
  length_padded ((Nat.length_toDigits_le_iff (by decide) (by decide)).mpr h)

theorem length_padded_four (h : n < 10000) : (padded 4 n).length = 4 :=
  length_padded ((Nat.length_toDigits_le_iff (by decide) (by decide)).mpr h)

theorem not_isBlankChar_of_isDigit (h : c.isDigit = true) : isBlankChar c = false := by
  have hcode : 48 ≤ c.toNat ∧ c.toNat ≤ 57 := by
    simpa [Char.isDigit, UInt32.le_iff_toNat_le] using h
  simp only [isBlankChar, Bool.or_eq_false_iff, Bool.and_eq_false_iff, decide_eq_false_iff_not,
    beq_eq_false_iff_ne]
  omega

/-- What begins with digits begins with a digit. -/
theorem exists_padded_append (width n : Nat) (rest : List Char) :
    ∃ c cs, padded width n ++ rest = c :: cs ∧ c.isDigit = true := by
  obtain ⟨c, cs, hcs⟩ := List.exists_cons_of_length_pos (length_padded_pos width n)
  refine ⟨c, cs ++ rest, by rw [hcs, List.cons_append], ?_⟩
  exact isDigit_of_mem_padded (hcs ▸ List.mem_cons_self)

theorem trimLeft_padded (width n : Nat) (rest : List Char) :
    trimLeft (padded width n ++ rest) = padded width n ++ rest := by
  obtain ⟨c, cs, hcs, hc⟩ := exists_padded_append width n rest
  rw [hcs]
  exact trimLeft_eq_self_iff.mpr fun _ h => Option.some.inj h ▸ not_isBlankChar_of_isDigit hc

end Padded

namespace DateTime

/-- The second as it is shown: the leap second after second 59 is second 60. -/
def shownSecond (t : Clock) : Nat :=
  if t.inLeapSecond then 60 else t.second

theorem isClock_toTheSecond (t : Clock) :
    IsClock t.hour t.minute t.second (if t.inLeapSecond then 1000000000 else 0) := by
  obtain ⟨hhour, hminute, hsecond, hnano⟩ := t.isClock
  refine ⟨hhour, hminute, hsecond, ?_⟩
  by_cases hleap : t.inLeapSecond = true
  · simp only [Clock.inLeapSecond, decide_eq_true_eq] at hleap
    split at hnano
    · split <;> omega
    · omega
  · rw [if_neg hleap]
    split <;> omega

/-- The start of the second, which is all that the text tells. -/
def toTheSecond (t : DateTime) : DateTime where
  date := t.date
  clock :=
    { hour := t.clock.hour
      minute := t.clock.minute
      second := t.clock.second
      nanosecond := if t.clock.inLeapSecond then 1000000000 else 0
      isClock := isClock_toTheSecond t.clock }

namespace Scan

variable {α β : Type} {x : Scan α} {f : α → Scan β} {a : α} {cs ds rest : List Char}
  {least most width n hour minute second month day : Nat} {year : Int}

theorem run_bind_of (h : x.run cs = some (a, rest)) : (x >>= f).run cs = (f a).run rest := by
  rw [StateT.run_bind, h]
  rfl

theorem run_bind_of_none (h : x.run cs = none) : (x >>= f).run cs = none := by
  rw [StateT.run_bind, h]
  rfl

theorem literal_run (c : Char) (rest : List Char) :
    (literal c).run (c :: rest) = some ((), rest) := by
  simp [literal]

theorem trimLeft_run (h : trimLeft cs = cs) :
    (modify trimLeft : Scan Unit).run cs = some ((), cs) := by
  rw [StateT.run_modify, h]
  rfl

theorem digits_apply (least most : Nat) (cs : List Char) :
    (digits least most).run cs =
      let found := (cs.takeWhile Char.isDigit).take most
      if found.length < least then none else some (found, cs.drop found.length) := by
  change (if ((cs.takeWhile Char.isDigit).take most).length < least then _ else _ :
    Scan (List Char)).run cs = _
  split
  · next h =>
    simp only [if_pos h]
    rfl
  · next h =>
    simp only [if_neg h]
    rfl

/-- Digits are read up to the greatest number of them, or up to another character. -/
theorem digits_run (hds : ∀ c ∈ ds, c.isDigit = true)
    (hrest : ds.length = most ∨ ∀ c, rest.head? = some c → c.isDigit = false)
    (hleast : least ≤ ds.length) (hmost : ds.length ≤ most) :
    (digits least most).run (ds ++ rest) = some (ds, rest) := by
  have hfound : ((ds ++ rest).takeWhile Char.isDigit).take most = ds := by
    rw [List.takeWhile_append_of_pos hds]
    rcases hrest with hall | hend
    · rw [← hall, List.take_left]
    · have hnone : rest.takeWhile Char.isDigit = [] := by
        cases rest with
        | nil => rfl
        | cons c rest => simp [hend c rfl]
      rw [hnone, List.append_nil, List.take_of_length_le hmost]
  simp only [digits_apply, hfound, if_neg (Nat.not_lt.mpr hleast), List.drop_left]

theorem padded_run (hrest : (padded width n).length = most ∨
      ∀ c, rest.head? = some c → c.isDigit = false)
    (hleast : least ≤ (padded width n).length) (hmost : (padded width n).length ≤ most) :
    (digits least most).run (padded width n ++ rest) = some (padded width n, rest) :=
  digits_run (fun _ hc => isDigit_of_mem_padded hc) hrest hleast hmost

theorem exactly_run (h : (padded width n).length = width) :
    (exactly width).run (padded width n ++ rest) = some (n, rest) := by
  rw [exactly, run_bind_of (padded_run (Or.inl h) (Nat.le_of_eq h.symm) (Nat.le_of_eq h)),
    digitsValue_padded]
  rfl

theorem digits_of_first {c : Char} (hc : c.isDigit = false) (hleast : 0 < least) :
    (digits least most).run (c :: cs) = none := by
  simp [digits_apply, hc, hleast]

theorem exchanged_of_first {c : Char} (hc : c.isDigit = false) :
    exchanged.run (c :: cs) = none :=
  run_bind_of_none (run_bind_of_none (digits_of_first hc (by decide)))

theorem field_run (h : n < 100) : field.run (padded 2 n ++ rest) = some (n, rest) := by
  have hlength := length_padded_two h
  rw [field, run_bind_of (trimLeft_run (trimLeft_padded 2 n rest)),
    run_bind_of (padded_run (Or.inl hlength) (by omega) (Nat.le_of_eq hlength)),
    digitsValue_padded]
  rfl

theorem get_run (cs : List Char) : (get : Scan (List Char)).run cs = some (cs, cs) := rfl

theorem set_run (cs rest : List Char) : (set rest : Scan Unit).run cs = some ((), rest) := rfl

/-- A year without a sign has four digits. -/
theorem yearField_short (h : n < 10000) :
    yearField.run (padded 4 n ++ rest) = some ((n : Int), rest) := by
  have hlength := length_padded_four h
  obtain ⟨c, cs, hcs, hc⟩ := exists_padded_append 4 n rest
  rw [yearField, run_bind_of (trimLeft_run (trimLeft_padded 4 n rest)), run_bind_of (get_run _)]
  split
  · next h =>
    rw [hcs] at h
    cases h
    cases hc
  · next h =>
    rw [hcs] at h
    cases h
    cases hc
  · rw [run_bind_of (padded_run (Or.inl hlength) (by omega) (Nat.le_of_eq hlength)),
      digitsValue_padded]
    rfl

/-- A year with a sign has all the digits that stand there. -/
theorem all_digits_run (hrest : ∀ c, rest.head? = some c → c.isDigit = false) :
    (digits 1 (padded width n ++ rest).length).run (padded width n ++ rest) =
      some (padded width n, rest) :=
  padded_run (Or.inr hrest) (length_padded_pos width n) (by simp)

theorem yearField_minus (hrest : ∀ c, rest.head? = some c → c.isDigit = false) :
    yearField.run ('-' :: (padded width n ++ rest)) = some (-(n : Int), rest) := by
  rw [yearField, run_bind_of (trimLeft_run rfl), run_bind_of (get_run _)]
  simp only
  rw [run_bind_of (set_run _ _), run_bind_of (all_digits_run hrest), digitsValue_padded]
  rfl

theorem yearField_plus (hrest : ∀ c, rest.head? = some c → c.isDigit = false) :
    yearField.run ('+' :: (padded width n ++ rest)) = some ((n : Int), rest) := by
  rw [yearField, run_bind_of (trimLeft_run rfl), run_bind_of (get_run _)]
  simp only
  rw [run_bind_of (set_run _ _), run_bind_of (all_digits_run hrest), digitsValue_padded]
  rfl

theorem yearField_run (hrest : ∀ c, rest.head? = some c → c.isDigit = false) :
    yearField.run (yearChars year ++ rest) = some (year, rest) := by
  unfold yearChars
  split
  · next hshort =>
    rw [yearField_short (by omega), Int.natAbs_of_nonneg hshort.1]
  · split
    · rw [List.cons_append, yearField_minus hrest]
      congr 2
      omega
    · rw [List.cons_append, yearField_plus hrest]
      congr 2
      omega

theorem calendarDate_run (hmonth : month < 100) (hday : day < 100) :
    calendarDate.run (yearChars year ++ '-' :: (padded 2 month ++ '-' :: (padded 2 day ++ rest))) =
      some ((year, month, day), rest) := by
  have hdash : ∀ c, ('-' :: (padded 2 month ++ '-' :: (padded 2 day ++ rest))).head? = some c →
      c.isDigit = false := by
    rintro c ⟨⟩
    rfl
  rw [calendarDate, run_bind_of (yearField_run hdash), run_bind_of (literal_run _ _),
    run_bind_of (field_run hmonth), run_bind_of (literal_run _ _), run_bind_of (field_run hday)]
  rfl

theorem fraction_run (hrest : rest.head? ≠ some '.') : fraction.run rest = some (0, rest) := by
  rw [fraction, run_bind_of (get_run _)]
  split
  · exact (hrest rfl).elim
  · rfl

theorem timeOfDay_run (hhour : hour < 100) (hminute : minute < 100) (hsecond : second < 100)
    (hrest : rest.head? ≠ some '.') :
    timeOfDay.run
        (padded 2 hour ++ ':' :: (padded 2 minute ++ ':' :: (padded 2 second ++ rest))) =
      some ((hour, minute, second, 0), rest) := by
  rw [timeOfDay, run_bind_of (field_run hhour), run_bind_of (literal_run _ _),
    run_bind_of (field_run hminute), run_bind_of (literal_run _ _),
    run_bind_of (field_run hsecond), run_bind_of (fraction_run hrest)]
  rfl

end Scan

variable {t : DateTime} {rest : List Char}

theorem chars_append (t : DateTime) (rest : List Char) :
    t.chars ++ rest =
      yearChars t.date.year ++ '-' :: (padded 2 t.date.month ++ '-' :: (padded 2 t.date.day ++
        'T' :: (padded 2 t.clock.hour ++ ':' :: (padded 2 t.clock.minute ++
          ':' :: (padded 2 (shownSecond t.clock) ++ rest))))) := by
  simp [chars, shownSecond]

theorem fields_lt (t : DateTime) :
    t.date.month < 100 ∧ t.date.day < 100 ∧ t.clock.hour < 100 ∧ t.clock.minute < 100 ∧
      shownSecond t.clock < 100 := by
  obtain ⟨-, hmonth, hday⟩ := t.date.isDate
  obtain ⟨hhour, hminute, hsecond, -⟩ := t.clock.isClock
  have hlast : daysInMonth t.date.year t.date.month ≤ 31 := by
    unfold daysInMonth
    split
    · split <;> omega
    · split <;> omega
  have hshown : shownSecond t.clock < 100 := by
    unfold shownSecond
    split <;> omega
  omega

theorem ofFields?_shown (t : DateTime) :
    ofFields? t.date.year t.date.month t.date.day t.clock.hour t.clock.minute
      (shownSecond t.clock) 0 = some t.toTheSecond := by
  obtain ⟨hhour, hminute, hsecond, hnano⟩ := t.clock.isClock
  have hclock := t.toTheSecond.clock.isClock
  by_cases hleap : t.clock.inLeapSecond = true
  · have hlast : t.clock.second = 59 := by
      simp only [Clock.inLeapSecond, decide_eq_true_eq] at hleap
      split at hnano <;> omega
    simp only [toTheSecond, hleap, hlast, if_true] at hclock ⊢
    simp only [ofFields?, shownSecond, hleap, if_true, Nat.add_zero, dif_pos t.date.isDate,
      dif_pos hclock]
  · have hother : ¬t.clock.second = 60 := by omega
    simp only [toTheSecond, hleap, if_false, Bool.false_eq_true] at hclock ⊢
    simp only [ofFields?, shownSecond, hleap, if_false, Bool.false_eq_true, hother,
      dif_pos t.date.isDate, dif_pos hclock]

theorem wallClock_run (hrest : rest.head? ≠ some '.') :
    (Scan.wallClock (Scan.literal 'T')).run (t.chars ++ rest) = some (t.toTheSecond, rest) := by
  obtain ⟨hmonth, hday, hhour, hminute, hsecond⟩ := fields_lt t
  rw [chars_append, Scan.wallClock, Scan.run_bind_of (Scan.calendarDate_run hmonth hday)]
  simp only
  rw [Scan.run_bind_of (Scan.literal_run _ _),
    Scan.run_bind_of (Scan.timeOfDay_run hhour hminute hsecond hrest)]
  simp only [ofFields?_shown]
  rfl

theorem exchanged_run (hyear : 0 ≤ t.date.year ∧ t.date.year ≤ 9999)
    (hrest : rest.head? ≠ some '.') :
    Scan.exchanged.run (t.chars ++ rest) =
      (Scan.offset.run rest).map fun p => (t.toTheSecond, p.2) := by
  obtain ⟨hmonth, hday, hhour, hminute, hsecond⟩ := fields_lt t
  have hexact : ∀ {n : Nat} (rest : List Char), n < 100 →
      (Scan.exactly 2).run (padded 2 n ++ rest) = some (n, rest) :=
    fun _ h => Scan.exactly_run (length_padded_two h)
  rw [chars_append, yearChars, if_pos hyear, Scan.exchanged,
    Scan.run_bind_of (Scan.exactly_run (length_padded_four (by omega))),
    Scan.run_bind_of (Scan.literal_run _ _), Scan.run_bind_of (hexact _ hmonth),
    Scan.run_bind_of (Scan.literal_run _ _), Scan.run_bind_of (hexact _ hday),
    Scan.run_bind_of (Scan.get_run _)]
  simp only [true_or, if_true]
  rw [Scan.run_bind_of (Scan.set_run _ _), Scan.run_bind_of (hexact _ hhour),
    Scan.run_bind_of (Scan.literal_run _ _), Scan.run_bind_of (hexact _ hminute),
    Scan.run_bind_of (Scan.literal_run _ _), Scan.run_bind_of (hexact _ hsecond),
    Scan.run_bind_of (Scan.fraction_run hrest), StateT.run_bind]
  cases Scan.offset.run rest with
  | none => rfl
  | some p =>
    rw [Int.natAbs_of_nonneg hyear.1, ofFields?_shown]
    rfl

/-- A year with a sign has no place in the form with fixed widths. -/
theorem exchanged_signed (hyear : ¬(0 ≤ t.date.year ∧ t.date.year ≤ 9999)) :
    Scan.exchanged.run (t.chars ++ rest) = none := by
  rw [chars_append, yearChars, if_neg hyear, List.cons_append]
  apply Scan.exchanged_of_first
  split <;> rfl

theorem length_chars (t : DateTime) : 10 ≤ t.chars.length := by
  obtain ⟨hmonth, hday, hhour, hminute, hsecond⟩ := fields_lt t
  have hlength := congrArg List.length (chars_append t [])
  simp only [List.length_append, List.length_cons, List.length_nil, length_padded_two hmonth,
    length_padded_two hday, length_padded_two hhour, length_padded_two hminute,
    length_padded_two hsecond] at hlength
  omega

theorem trimChars_chars (t : DateTime) : trimChars t.chars = t.chars := by
  have hchars := chars_append t []
  rw [List.append_nil] at hchars
  apply trimChars_eq_self_iff.mpr
  constructor
  · intro c hc
    rw [hchars, yearChars] at hc
    split at hc
    · obtain ⟨d, cs, hcs, hd⟩ := exists_padded_append 4 t.date.year.natAbs _
      rw [hcs] at hc
      exact Option.some.inj hc ▸ not_isBlankChar_of_isDigit hd
    · rw [← Option.some.inj hc]
      split <;> rfl
  · intro c hc
    have hne := List.ne_nil_of_length_pos (length_padded_pos 2 (shownSecond t.clock))
    unfold shownSecond at hne
    rw [chars, List.append_cons, List.getLast?_append, List.getLast?_eq_some_getLast hne,
      Option.some_or, Option.some_inj] at hc
    exact hc ▸ not_isBlankChar_of_isDigit (isDigit_of_mem_padded (List.getLast_mem hne))

@[simp]
theorem inLeapSecond_toTheSecond (t : DateTime) :
    t.toTheSecond.clock.inLeapSecond = t.clock.inLeapSecond := by
  simp only [toTheSecond, Clock.inLeapSecond, decide_eq_true_eq, decide_eq_decide]
  split <;> omega

@[simp]
theorem toText_toTheSecond (t : DateTime) : t.toTheSecond.toText = t.toText := by
  rw [toText, toText, chars, chars, inLeapSecond_toTheSecond]
  rfl

theorem read?_eq_of_trimChars {s : String} {cs : List Char} (htrim : trimChars s.toList = cs)
    (hlength : 10 ≤ cs.length) :
    read? s = (Scan.exchanged.whole cs <|> (Scan.wallClock (Scan.literal 'T')).whole cs <|>
      (Scan.wallClock (modify trimLeft)).whole cs <|> Scan.dateOnly.whole cs) := by
  have hlong : ¬(String.ofList cs).utf8ByteSize < 10 := by
    have hbytes := length_le_utf8ByteSize cs
    omega
  simp only [read?, htrim, if_neg hlong]

/-- The text of a date-time names the start of its second. -/
theorem read?_toText (t : DateTime) : read? t.toText = some t.toTheSecond := by
  have hchars : trimChars t.toText.toList = t.chars := by
    rw [toText, String.toList_ofList, trimChars_chars]
  have hexchanged : Scan.exchanged.run t.chars = none := by
    rw [← List.append_nil t.chars]
    by_cases hyear : 0 ≤ t.date.year ∧ t.date.year ≤ 9999
    · rw [exchanged_run hyear (by simp)]
      rfl
    · exact exchanged_signed hyear
  have hclock : (Scan.wallClock (Scan.literal 'T')).run t.chars = some (t.toTheSecond, []) := by
    rw [← List.append_nil t.chars]
    exact wallClock_run (by simp)
  rw [read?_eq_of_trimChars hchars (length_chars t), Scan.whole, hexchanged, Scan.whole, hclock]
  rfl

theorem toText_eq_iff {a b : DateTime} : a.toText = b.toText ↔ a.toTheSecond = b.toTheSecond := by
  constructor
  · intro h
    have hread := congrArg read? h
    rwa [read?_toText, read?_toText, Option.some_inj] at hread
  · intro h
    rw [← toText_toTheSecond a, h, toText_toTheSecond b]

theorem trim_toText (t : DateTime) : trim t.toText = t.toText := by
  rw [trim, toText, String.toList_ofList, trimChars_chars]

end DateTime
end StageGate
