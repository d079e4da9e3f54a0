import Mathlib.Algebra.Order.Ring.Int
import Mathlib.Order.Bounds.Basic
import StageGate.DateTime.Reader
import StageGate.DateTime.Span
import StageGate.Proofs.DateTime.Order

/-! Whole months and years between two date-times: which number they are, whether the last of them
has gone by, and that the words they are counted in are wide enough. -/
namespace StageGate

/-- What whole units are counted by: the running number of a unit, and the place inside of it. -/
structure CalendarUnit (α β : Type) where
  number : α → ℤ
  inside : α → β

namespace CalendarUnit

variable {α β : Type} [LinearOrder β] {u : CalendarUnit α β} {a b c : α} {n k : ℤ}

/-- The same place `n` units on, whether or not the calendar has it. -/
def on (u : CalendarUnit α β) (a : α) (n : ℤ) : ℤ ×ₗ β :=
  toLex (u.number a + n, u.inside a)

/-- A unit that has not come to its place again does not count. -/
def count (u : CalendarUnit α β) (a b : α) : ℤ :=
  if u.inside b < u.inside a then u.number b - u.number a - 1 else u.number b - u.number a

theorem on_shift (h : u.on a n ≤ u.on b k) (i : ℤ) : u.on a (n + i) ≤ u.on b (k + i) := by
  simp only [on, Prod.Lex.toLex_le_toLex] at h ⊢
  rcases h with hlt | ⟨heq, hle⟩
  · left
    omega
  · right
    exact ⟨by omega, hle⟩

theorem le_count_iff : n ≤ u.count a b ↔ u.on a n ≤ u.on b 0 := by
  simp only [count, on, Prod.Lex.toLex_le_toLex]
  by_cases h : u.inside b < u.inside a
  · have hnot : ¬u.inside a ≤ u.inside b := not_le_of_gt h
    rw [if_pos h]
    constructor
    · intro hn
      left
      omega
    · rintro (hlt | ⟨-, hle⟩)
      · omega
      · exact (hnot hle).elim
  · have hle : u.inside a ≤ u.inside b := le_of_not_gt h
    rw [if_neg h]
    simp only [hle, and_true]
    omega

theorem on_count_le (u : CalendarUnit α β) (a b : α) : u.on a (u.count a b) ≤ u.on b 0 :=
  le_count_iff.mp le_rfl

theorem lt_on_count_succ (u : CalendarUnit α β) (a b : α) :
    u.on b 0 < u.on a (u.count a b + 1) := by
  have hnot : ¬u.count a b + 1 ≤ u.count a b := by omega
  rw [le_count_iff] at hnot
  exact lt_of_not_ge hnot

theorem on_count_eq_iff : u.on a (u.count a b) = u.on b 0 ↔ u.inside a = u.inside b := by
  simp only [on, toLex_inj, Prod.mk.injEq]
  constructor
  · exact And.right
  · intro hsame
    have hcount : u.count a b = u.number b - u.number a := if_neg (hsame ▸ lt_irrefl _)
    exact ⟨by omega, hsame⟩

theorem isGreatest_count (u : CalendarUnit α β) (a b : α) :
    IsGreatest {n | u.on a n ≤ u.on b 0} (u.count a b) :=
  ⟨on_count_le u a b, fun _ hn => le_count_iff.mpr hn⟩

theorem count_mono (h : u.on b 0 ≤ u.on c 0) : u.count a b ≤ u.count a c :=
  le_count_iff.mpr ((on_count_le u a b).trans h)

theorem count_anti (h : u.on a 0 ≤ u.on b 0) : u.count b c ≤ u.count a c := by
  have hon := on_shift h (u.count b c)
  rw [zero_add] at hon
  exact le_count_iff.mpr (hon.trans (on_count_le u b c))

theorem count_add_le (u : CalendarUnit α β) (a b c : α) :
    u.count a b + u.count b c ≤ u.count a c := by
  have hon := on_shift (on_count_le u a b) (u.count b c)
  rw [zero_add] at hon
  exact le_count_iff.mpr (hon.trans (on_count_le u b c))

/-- At the place in between two units may each fall short that make up one together. -/
theorem count_le_add (u : CalendarUnit α β) (a b c : α) :
    u.count a c ≤ u.count a b + u.count b c + 1 := by
  by_contra hmore
  have hreach : u.on a (u.count a b + 1 + (u.count b c + 1)) ≤ u.on c 0 := by
    apply le_count_iff.mp
    omega
  have hpast := on_shift (hreach.trans (lt_on_count_succ u b c).le) (-(u.count b c + 1))
  rw [add_neg_cancel_right, add_neg_cancel] at hpast
  exact not_le_of_gt (lt_on_count_succ u a b) hpast

/-- The same units of a date-time, where the place inside is told to the time of day. -/
def timed (u : CalendarUnit Date β) : CalendarUnit DateTime (β ×ₗ ℕ ×ₗ ℕ) where
  number t := u.number t.date
  inside t := toLex (u.inside t.date, t.clock.place)

section Timed

variable {u : CalendarUnit Date β} {a b : DateTime}

theorem timed_on_le_iff :
    u.timed.on a n ≤ u.timed.on b k ↔
      u.on a.date n < u.on b.date k ∨
        u.on a.date n = u.on b.date k ∧ a.clock.place ≤ b.clock.place := by
  simp only [on, timed, Prod.Lex.toLex_le_toLex, Prod.Lex.toLex_lt_toLex, toLex_inj, Prod.mk.injEq]
  tauto

/-- The last unit has gone by, unless the place comes again at an earlier time of day. -/
theorem timed_on_count_le_iff :
    u.timed.on a (u.count a.date b.date) ≤ u.timed.on b 0 ↔
      (u.inside a.date = u.inside b.date → a.clock.place ≤ b.clock.place) := by
  rw [timed_on_le_iff, on_count_eq_iff]
  by_cases hsame : u.inside a.date = u.inside b.date
  · have hnot : ¬u.on a.date (u.count a.date b.date) < u.on b.date 0 :=
      (on_count_eq_iff.mpr hsame).not_lt
    simp only [hnot, hsame, false_or, true_and, true_imp_iff]
  · have hlt : u.on a.date (u.count a.date b.date) < u.on b.date 0 :=
      lt_of_le_of_ne (on_count_le u a.date b.date) fun heq => hsame (on_count_eq_iff.mp heq)
    simp only [hlt, hsame, true_or, false_imp_iff]

theorem timed_count (u : CalendarUnit Date β) (a b : DateTime) :
    u.timed.count a b = u.count a.date b.date -
      if u.inside a.date = u.inside b.date ∧ b.clock.place < a.clock.place then 1 else 0 := by
  simp only [count, timed, Prod.Lex.toLex_lt_toLex]
  rcases lt_trichotomy (u.inside b.date) (u.inside a.date) with hlt | heq | hgt
  · simp only [hlt, hlt.ne', true_or, false_and, if_true, if_false, sub_zero]
  · simp only [heq, lt_irrefl, false_or, true_and, if_false]
    split <;> omega
  · simp only [hgt.not_gt, hgt.ne, hgt.ne', false_and, or_self, if_false, sub_zero]

end Timed

end CalendarUnit

namespace Date

def months : CalendarUnit Date ℕ where
  number d := 12 * d.year + d.month
  inside := day

def years : CalendarUnit Date (ℕ ×ₗ ℕ) where
  number := year
  inside d := toLex (d.month, d.day)

variable {a b : Date} {n k : ℤ}

theorem months_on_twelve_mul_le_iff :
    months.on a (12 * n) ≤ months.on b (12 * k) ↔ years.on a n ≤ years.on b k := by
  have ha := a.isDate.2.1
  have hb := b.isDate.2.1
  simp only [CalendarUnit.on, months, years, Prod.Lex.toLex_le_toLex]
  omega

theorem years_on_zero (d : Date) : years.on d 0 = d.place := by
  rw [CalendarUnit.on, years, add_zero, place]

theorem months_on_zero_le_iff : months.on a 0 ≤ months.on b 0 ↔ a.place ≤ b.place := by
  rw [← years_on_zero, ← years_on_zero, ← months_on_twelve_mul_le_iff, mul_zero]

end Date

namespace DateTime

variable {a b : DateTime}

theorem between_months (a b : DateTime) :
    a.between b .months = Date.months.count a.date b.date := by
  simp only [between, monthsBetween, CalendarUnit.count, Date.months]
  split <;> omega

theorem between_years (a b : DateTime) :
    a.between b .years = Date.years.count a.date b.date := by
  simp only [between, yearsBetween, CalendarUnit.count, Date.years, Prod.Lex.toLex_lt_toLex]

theorem between_years_eq (a b : DateTime) :
    a.between b .years = (a.between b .months).fdiv 12 := by
  apply eq_of_forall_le_iff
  intro n
  rw [Int.fdiv_eq_ediv_of_nonneg _ (by decide), Int.le_ediv_iff_mul_le (by decide), between_years,
    between_months, CalendarUnit.le_count_iff, CalendarUnit.le_count_iff,
    ← Date.months_on_twelve_mul_le_iff, mul_comm n, mul_zero]

theorem date_place_le (h : a.compare b ≠ .gt) : a.date.place ≤ b.date.place := by
  rw [compare_eq, compare_le_iff_le, place, place, Prod.Lex.toLex_le_toLex] at h
  rcases h with hlt | ⟨heq, -⟩
  · exact hlt.le
  · exact heq.le

section Words

/-- The number, if a signed word of so many bits holds it. -/
def inWord (bits : ℕ) (i : ℤ) : Option ℤ :=
  if -2 ^ (bits - 1) ≤ i ∧ i < 2 ^ (bits - 1) then some i else none

/-- Nanoseconds, if they are a span: one is no longer than the milliseconds that 64 bits hold. -/
def inSpan (nanoseconds : ℤ) : Option ℤ :=
  if nanoseconds.natAbs ≤ (2 ^ 63 - 1) * 1000000 then some nanoseconds else none

/-- Years are subtracted in 32 bits, all else in 64. -/
def monthsInWords (start finish : Date) : Option ℤ := do
  let years ← inWord 32 (finish.year - start.year)
  let months ← inWord 64 (years * 12)
  let months ← inWord 64 (months + finish.month)
  let months ← inWord 64 (months - start.month)
  if finish.day < start.day then inWord 64 (months - 1) else return months

def yearsInWords (start finish : Date) : Option ℤ := do
  let years ← inWord 32 (finish.year - start.year)
  if finish.month < start.month ∨ (finish.month = start.month ∧ finish.day < start.day) then
    inWord 64 (years - 1)
  else return years

/-- The spans between the dates and between the times of day are added up. -/
def daysInWords (start finish : DateTime) : Option ℤ := do
  let dates ← inSpan ((finish.date.dayNumber - start.date.dayNumber) * 86400 * 1000000000)
  let clocks ← inSpan (clockSeconds start.clock finish.clock * 1000000000 +
    (finish.clock.nanosecond - start.clock.nanosecond))
  let span ← inSpan (dates + clocks)
  inWord 64 ((span.tdiv 1000000000).tdiv 86400)

/-- The count, if no step on the way to it overflows. -/
def inWords (start finish : DateTime) : SpanUnit → Option ℤ
  | .days => daysInWords start finish
  | .months => monthsInWords start.date finish.date
  | .years => yearsInWords start.date finish.date

theorem daysInMonth_le (year : ℤ) (month : ℕ) : daysInMonth year month ≤ 31 := by
  unfold daysInMonth
  split
  · split <;> omega
  · split <;> omega

theorem foldl_days_le (year : ℤ) (months : List ℕ) (n : ℕ) :
    months.foldl (fun n m => n + daysInMonth year (m + 1)) n ≤ n + 31 * months.length := by
  induction months generalizing n with
  | nil => simp
  | cons m months ih =>
    have hm := daysInMonth_le year (m + 1)
    have hrest := ih (n + daysInMonth year (m + 1))
    simp only [List.foldl_cons, List.length_cons]
    omega

theorem dayNumber_bounds (d : Date) : -100000000 < d.dayNumber ∧ d.dayNumber < 100000000 := by
  obtain ⟨hyear, hmonth, hday⟩ := d.isDate
  have hlast := daysInMonth_le d.year d.month
  have hbefore := foldl_days_le d.year (List.range (d.month - 1)) 0
  rw [List.length_range] at hbefore
  simp only [Date.dayNumber]
  omega

theorem secondOfDay_lt (t : Clock) : t.secondOfDay < 86400 ∧ t.nanosecond < 2000000000 := by
  obtain ⟨hhour, hminute, hsecond, hnano⟩ := t.isClock
  unfold Clock.secondOfDay
  split at hnano <;> omega

theorem inWord_eq {bits : ℕ} {i : ℤ} (h : -2 ^ (bits - 1) ≤ i ∧ i < 2 ^ (bits - 1)) :
    inWord bits i = some i :=
  if_pos h

theorem inSpan_eq {i : ℤ} (h : i.natAbs ≤ (2 ^ 63 - 1) * 1000000) : inSpan i = some i :=
  if_pos h

theorem monthsInWords_eq (a b : Date) : monthsInWords a b = some (monthsBetween a b) := by
  obtain ⟨hya, hma, -⟩ := a.isDate
  obtain ⟨hyb, hmb, -⟩ := b.isDate
  have hyears : inWord 32 (b.year - a.year) = some (b.year - a.year) := inWord_eq (by omega)
  simp only [monthsInWords, monthsBetween, hyears, Option.bind_eq_bind, Option.bind_some]
  rw [inWord_eq (by omega), Option.bind_some, inWord_eq (by omega), Option.bind_some,
    inWord_eq (by omega), Option.bind_some]
  split
  · exact inWord_eq (by omega)
  · rfl

theorem yearsInWords_eq (a b : Date) : yearsInWords a b = some (yearsBetween a b) := by
  have hya := a.isDate.1
  have hyb := b.isDate.1
  have hyears : inWord 32 (b.year - a.year) = some (b.year - a.year) := inWord_eq (by omega)
  simp only [yearsInWords, yearsBetween, hyears, Option.bind_eq_bind, Option.bind_some]
  split
  · exact inWord_eq (by omega)
  · rfl

theorem clockSeconds_bounds (a b : Clock) :
    -86400 ≤ clockSeconds a b ∧ clockSeconds a b ≤ 86400 := by
  have ha := secondOfDay_lt a
  have hb := secondOfDay_lt b
  simp only [clockSeconds]
  split
  · omega
  · split <;> omega

theorem daysInWords_eq (a b : DateTime) : daysInWords a b = some (daysBetween a b) := by
  have hdates := And.intro (dayNumber_bounds a.date) (dayNumber_bounds b.date)
  have hclocks := clockSeconds_bounds a.clock b.clock
  have hnanos := And.intro (secondOfDay_lt a.clock).2 (secondOfDay_lt b.clock).2
  have hspan : (b.date.dayNumber - a.date.dayNumber) * 86400 * 1000000000 +
      (clockSeconds a.clock b.clock * 1000000000 +
        ((b.clock.nanosecond : ℤ) - a.clock.nanosecond)) = nanosecondsBetween a b := by
    unfold nanosecondsBetween
    omega
  have hseconds : ((nanosecondsBetween a b).tdiv 1000000000).natAbs =
      (nanosecondsBetween a b).natAbs / 1000000000 := Int.natAbs_tdiv _ _
  have hdays := Int.natAbs_tdiv_le_natAbs ((nanosecondsBetween a b).tdiv 1000000000) 86400
  have hword : inWord 64 (daysBetween a b) = some (daysBetween a b) := by
    apply inWord_eq
    unfold daysBetween
    omega
  simp only [daysInWords, Option.bind_eq_bind]
  rw [inSpan_eq (by omega), Option.bind_some, inSpan_eq (by omega), Option.bind_some, hspan,
    inSpan_eq (by omega), Option.bind_some]
  exact hword

theorem inWords_eq (a b : DateTime) (unit : SpanUnit) :
    inWords a b unit = some (a.between b unit) := by
  cases unit with
  | days => exact daysInWords_eq a b
  | months => exact monthsInWords_eq a.date b.date
  | years => exact yearsInWords_eq a.date b.date

end Words

/-- Months and years are the most whole units that fit between the dates. A year has twelve months,
two stretches together have at most one more than the two apart, and an earlier start or a later end
never has fewer. -/
theorem between_calendar_units (a b c : DateTime) :
    (∀ unit, inWords a b unit = some (a.between b unit)) ∧
    IsGreatest {n | Date.months.on a.date n ≤ Date.months.on b.date 0} (a.between b .months) ∧
    IsGreatest {n | Date.years.on a.date n ≤ Date.years.on b.date 0} (a.between b .years) ∧
    a.between b .years = (a.between b .months).fdiv 12 ∧
    (a.between b .months + b.between c .months ≤ a.between c .months ∧
      a.between c .months ≤ a.between b .months + b.between c .months + 1) ∧
    (b.compare c ≠ .gt → ∀ unit ∈ [SpanUnit.months, .years],
      a.between b unit ≤ a.between c unit ∧ c.between a unit ≤ b.between a unit) := by
  refine ⟨inWords_eq a b, ?_, ?_, between_years_eq a b, ?_, ?_⟩
  · rw [between_months]
    exact CalendarUnit.isGreatest_count _ _ _
  · rw [between_years]
    exact CalendarUnit.isGreatest_count _ _ _
  · simp only [between_months]
    exact ⟨CalendarUnit.count_add_le _ _ _ _, CalendarUnit.count_le_add _ _ _ _⟩
  · intro horder unit hunit
    have hplace := date_place_le horder
    simp only [List.mem_cons, List.not_mem_nil, or_false] at hunit
    rcases hunit with rfl | rfl
    · have hon := Date.months_on_zero_le_iff.mpr hplace
      simp only [between_months]
      exact ⟨CalendarUnit.count_mono hon, CalendarUnit.count_anti hon⟩
    · have hon : Date.years.on b.date 0 ≤ Date.years.on c.date 0 := by
        rwa [Date.years_on_zero, Date.years_on_zero]
      simp only [between_years]
      exact ⟨CalendarUnit.count_mono hon, CalendarUnit.count_anti hon⟩

/-- From the end of January no month is over at the end of February, and one is a day later. -/
theorem between_calendar_units_shortMonth :
    let january : DateTime := ⟨⟨2020, 1, 31, by decide⟩, .midnight⟩
    let february : DateTime := ⟨⟨2020, 2, 29, by decide⟩, .midnight⟩
    let march : DateTime := ⟨⟨2020, 3, 1, by decide⟩, .midnight⟩
    february.compare march ≠ .gt ∧ SpanUnit.months ∈ [SpanUnit.months, .years] ∧
    january.between february .months = 0 ∧ january.between march .months = 1 ∧
    january.between february .months ≤ january.between march .months := by
  refine ⟨by decide, by decide, by decide, by decide, ?_⟩
  exact ((between_calendar_units _ _ _).2.2.2.2.2 (by decide) .months (by decide)).1

theorem years_inside_eq_iff {a b : Date} :
    Date.years.inside a = Date.years.inside b ↔ a.month = b.month ∧ a.day = b.day := by
  simp only [Date.years, toLex_inj, Prod.mk.injEq]

/-- The months and years between have all gone by unless the day of the start comes again at an
earlier time of day. Then the last of them has not, and all the others have. -/
theorem units_elapsed_iff (a b : DateTime) :
    (Date.months.timed.on a (a.between b .months) ≤ Date.months.timed.on b 0 ↔
      (a.date.day = b.date.day → a.clock.place ≤ b.clock.place)) ∧
    IsGreatest {n | Date.months.timed.on a n ≤ Date.months.timed.on b 0}
      (a.between b .months -
        if a.date.day = b.date.day ∧ b.clock.place < a.clock.place then 1 else 0) ∧
    (Date.years.timed.on a (a.between b .years) ≤ Date.years.timed.on b 0 ↔
      (a.date.month = b.date.month ∧ a.date.day = b.date.day → a.clock.place ≤ b.clock.place)) ∧
    IsGreatest {n | Date.years.timed.on a n ≤ Date.years.timed.on b 0}
      (a.between b .years -
        if (a.date.month = b.date.month ∧ a.date.day = b.date.day) ∧
          b.clock.place < a.clock.place then 1 else 0) := by
  have hmonths := CalendarUnit.isGreatest_count Date.months.timed a b
  have hyears := CalendarUnit.isGreatest_count Date.years.timed a b
  rw [CalendarUnit.timed_count, ← between_months] at hmonths
  simp only [CalendarUnit.timed_count, ← between_years, years_inside_eq_iff] at hyears
  refine ⟨?_, hmonths, ?_, hyears⟩
  · rw [between_months]
    exact CalendarUnit.timed_on_count_le_iff
  · rw [between_years, ← years_inside_eq_iff]
    exact CalendarUnit.timed_on_count_le_iff

def marchNoon : DateTime := ⟨⟨2019, 3, 1, by decide⟩, ⟨12, 0, 0, 0, by decide⟩⟩

def nextMarch : DateTime := ⟨⟨2020, 3, 1, by decide⟩, .midnight⟩

/-- Twelve months and a year are counted twelve hours before they have gone by. -/
theorem marchNoon_units_not_elapsed :
    read? "2019-03-01T12:00:00" = some marchNoon ∧ read? "2020-03-01" = some nextMarch ∧
    ¬(∀ a b : DateTime, a.compare b ≠ .gt →
      Date.months.timed.on a (a.between b .months) ≤ Date.months.timed.on b 0) ∧
    ¬(∀ a b : DateTime, a.compare b ≠ .gt →
      Date.years.timed.on a (a.between b .years) ≤ Date.years.timed.on b 0) := by
  have hearlier : ¬marchNoon.clock.place ≤ nextMarch.clock.place := by decide
  refine ⟨by decide, by decide, fun h => ?_, fun h => ?_⟩
  · have hgone := h marchNoon nextMarch (by decide)
    rw [between_months, CalendarUnit.timed_on_count_le_iff] at hgone
    exact hearlier (hgone rfl)
  · have hgone := h marchNoon nextMarch (by decide)
    rw [between_years, CalendarUnit.timed_on_count_le_iff] at hgone
    exact hearlier (hgone rfl)

end DateTime
end StageGate
