import StageGate.DateTime

/-! Whole units between two date-times. -/
namespace StageGate

inductive SpanUnit
  | days
  | months
  | years
deriving DecidableEq

namespace DateTime

/-- Seconds between two times of day. A leap second of the earlier one counts. -/
def clockSeconds (start finish : Clock) : Int :=
  let secs : Int := finish.secondOfDay - start.secondOfDay
  if finish.secondOfDay > start.secondOfDay ∧ start.inLeapSecond then secs + 1
  else if finish.secondOfDay < start.secondOfDay ∧ finish.inLeapSecond then secs - 1
  else secs

def nanosecondsBetween (start finish : DateTime) : Int :=
  ((finish.date.dayNumber - start.date.dayNumber) * 86400 + clockSeconds start.clock finish.clock) *
      1000000000 +
    (finish.clock.nanosecond - start.clock.nanosecond)

/-- Full days, towards zero. -/
def daysBetween (start finish : DateTime) : Int :=
  ((nanosecondsBetween start finish).tdiv 1000000000).tdiv 86400

/-- Months by the calendar; one that has not reached its day does not count. -/
def monthsBetween (start finish : Date) : Int :=
  let months := (finish.year - start.year) * 12 + finish.month - start.month
  if finish.day < start.day then months - 1 else months

/-- Years by the calendar; one that has not reached its month and day does not count. -/
def yearsBetween (start finish : Date) : Int :=
  let years := finish.year - start.year
  if finish.month < start.month ∨ (finish.month = start.month ∧ finish.day < start.day) then
    years - 1
  else years

def between (start finish : DateTime) : SpanUnit → Int
  | .days => daysBetween start finish
  | .months => monthsBetween start.date finish.date
  | .years => yearsBetween start.date finish.date

end DateTime
end StageGate
