/-! Dates and times of day, without a time zone. -/
namespace StageGate

def isLeapYear (year : Int) : Bool :=
  year % 4 == 0 && (year % 100 != 0 || year % 400 == 0)

def daysInMonth (year : Int) (month : Nat) : Nat :=
  if month = 2 then if isLeapYear year then 29 else 28
  else if month = 4 ∨ month = 6 ∨ month = 9 ∨ month = 11 then 30
  else 31

/-- The calendar has the date, within the years of the program. -/
def IsDate (year : Int) (month day : Nat) : Prop :=
  (-262143 ≤ year ∧ year ≤ 262142) ∧ (1 ≤ month ∧ month ≤ 12) ∧
    (1 ≤ day ∧ day ≤ daysInMonth year month)

instance (year : Int) (month day : Nat) : Decidable (IsDate year month day) := by
  unfold IsDate
  infer_instance

structure Date where
  year : Int
  month : Nat
  day : Nat
  isDate : IsDate year month day
deriving DecidableEq

/-- A second may be stretched to two: a leap second counts on from a thousand million. -/
def IsClock (hour minute second nanosecond : Nat) : Prop :=
  hour < 24 ∧ minute < 60 ∧ second < 60 ∧
    nanosecond < if second = 59 then 2000000000 else 1000000000

instance (hour minute second nanosecond : Nat) :
    Decidable (IsClock hour minute second nanosecond) := by
  unfold IsClock
  infer_instance

structure Clock where
  hour : Nat
  minute : Nat
  second : Nat
  nanosecond : Nat
  isClock : IsClock hour minute second nanosecond
deriving DecidableEq

namespace Date

/-- Days since the last day of the year before year one. -/
def dayNumber (d : Date) : Int :=
  let y := d.year - 1
  let before := (List.range (d.month - 1)).foldl (fun n m => n + daysInMonth d.year (m + 1)) 0
  365 * y + y / 4 - y / 100 + y / 400 + before + d.day

def compare (a b : Date) : Ordering :=
  (Ord.compare a.year b.year).then
    ((Ord.compare a.month b.month).then (Ord.compare a.day b.day))

end Date

namespace Clock

def midnight : Clock := ⟨0, 0, 0, 0, by decide⟩

def secondOfDay (t : Clock) : Nat :=
  3600 * t.hour + 60 * t.minute + t.second

def inLeapSecond (t : Clock) : Bool :=
  1000000000 ≤ t.nanosecond

def compare (a b : Clock) : Ordering :=
  (Ord.compare a.secondOfDay b.secondOfDay).then (Ord.compare a.nanosecond b.nanosecond)

end Clock

structure DateTime where
  date : Date
  clock : Clock
deriving DecidableEq

def DateTime.compare (a b : DateTime) : Ordering :=
  (a.date.compare b.date).then (a.clock.compare b.clock)

end StageGate
