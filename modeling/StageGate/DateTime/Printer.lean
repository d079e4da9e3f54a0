import StageGate.DateTime

/-! Date-times as text. -/
namespace StageGate

/-- Zeros in front up to the width. -/
def padded (width n : Nat) : List Char :=
  let digits := Nat.toDigits 10 n
  List.replicate (width - digits.length) '0' ++ digits

/-- Four digits, or a sign and at least four outside of 0 to 9999. -/
def yearChars (year : Int) : List Char :=
  if 0 ≤ year ∧ year ≤ 9999 then padded 4 year.natAbs
  else (if year < 0 then '-' else '+') :: padded 4 year.natAbs

namespace DateTime

def chars (t : DateTime) : List Char :=
  let second := if t.clock.inLeapSecond then 60 else t.clock.second
  yearChars t.date.year ++ '-' :: padded 2 t.date.month ++ '-' :: padded 2 t.date.day ++
    'T' :: padded 2 t.clock.hour ++ ':' :: padded 2 t.clock.minute ++ ':' :: padded 2 second

/-- To the second. -/
def toText (t : DateTime) : String :=
  String.ofList t.chars

/-- With nine digits of the second's fraction. -/
def toExactText (t : DateTime) : String :=
  String.ofList (t.chars ++ '.' :: padded 9 (t.clock.nanosecond % 1000000000))

end DateTime
end StageGate
